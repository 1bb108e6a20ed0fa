import Vignette.Amount
import Vignette.Format
import Vignette.Key
import Vignette.Identity
import Vignette.Kind
import Vignette.Number.Nearest
import Vignette.Number.Shortest
import Vignette.Size
import Vignette.Span
import Vignette.Text.Blank
import Vignette.Text.Decimal
import Vignette.Text.Hex
import Vignette.Text.Quoted
import Vignette.Text.Utf8
import Vignette.Failure
import Vignette.Settings
import Vignette.Settings.Codec
import Vignette.Json.Reader
import Vignette.Json.Tree
import Vignette.Digest
import Vignette.Text.Composition
import Vignette.Url.Domain.Mapping
import Vignette.Url.Domain.Script
import Vignette.Url.Domain
import Vignette.Url.Parser
import Vignette.Request
import Vignette.Picture.Basic
import Vignette.Picture.Signature
import Vignette.Picture.Binary
import Vignette.Picture.Deflate
import Vignette.Picture.Png.Decode
import Vignette.Picture.Crop
import Vignette.Picture.Resample
import Vignette.Picture.Netpbm
import Vignette.Picture.Plain
import Vignette.Picture.Radiance
import Vignette.Picture.Rgb
import Vignette.Picture.Jpeg
import Vignette.Picture.Webp
import Vignette.Picture.Codec
import Vignette.Program
import Vignette.Browser.Session
import Vignette.Browser.Rehearsal
import Vignette.Snapshot
import Vignette.World
import Vignette.Path
import Vignette.FileTree
import Vignette.Store
import Vignette.Store.Files
import Vignette.Journal
import Vignette.Thumbnail
import Vignette.Command.Switch
import Vignette.Command.Line
import Vignette.Command.Run
import Vignette.Command.World
import Vignette.Main
import Vignette.Proofs.Picture.Encoded
import Vignette.Proofs.Snapshot.Course
import Vignette.Proofs.Snapshot.Account
import Vignette.Proofs.Snapshot.Entries
import Vignette.Proofs.Snapshot.Call
import Vignette.Proofs.Snapshot.Service
import Vignette.Proofs.Snapshot.Provenance
import Vignette.Proofs.Snapshot.Refusal
import Vignette.Proofs.Snapshot.Steadiness
import Vignette.Proofs.Snapshot.Ledger
import Vignette.Proofs.Program.Interleaving
import Vignette.Proofs.Snapshot.Traffic
import Vignette.Proofs.Json.ReadBack
import Vignette.Proofs.Key.Material
import Vignette.Proofs.Store.Folder
import Vignette.Proofs.Store.Visibility
import Vignette.Proofs.Snapshot.Refinement
import Vignette.Proofs.Store.Mirror
import Vignette.Proofs.Text.Utf8
import Vignette.Proofs.Url.Form
import Vignette.Proofs.Url.Layout
import Vignette.Proofs.Url.Reading
import Vignette.Proofs.Url.Parameter
import Vignette.Proofs.Program.Within
import Vignette.Proofs.Snapshot.Bound
import Vignette.Proofs.Command.Bound
import Vignette.Proofs.Command.Limits
import Vignette.Proofs.Store.Output
import Vignette.Proofs.Command.Desk
import Vignette.Proofs.Command.Agreement
import Vignette.Proofs.Snapshot.Independence
import Vignette.Proofs.Settings.Partial
import Vignette.Proofs.Picture.Crop
import Vignette.Proofs.Snapshot.Unfit
import Vignette.Proofs.Picture.Making
import Vignette.Proofs.Picture.Trim
import Vignette.Proofs.Store.Remainder
import Vignette.Proofs.Snapshot.Likeness
import Vignette.Proofs.Command.Warming
import Vignette.Proofs.Key.Name
import Vignette.Proofs.Size.Grammar
import Vignette.Proofs.Settings.Check
import Vignette.Proofs.Url.Settled
import Vignette.Proofs.Url.Authority
import Vignette.Proofs.Url.ReadBack
import Vignette.Proofs.Url.Override
import Vignette.Proofs.Identity.Cookie
import Vignette.Proofs.Command.Naming
import Vignette.Proofs.Amount.Scale
import Vignette.Proofs.Browser.Plan
import Vignette.Proofs.Browser.Closing
