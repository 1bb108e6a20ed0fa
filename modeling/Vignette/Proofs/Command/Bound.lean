import Vignette.Command.World
import Vignette.Proofs.Settings.Check

/-!
# What commands may do

A command on a target works for one key: whatever steps on files it takes are those of a look or a write
under that key, or put the thumbnail into the file that is wanted. It captures in its window, and blames
no size but its own (`CommandAction.Bound`).

Main statements: **the key of a target is the one that is set, whatever its address is**
(`Context.key_of_snapshotOf`), and **every command on the target keeps within the bounds of that key**
(`Context.within_get`, `Context.within_warm`, `Context.within_cached`).
-/

namespace Vignette

open CommandProgram

/-! ## 1. Steps on files -/

namespace FolderStore

/-- A step of a look into the store under a key, or of a write under it. -/
def Touches (s : FolderStore) (key : Key) : FileStep → Prop
  | .read p => p = s.pathFor key
  | .makeFolders p => p = s.folder
  | .create p => ∃ token, p = s.temporaryPath key token
  | .append p _ => ∃ token, p = s.temporaryPath key token
  | .rename source target => (∃ token, source = s.temporaryPath key token) ∧ target = s.pathFor key
  | .remove p => ∃ token, p = s.temporaryPath key token
  | .token => True

theorem within_get (s : FolderStore) (key : Key) : (s.get key).Within (s.Touches key) := by
  refine ⟨rfl, fun answer => ?_⟩
  rcases answer with e | data
  · cases e <;> trivial
  · trivial

theorem within_set (s : FolderStore) (key : Key) (payload : ByteArray) :
    (s.set key payload).Within (s.Touches key) := by
  refine ⟨trivial, fun token => ⟨rfl, fun made => ?_⟩⟩
  cases made with
  | error e => trivial
  | ok _ =>
    have hwrite : (FileProgram.write (s.temporaryPath key token) [payload]).Within (s.Touches key) := by
      refine ⟨⟨token, rfl⟩, fun created => ?_⟩
      cases created with
      | error e => trivial
      | ok _ =>
        refine ⟨⟨token, rfl⟩, fun appended => ?_⟩
        cases appended <;> trivial
    refine hwrite.bind fun written => ?_
    cases written with
    | error e => trivial
    | ok _ =>
      refine ⟨⟨⟨token, rfl⟩, rfl⟩, fun renamed => ?_⟩
      cases renamed with
      | error e => exact ⟨⟨token, rfl⟩, fun _ => trivial⟩
      | ok _ => trivial

end FolderStore

/-- A step of putting a thumbnail into a file. -/
def Path.Saves (path : Path) : FileStep → Prop
  | .makeFolders p => p = path.parent
  | .create p => p = path
  | .append p _ => p = path
  | _ => False

theorem Path.within_makeFolders (path : Path) :
    (FileProgram.makeFolders path.parent).Within path.Saves := Program.within_perform rfl

theorem Path.within_write (path : Path) (data : ByteArray) :
    (FileProgram.write path [data]).Within path.Saves := by
  refine ⟨rfl, fun created => ?_⟩
  cases created with
  | error e => trivial
  | ok _ =>
    refine ⟨rfl, fun appended => ?_⟩
    cases appended <;> trivial

/-! ## 2. Bounds -/

/-- What is done for a key of a store, into one of some files, and with a window and a thumbnail size. -/
def CommandAction.Bound (store : FolderStore) (key : Key) (files : Path → Prop) (window thumb : Size) :
    CommandAction → Prop
  | file step => store.Touches key step ∨ ∃ path, files path ∧ path.Saves step
  | capture _ shot => shot.window = window
  | note (.pictureFailed _ e) => e.Blames window thumb
  | _ => True

/-- The file that is wanted, whatever the thumbnail is. -/
def OutputOf (key : Key) (output : Option Path) (path : Path) : Prop :=
  ∃ thumbnail, path = output.getD ⟨Thumbnail.fileName key thumbnail⟩

section Bound

variable {α : Type} {store : FolderStore} {key : Key} {wanted : Path → Prop} {window thumb : Size}

theorem within_files {p : FileProgram α} {P : FileStep → Prop} (h : p.Within P)
    (hP : ∀ step, P step → store.Touches key step ∨ ∃ path, wanted path ∧ path.Saves step) :
    (files p).Within (CommandAction.Bound store key wanted window thumb) :=
  h.expand fun step hstep => Program.within_perform (hP step hstep)

theorem within_sayAll (lines : List String) :
    (sayAll lines).Within (CommandAction.Bound store key wanted window thumb) := by
  refine Program.within_performAll fun x hx => ?_
  obtain ⟨line, -, rfl⟩ := List.mem_map.mp hx
  trivial

theorem within_save {thumbnail : ByteArray} {output : Option Path}
    (h : wanted (output.getD ⟨Thumbnail.fileName key thumbnail⟩)) :
    (save key thumbnail output).Within (CommandAction.Bound store key wanted window thumb) := by
  have hstep (step : FileStep) (hs : (output.getD ⟨Thumbnail.fileName key thumbnail⟩).Saves step) :
      store.Touches key step ∨ ∃ path, wanted path ∧ path.Saves step := .inr ⟨_, h, hs⟩
  refine (within_files (Path.within_makeFolders _) hstep).bind fun made => ?_
  cases made with
  | error e => trivial
  | ok _ =>
    refine (within_files (Path.within_write _ thumbnail) hstep).bind fun written => ?_
    cases written with
    | error e => trivial
    | ok _ => exact ⟨trivial, fun _ => trivial⟩

namespace Context

variable {c : Context} {t : Target} {s : Snapshot}

/-- **A snapshot's program keeps within its bounds when it becomes a part of a command.** -/
theorem within_snapshot {p : SnapshotProgram α} (h : p.Within (SnapshotAction.Bound (some key) window thumb)) :
    (c.snapshot p).Within (CommandAction.Bound c.store key wanted window thumb) := by
  refine h.expand fun x hx => ?_
  cases x with
  | read k =>
    obtain rfl : key = k := Option.some.inj hx
    exact within_files (c.store.within_get key) fun _ hs => .inl hs
  | write k payload =>
    obtain rfl : key = k := Option.some.inj hx
    refine (within_files (c.store.within_set key payload) fun _ hs => .inl hs).bind fun written => ?_
    cases written with
    | error e => trivial
    | ok _ => exact ⟨trivial, fun _ => trivial⟩
  | capture shot => exact Program.within_perform hx
  | note n =>
    refine Program.within_perform ?_
    cases n <;> exact hx
  | count kind counter => exact Program.within_perform trivial

set_option maxRecDepth 10000 in
/-- An address that can be read. -/
theorem parse_loopback : ∃ u, Url.parse "http://[::1]/" = .ok u :=
  ⟨⟨"http".toList, [], [], some (.ipv6 [0, 0, 0, 0, 0, 0, 0, 1]), none, .segments [[]], none, none⟩, rfl⟩

/-- There is a snapshot of a target whose address can be read. -/
theorem exists_snapshotOf (c : Context) (h : ∃ u, Url.parse t.address = .ok u) :
    ∃ s, c.snapshotOf t = .ok s := by
  obtain ⟨u, h⟩ := h
  simp only [snapshotOf, Settings.request, Request.make, withParameter, h]
  exact ⟨_, rfl⟩

/-- The request of a snapshot is for the target, at the sizes that are set for its kind. -/
theorem request_of_snapshotOf (h : c.snapshotOf t = .ok s) :
    s.request.kind = t.kind ∧ s.request.digest = t.digest ∧
      s.request.window = (c.settings.sizes t.kind).window ∧
      s.request.thumb = (c.settings.sizes t.kind).thumb := by
  unfold snapshotOf at h
  split at h
  · cases h
  · rename_i r hr
    cases h
    exact Settings.fields_of_request hr

/-- **The key of a target is the one that is set, whatever its address is.** -/
theorem key_of_snapshotOf (h : c.snapshotOf t = .ok s) (window thumb : Option Size) :
    s.key window thumb = c.settings.key t.kind t.digest window thumb := by
  obtain ⟨hkind, hdigest, hwindow, hthumb⟩ := request_of_snapshotOf h
  rw [Snapshot.key, Snapshot.windowOf, Snapshot.thumbOf, hkind, hdigest, hwindow, hthumb, Settings.key]

variable (h : c.snapshotOf t = .ok s)
include h

theorem within_get (thumb : Option Size) (output : Option Path) :
    (c.get t thumb output).Within (CommandAction.Bound c.store (s.key none thumb)
      (OutputOf (s.key none thumb) output) (s.windowOf none) (s.thumbOf thumb)) := by
  rw [get, h]
  refine ⟨trivial, fun _ => ⟨trivial, fun _ => (within_snapshot (s.within_get c.identity thumb)).bind fun r => ?_⟩⟩
  rcases r with e | _ | thumbnail
  · trivial
  · trivial
  refine (within_save ⟨thumbnail, rfl⟩).bind fun saved => ?_
  cases saved with
  | error e => trivial
  | ok path => exact (within_sayAll _).bind fun _ => ⟨trivial, fun _ => ⟨trivial, fun _ => trivial⟩⟩

theorem within_warm (window thumb : Option Size) (force : Bool) :
    (c.warm t window thumb force).Within (CommandAction.Bound c.store (s.key window thumb)
      (fun _ => False) (s.windowOf window) (s.thumbOf thumb)) := by
  rw [warm, h]
  refine ⟨trivial, fun _ => (within_snapshot (s.within_compute c.identity window thumb force)).bind fun r => ?_⟩
  rcases r with e | _ | thumbnail
  · trivial
  · change (c.afterNone s window thumb force).Within _
    unfold afterNone
    split
    · exact ⟨trivial, fun _ => trivial⟩
    · refine (within_snapshot (s.within_cached window thumb)).bind fun r => ?_
      rcases r with e | _ | thumbnail
      · trivial
      · exact ⟨trivial, fun _ => trivial⟩
      · exact ⟨trivial, fun _ => trivial⟩
  · exact ⟨trivial, fun _ => ⟨trivial, fun _ => trivial⟩⟩

theorem within_cached (window thumb : Option Size) (output : Option Path) :
    (c.cached t window thumb output).Within (CommandAction.Bound c.store (s.key window thumb)
      (OutputOf (s.key window thumb) output) (s.windowOf window) (s.thumbOf thumb)) := by
  rw [cached, h]
  refine (within_snapshot (s.within_cached window thumb)).bind fun r => ?_
  rcases r with e | _ | thumbnail
  · trivial
  · trivial
  refine (within_save ⟨thumbnail, rfl⟩).bind fun saved => ?_
  cases saved with
  | error e => trivial
  | ok path => exact ⟨trivial, fun _ => trivial⟩

end Context

end Bound

end Vignette
