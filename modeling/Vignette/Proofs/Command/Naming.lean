import Vignette.Proofs.Command.Agreement
import Vignette.Proofs.Key.Name
import Vignette.Proofs.Picture.Making

/-!
# Names of output files

A thumbnail that is saved without a name gets one: its key, a point, and the extension of the format that its
own bytes show. What they show is said without a word about looking (`Signature.IsFirst`): the bytes start with
one of the signatures, and with none of those that stand before it. Bytes that start with none of them may be
in the store too, and they pass for PNG.

Such a name has no slash in it and is neither empty nor made of points, so it is the name of something in the
folder in which the program runs.

Main statement: **the extension tells the format of whatever was made a thumbnail; any bytes at all are saved
under a single name behind a key, and no other place is touched** (`output_named_by_contents`).
-/

namespace Vignette

/-! ## 1. The first signature that fits -/

namespace Signature

/-- The bytes start as a signature says: there is a byte at each of its places, the one that is wanted if one
    is. -/
def Starts (data : ByteArray) (pattern : List (Option UInt8)) : Prop :=
  ∀ (i : Nat) (want : Option UInt8), pattern[i]? = some want →
    ∃ b, data[i]? = some b ∧ (want = none ∨ want = some b)

/-- The first signature in the table that the bytes start with is one of this format. -/
def IsFirst (data : ByteArray) (s : Signature) : Prop :=
  ∃ before pattern after, table = before ++ (s, pattern) :: after ∧
    (∀ row ∈ before, ¬ Starts data row.2) ∧ Starts data pattern

section First

variable {data : ByteArray} {s : Signature}

/-- Bytes fit from a place on just if each of them is one that is wanted. -/
theorem fits_from_iff {pattern : List (Option UInt8)} {n : Nat} : fits data n pattern = true ↔
    ∀ (i : Nat) (want : Option UInt8), pattern[i]? = some want →
      ∃ b, data[n + i]? = some b ∧ (want = none ∨ want = some b) := by
  induction pattern generalizing n with
  | nil => simp [fits]
  | cons want rest ih =>
    have hnext (i : Nat) : n + 1 + i = n + (i + 1) := by omega
    rw [fits]
    constructor
    · intro h i
      split at h
      · cases h
      · rename_i b hb
        rw [Bool.and_eq_true, ih] at h
        obtain ⟨hwant, hrest⟩ := h
        cases i with
        | zero =>
          rintro _ ⟨rfl⟩
          exact ⟨b, hb, by simpa [Option.isNone_iff_eq_none] using hwant⟩
        | succ i =>
          intro w hw
          rw [← hnext]
          exact hrest i w hw
    · intro h
      obtain ⟨b, hb, hwant⟩ := h 0 want rfl
      rw [Nat.add_zero] at hb
      simp only [hb, Bool.and_eq_true, ih]
      refine ⟨by simpa [Option.isNone_iff_eq_none] using hwant, fun i w hw => ?_⟩
      rw [hnext]
      exact h (i + 1) w hw

theorem fits_iff {pattern : List (Option UInt8)} : fits data 0 pattern = true ↔ Starts data pattern := by
  rw [fits_from_iff]
  simp only [Nat.zero_add, Starts]

/-- **The format of bytes is that of the first signature that they start with.** -/
theorem ofBytes?_eq_some_iff : ofBytes? data = some s ↔ IsFirst data s := by
  rw [ofBytes?, Option.map_eq_some_iff]
  constructor
  · rintro ⟨⟨s, pattern⟩, hrow, rfl⟩
    obtain ⟨hfits, before, after, htable, hbefore⟩ := List.find?_eq_some_iff_append.mp hrow
    refine ⟨before, pattern, after, htable, fun row hr hstarts => ?_, fits_iff.mp hfits⟩
    have hmiss : (!fits data 0 row.2) = true := hbefore row hr
    rw [fits_iff.mpr hstarts] at hmiss
    cases hmiss
  · rintro ⟨before, pattern, after, htable, hbefore, hstarts⟩
    refine ⟨(s, pattern), List.find?_eq_some_iff_append.mpr
      ⟨fits_iff.mpr hstarts, before, after, htable, fun row hr => ?_⟩, rfl⟩
    have hmiss : ¬ fits data 0 row.2 = true := fits_iff.not.mpr (hbefore row hr)
    simpa using hmiss

/-- **Bytes have no format just if they start with no signature.** -/
theorem ofBytes?_eq_none_iff : ofBytes? data = none ↔ ∀ row ∈ table, ¬ Starts data row.2 := by
  simp only [ofBytes?, Option.map_eq_none_iff, List.find?_eq_none, fits_iff]

theorem extension_ofFormat (f : Format) : (ofFormat f).extension = f.extension := by cases f <;> rfl

theorem slash_not_mem_extension (s : Signature) : '/' ∉ s.extension.toList := by cases s <;> decide

end First

end Signature

/-! ## 2. The name -/

namespace Thumbnail

/-- The extension that bytes show. -/
inductive Shows (data : ByteArray) : String → Prop where
  /-- That of the first signature that they start with. -/
  | signed (s : Signature) (h : s.IsFirst data) : Shows data s.extension
  /-- They start with none. -/
  | unsigned (h : ∀ row ∈ Signature.table, ¬ Signature.Starts data row.2) : Shows data "png"

section Name

variable {data : ByteArray} {e : String}

/-- **The extension in a name is the one that the bytes show**, and they show no other. -/
theorem extension_eq_iff : extension data = e ↔ Shows data e := by
  constructor
  · rintro rfl
    unfold extension
    cases hs : Signature.ofBytes? data with
    | none => exact .unsigned (Signature.ofBytes?_eq_none_iff.mp hs)
    | some s => exact .signed s (Signature.ofBytes?_eq_some_iff.mp hs)
  · rintro (⟨s, h⟩ | h)
    · rw [extension, Signature.ofBytes?_eq_some_iff.mpr h]
    · rw [extension, Signature.ofBytes?_eq_none_iff.mpr h]
      rfl

theorem slash_not_mem_extension (data : ByteArray) : '/' ∉ (extension data).toList := by
  unfold extension
  split <;> exact Signature.slash_not_mem_extension _

theorem isPlain_fileName (key : Key) (data : ByteArray) : Path.IsPlain (fileName key data) := by
  rw [fileName, String.append_assoc]
  refine FolderStore.isPlain_append key ?_
  rw [String.toList_append, List.mem_append, not_or]
  exact ⟨by decide, slash_not_mem_extension data⟩

/-- **What was made a thumbnail is named for its format.** -/
theorem fileName_of_make {decode : Decoder} {capture payload : ByteArray} {window thumb : Size} {format : Format}
    {crop : Bool} (key : Key) (h : (make decode capture window thumb format crop).2 = .ok payload) :
    fileName key payload = key.text ++ "." ++ format.extension := by
  have houtcome : Outcome decode capture window thumb format crop (.ok payload) := h ▸ outcome_make ..
  obtain ⟨_, -, hformat, -⟩ := houtcome.of_ok
  rw [fileName, extension, hformat]
  dsimp only
  rw [Signature.extension_ofFormat]

end Name

end Thumbnail

/-! ## 3. The place -/

namespace Path

variable {name : String}

/-- A path that is only a name. -/
theorem isChild_bare (h : IsPlain name) : IsChild ⟨""⟩ ⟨name⟩ name := by
  have hjoin : (⟨""⟩ : Path).join name = ⟨name⟩ := by simp [join, opening]
  exact hjoin ▸ isChild_join ⟨""⟩ h

theorem names_parent_bare (h : IsPlain name) : (Path.mk name).parent.names = [] := by
  have hpieces : (split name.toList).reverse.dropWhile (fun piece => !isName piece) = [name.toList] := by
    rw [split_of_not_mem h.no_slash, List.reverse_singleton,
      List.dropWhile_cons_of_neg (by rw [h.is_name]; decide)]
  simp only [parent, hpieces]
  rfl

theorem isFolder_bare (h : IsPlain name) : (Path.mk name).isFolder = false := by
  have hjoin : (⟨""⟩ : Path).join name = ⟨name⟩ := by simp [join, opening]
  exact hjoin ▸ isFolder_join ⟨""⟩ h

section Place

variable {here : Place}

/-- It leads to a place in the folder in which the program works. -/
theorem enter_bare (h : IsPlain name) :
    FileTree.enter (FileTree.origin here ⟨name⟩) name.toList = here ++ [name.toList] := by
  have horigin : FileTree.origin here ⟨name⟩ = here := (isChild_bare h).origin here
  rw [horigin, FileTree.enter, if_neg h.no_dots]

/-- It does so whatever there is. -/
theorem locate_bare (h : IsPlain name) (t : FileTree here) : t.locate ⟨name⟩ = .ok (here ++ [name.toList]) := by
  have hnames : (Path.mk name).names = [name.toList] := (isChild_bare h).names
  rw [FileTree.locate, hnames, FileTree.walk, enter_bare h]

end Place

end Path

/-! ## 4. Saving -/

section Save

open FileTree (Disk perform)

variable {here : Place} {τ : Type} {capture : BrowserSettings → Shot → τ → Sitting × τ} {clock : τ → Nat × τ}

/-- What comes of saving bytes under a single name: they are read from it, or there is a folder of that name;
    and every other place is as it was. -/
inductive Saves (name : String) (data : ByteArray) (t : FileTree here) :
    Except Failure Path → FileTree here → Prop where
  | done (u : FileTree here) (hread : u.read ⟨name⟩ = .ok data)
      (hrest : ∀ q, q ≠ here ++ [name.toList] → u.get? q = t.get? q) : Saves name data t (.ok ⟨name⟩) u
  | refused (hfolder : t.get? (here ++ [name.toList]) = some .folder) :
      Saves name data t (.error (.io "Is a directory (os error 21)")) t

theorem run_supply_bare {name : String} (h : Path.IsPlain name) (data : ByteArray) (d : Disk here) :
    d.tree.get? (here ++ [name.toList]) = some .folder ∧
        (FileProgram.supply ⟨name⟩ data).run perform d = (.error .isDirectory, d) ∨
      ∃ u, (FileProgram.supply ⟨name⟩ data).run perform d = (.ok (), ⟨u, d.tokens⟩) ∧
        u.read ⟨name⟩ = .ok data ∧ ∀ q, q ≠ here ++ [name.toList] → u.get? q = d.tree.get? q := by
  by_cases hfolder : d.tree.get? (here ++ [name.toList]) = some .folder
  · exact .inl ⟨hfolder, FileTree.run_supply_of_folder (Path.isChild_bare h).names (Path.names_parent_bare h)
      (Path.isFolder_bare h) (by rwa [Path.enter_bare h]) data⟩
  · have hspot : FileTree.Spot d.tree ⟨name⟩ (here ++ [name.toList]) :=
      ⟨Path.locate_bare h d.tree, Path.isFolder_bare h, hfolder⟩
    obtain ⟨u, hrun, hread, hrest, -⟩ := FileTree.run_write hspot data d.tokens
    refine .inr ⟨u, ?_, hread, hrest⟩
    have hmade : d.tree.makeAlong (FileTree.origin here (Path.mk name).parent) (Path.mk name).parent.names =
        (.ok (), d.tree) := by rw [Path.names_parent_bare h, FileTree.makeAlong]
    rw [FileProgram.supply, FileProgram.makeFolders, Program.bind_perform, Program.run_act,
      FileTree.perform_makeFolders, hmade]
    exact hrun

variable (capture clock) in
/-- **Saving without a name writes to the place of the name that it finds, and to no other.** -/
theorem runIn_save_unnamed (key : Key) (data : ByteArray) (w : CommandWorld (Disk here × τ)) :
    ∃ result w', (save key data none).runIn (desk capture clock) w = (some result, w') ∧
      Saves (Thumbnail.fileName key data) data w.tree result w'.tree := by
  rw [save_eq key data none rfl]
  obtain ⟨hfolder, hrun⟩ | ⟨u, hrun, hread, hrest⟩ :=
    run_supply_bare (Thumbnail.isPlain_fileName key data) data w.state.1
  · refine ⟨_, w, ?_, .refused hfolder⟩
    rw [runIn_files_bind, Option.getD_none, hrun]
    rfl
  · obtain ⟨_, m, hnote, hm⟩ := runIn_spares capture clock
      (x := .note (.saved (Thumbnail.fileName key data))) trivial (w.withDisk ⟨u, w.state.1.tokens⟩)
    refine ⟨.ok ⟨Thumbnail.fileName key data⟩, m, ?_, ?_⟩
    · rw [runIn_files_bind, Option.getD_none, hrun]
      exact runIn_bind hnote
    · rw [hm.tree]
      exact .done u hread hrest

end Save

/-- **An output file is named by its contents.** Whatever is made a thumbnail in a format has the extension of
    that format behind its key. All bytes show just one extension; the name that they get with a key is the
    64 characters of the key, a point and that extension; it is the path of something directly in the folder
    in which the program runs, whatever there is; and saving the bytes under it touches that place only. -/
theorem output_named_by_contents (key : Key) :
    (∀ decode capture window thumb format crop payload,
      (Thumbnail.make decode capture window thumb format crop).2 = .ok payload →
        Thumbnail.fileName key payload = key.text ++ "." ++ format.extension) ∧
    ∀ data : ByteArray,
      (∃ extension, (∀ e, Thumbnail.Shows data e ↔ e = extension) ∧
        Thumbnail.fileName key data = key.text ++ "." ++ extension) ∧
      key.text.length = 64 ∧
      Path.IsChild ⟨""⟩ ⟨Thumbnail.fileName key data⟩ (Thumbnail.fileName key data) ∧
      (∀ (here : Place) (t : FileTree here),
        t.locate ⟨Thumbnail.fileName key data⟩ = .ok (here ++ [(Thumbnail.fileName key data).toList])) ∧
      ∀ {here : Place} {τ : Type} (capture : BrowserSettings → Shot → τ → Sitting × τ) (clock : τ → Nat × τ)
        (w : CommandWorld (FileTree.Disk here × τ)),
        ∃ result w', (save key data none).runIn (desk capture clock) w = (some result, w') ∧
          Saves (Thumbnail.fileName key data) data w.tree result w'.tree := by
  refine ⟨fun decode capture window thumb format crop payload h => Thumbnail.fileName_of_make key h, fun data => ?_⟩
  have hplain := Thumbnail.isPlain_fileName key data
  refine ⟨⟨Thumbnail.extension data, fun e => ?_, rfl⟩, ?_, Path.isChild_bare hplain,
    fun _ => Path.locate_bare hplain, fun capture clock w => runIn_save_unnamed capture clock key data w⟩
  · rw [← Thumbnail.extension_eq_iff, eq_comm]
  · rw [← String.length_toList]
    exact FolderStore.length_key key

/-- A gray pixel that is made a JPEG file is saved as one, and not under the name of the netpbm file that it
    was captured as. -/
theorem pixel_named_by_contents :
    let capture : ByteArray := ⟨#[0x50, 0x35, 0x20, 0x31, 0x20, 0x31, 0x20, 0x32, 0x35, 0x35, 0x0A, 0x07]⟩
    let key := Key.derive .chart "d1" ⟨1, 1⟩ ⟨1, 1⟩
    Thumbnail.fileName key capture = key.text ++ ".pbm" ∧
      ∃ payload, (Thumbnail.make Decoder.builtIn capture ⟨1, 1⟩ ⟨1, 1⟩ .jpeg true).2 = .ok payload ∧
        Thumbnail.fileName key payload = key.text ++ "." ++ "jpg" := by
  intro capture key
  have hmade : (Thumbnail.make Decoder.builtIn capture ⟨1, 1⟩ ⟨1, 1⟩ .jpeg true).2.isOk = true := by decide +kernel
  have hpnm : Thumbnail.extension capture = "pbm" := by decide +kernel
  refine ⟨by rw [Thumbnail.fileName, hpnm, String.append_assoc]; rfl, ?_⟩
  cases h : (Thumbnail.make Decoder.builtIn capture ⟨1, 1⟩ ⟨1, 1⟩ .jpeg true).2 with
  | error e =>
    rw [h] at hmade
    cases hmade
  | ok payload =>
    exact ⟨payload, rfl, (output_named_by_contents key).1 Decoder.builtIn capture ⟨1, 1⟩ ⟨1, 1⟩ .jpeg true payload h⟩

end Vignette
