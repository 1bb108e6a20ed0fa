import Vignette.Proofs.Store.Visibility

/-!
# What a refused writer leaves behind

A writer makes the folder, writes a temporary file piece by piece, and renames it; each step may be
refused, and then a part of its work may be done (`FileTree.Tries`). A writer whose renaming is refused
takes its temporary file away again, and that removal is taken here to be done whenever it is tried
(`FileTree.TriesTidily`). A writer that is refused a piece does not try.

Main statement: **a writer that is refused leaves all as it was, but for folders that it made, and its
temporary file is gone, unless writing it was what was refused: then a beginning of the bytes may be left in
it** (`FolderStore.refused_remains`). One byte of two may be left like that, and folders that were made may
open the way to a file (`FolderStore.traces_remain`).
-/

namespace Vignette

open FileTree (origin)

variable {here : Place}

/-! ## 1. Steps that are refused -/

/-- Is the step one of writing a file, and refused? -/
def FileStep.isRefusedWrite : (x : FileStep) → x.Answer → Bool
  | .create _, .error _ => true
  | .append _ _, .error _ => true
  | _, _ => false

/-- A renaming that is refused leaves the tree as it is. -/
theorem FileTree.rename_error {t u : FileTree here} {source target : Path} {e : SystemError}
    (h : t.rename source target = (.error e, u)) : u = t := by
  unfold FileTree.rename at h
  split at h
  · exact (Prod.mk.inj h).2.symm
  · exact (Prod.mk.inj h).2.symm
  · split at h
    · exact (Prod.mk.inj h).2.symm
    · exact (Prod.mk.inj h).2.symm
    · exact (Prod.mk.inj h).2.symm
    · cases (Prod.mk.inj h).1

/-- So does a write that is refused. -/
theorem FileTree.write_error {t u : FileTree here} {p : Path} {contents : ByteArray → ByteArray} {e : SystemError}
    (h : t.write p contents = (.error e, u)) : u = t := by
  unfold FileTree.write at h
  split at h
  · exact (Prod.mk.inj h).2.symm
  · split at h
    · exact (Prod.mk.inj h).2.symm
    · split at h
      · exact (Prod.mk.inj h).2.symm
      · cases (Prod.mk.inj h).1
      · cases (Prod.mk.inj h).1

/-- Bytes that are put behind others have those before them. -/
theorem exists_foldl_append (pieces : List ByteArray) (written : ByteArray) :
    ∃ rest, pieces.foldl (· ++ ·) written = written ++ rest := by
  induction pieces generalizing written with
  | nil => exact ⟨ByteArray.empty, ByteArray.append_empty.symm⟩
  | cons piece pieces ih =>
    obtain ⟨rest, hrest⟩ := ih (written ++ piece)
    refine ⟨piece ++ rest, ?_⟩
    rw [List.foldl_cons, hrest, ByteArray.append_assoc]

/-- A part of the bytes has the rest of them behind it. -/
theorem exists_extract_append (data : ByteArray) (n : Nat) : ∃ rest, data = data.extract 0 n ++ rest := by
  refine ⟨data.extract n data.size, ?_⟩
  ext1
  simp

namespace FolderStore

/-! ## 2. What is left -/

section Remains

variable {s : FolderStore} {d : Deposit} {t u v : FileTree here} {es : List (Exchange FileStep.Answer)}

/-- All is the same but folders that were made, and perhaps the temporary file. -/
def Kept (s : FolderStore) (d : Deposit) (t u : FileTree here) : Prop :=
  ∀ q, q ≠ s.draft here d.key d.token → u.get? q = t.get? q ∨ t.get? q = none ∧ u.get? q = some .folder

/-- There is no temporary file. -/
def Gone (s : FolderStore) (d : Deposit) (u : FileTree here) : Prop :=
  ∀ data, u.get? (s.draft here d.key d.token) ≠ some (.file data)

/-- The temporary file has a beginning of the bytes in it. -/
def Begun (s : FolderStore) (d : Deposit) (u : FileTree here) : Prop :=
  ∃ written rest, u.get? (s.draft here d.key d.token) = some (.file written) ∧ d.payload = written ++ rest

/-- All is as it was but for folders; and there is no temporary file, or it was begun and a write to it was
    refused. -/
structure Abandoned (s : FolderStore) (d : Deposit) (t : FileTree here) (es : List (Exchange FileStep.Answer))
    (u : FileTree here) : Prop where
  kept : Kept s d t u
  draft : Gone s d u ∨ (∃ x ∈ es, x.1.isRefusedWrite x.2 = true) ∧ Begun s d u

theorem Kept.refl (s : FolderStore) (d : Deposit) (t : FileTree here) : Kept s d t t := fun _ _ => .inl rfl

theorem Kept.trans (h : Kept s d t u) (h' : Kept s d u v) : Kept s d t v := by
  intro q hq
  rcases h q hq with hsame | ⟨hnone, hfolder⟩
  · rw [← hsame]
    exact h' q hq
  · rcases h' q hq with hsame' | ⟨hnone', -⟩
    · exact .inr ⟨hnone, hsame'.trans hfolder⟩
    · cases hnone'.symm.trans hfolder

/-- Whether it is refused or not, making folders makes some of them. -/
theorem exists_makeAlong {answer : Except SystemError Unit}
    (h : FileTree.Tries (.makeFolders s.folder) t answer u) :
    ∃ n, u = (t.makeAlong (origin here s.folder) (s.folder.names.take n)).2 := by
  rcases h with hdone | ⟨-, n, -, hpart⟩
  · refine ⟨s.folder.names.length, ?_⟩
    rw [List.take_length, ← hdone]
  · exact ⟨n, hpart⟩

/-- **A step that is no renaming keeps all but the temporary file.** -/
theorem Change.kept (h : Change s d t u false) : Kept s d t u := by
  intro q hq
  cases h with
  | folders n h =>
    rw [h]
    exact FileTree.get?_makeAlong q _ t _
  | draft _ _ hrest => exact .inl (hrest q hq)

/-- What was abandoned after one more step was abandoned. -/
theorem Abandoned.cons {x : Exchange FileStep.Answer} (hkept : Kept s d t u) (h : Abandoned s d u es v) :
    Abandoned s d t (x :: es) v := by
  refine ⟨hkept.trans h.kept, h.draft.imp_right ?_⟩
  rintro ⟨⟨y, hy, hrefused⟩, hbegun⟩
  exact ⟨⟨y, List.mem_cons_of_mem x hy, hrefused⟩, hbegun⟩

end Remains

/-! ## 3. Writers that are refused -/

section Refused

variable {s : FolderStore} {d : Deposit} {t u m : FileTree here} {es : List (Exchange FileStep.Answer)}
  {e : StoreFailure} (hplain : Path.IsPlain (temporaryName d.key d.token))

include hplain

/-- A writer that clears up after itself takes its temporary file away. -/
theorem abandoned_clearing {reason : SystemError} {data : ByteArray} (hs : s.Stands t)
    (hfile : t.get? (s.draft here d.key d.token) = some (.file data))
    (h : (Stage.program s d (.clearing reason)).Ends FileTree.TriesTidily t es (.error e) u) :
    Abandoned s d t es u := by
  rw [Stage.program_clearing] at h
  obtain ⟨answer, m, rest, rfl, hremove, rfl, -, rfl⟩ := h
  have hdone : t.remove (s.temporaryPath d.key d.token) = (.ok (), t.erase (s.draft here d.key d.token)) :=
    hs.remove_done hplain hfile
  obtain ⟨-, rfl⟩ := Prod.mk.inj (Eq.trans hremove hdone)
  refine ⟨fun q hq => .inl (FileTree.get?_erase_of_ne hq), .inl fun data => ?_⟩
  · have hgone : (t.erase (s.draft here d.key d.token)).get? (s.draft here d.key d.token) = none :=
      FileTree.get?_erase_self (FileTree.isAbove_of_ne_folder (FileTree.ne_folder_of_file hfile))
    rw [hgone]
    exact (Option.some_ne_none _).symm

/-- A temporary file that is refused a piece has a beginning of the bytes in it. -/
theorem begun_of_refused_piece {written piece : ByteArray} {rest : List ByteArray} {reason : SystemError}
    (hd : (Stage.filling written (piece :: rest)).Holds s d t)
    (htries : FileTree.Tries (.append (s.temporaryPath d.key d.token) piece) t (.error reason) u) :
    Begun s d u := by
  obtain ⟨hs, hpayload, hfile⟩ := hd
  have hfolder := FileTree.ne_folder_of_file hfile
  obtain ⟨behind, hbehind⟩ := exists_foldl_append rest (written ++ piece)
  have hall : d.payload = written ++ (piece ++ behind) := by
    rw [← hpayload, List.foldl_cons, hbehind, ByteArray.append_assoc]
  rcases htries with hdone | ⟨-, n, -, rfl | hpart⟩
  · obtain ⟨old, hwrite, -⟩ := hs.write_done hplain hfolder fun old => old ++ piece
    cases hdone.trans hwrite
  · exact ⟨written, piece ++ behind, hfile, hall⟩
  · obtain ⟨old, hwrite, hold⟩ := hs.write_done hplain hfolder fun old => old ++ piece.extract 0 n
    obtain rfl : old = written := hold written hfile
    obtain ⟨cut, hcut⟩ := exists_extract_append piece n
    rw [hpart, temporaryPath, hwrite]
    refine ⟨old ++ piece.extract 0 n, cut ++ behind, ?_, ?_⟩
    · exact FileTree.get?_put_self (FileTree.isAbove_of_ne_folder hfolder)
    · calc d.payload = old ++ (piece ++ behind) := hall
        _ = old ++ (piece.extract 0 n ++ cut ++ behind) := by rw [← hcut]
        _ = old ++ piece.extract 0 n ++ (cut ++ behind) := by simp only [ByteArray.append_assoc]

/-- **A writer that is refused while it fills its temporary file, or after that.** Induction on the pieces
    that are not written yet. -/
theorem abandoned_filling : ∀ {rest : List ByteArray} {written : ByteArray} {t : FileTree here}
    {es : List (Exchange FileStep.Answer)}, (Stage.filling written rest).Holds s d t →
      (Stage.program s d (.filling written rest)).Ends FileTree.TriesTidily t es (.error e) u →
        Abandoned s d t es u
  | [], written, t, es, ⟨hs, hpayload, hfile⟩, h => by
    rw [Stage.program_filled] at h
    obtain ⟨answer, m, rest, rfl, htries, h⟩ := h
    cases answer with
    | ok _ =>
      obtain ⟨-, hr, -⟩ := h
      cases hr
    | error reason =>
      have hm : m = t := by
        rcases htries with hdone | ⟨-, -, hsame⟩
        · exact FileTree.rename_error hdone.symm
        · exact hsame
      subst hm
      exact .cons (.refl s d m) (abandoned_clearing hplain hs hfile h)
  | piece :: rest, written, t, es, hd, h => by
    rw [Stage.program_piece] at h
    obtain ⟨answer, m, behind, rfl, htries, h⟩ := h
    obtain ⟨hnext, hchange⟩ := comes_piece hplain hd htries
    cases answer with
    | ok _ => exact .cons hchange.kept (abandoned_filling hnext h)
    | error reason =>
      obtain ⟨rfl, -, rfl⟩ := h
      refine ⟨hchange.kept, .inr ⟨⟨_, List.mem_cons_self, rfl⟩, ?_⟩⟩
      exact begun_of_refused_piece hplain hd htries

/-- A writer that is refused when it makes its temporary file, or after that. -/
theorem abandoned_creating (hs : s.Stands t) (hfresh : Gone s d t)
    (h : (Stage.program s d .creating).Ends FileTree.TriesTidily t es (.error e) u) :
    Abandoned s d t es u := by
  rw [Stage.program_creating] at h
  obtain ⟨answer, m, behind, rfl, htries, h⟩ := h
  obtain ⟨hnext, hchange⟩ := comes_creating hplain hs htries
  cases answer with
  | ok _ => exact .cons hchange.kept (abandoned_filling hplain hnext h)
  | error reason =>
    obtain ⟨rfl, -, rfl⟩ := h
    refine ⟨hchange.kept, ?_⟩
    rcases htries with hdone | ⟨-, -, rfl | hpart⟩
    · rw [FileTree.write_error hdone.symm]
      exact .inl hfresh
    · exact .inl hfresh
    · by_cases hfolder : t.get? (s.draft here d.key d.token) = some .folder
      · rw [hpart, temporaryPath, hs.write_refused hplain hfolder]
        exact .inl hfresh
      · obtain ⟨old, hwrite, -⟩ := hs.write_done hplain hfolder fun _ => ByteArray.empty
        rw [hpart, temporaryPath, hwrite]
        refine .inr ⟨⟨_, List.mem_cons_self, rfl⟩, ByteArray.empty, d.payload, ?_, ?_⟩
        · exact FileTree.get?_put_self (FileTree.isAbove_of_ne_folder hfolder)
        · exact ByteArray.empty_append.symm

/-- A writer that is refused at any step. -/
theorem abandoned_begin (hfresh : Gone s d t)
    (h : (d.program s).Ends FileTree.TriesTidily t es (.error e) u) : Abandoned s d t es u := by
  have hbegin : d.program s = Stage.program s d .begin := rfl
  rw [hbegin, Stage.program_begin] at h
  obtain ⟨answer, m, behind, rfl, htries, h⟩ := h
  obtain ⟨hnext, hchange⟩ := comes_begin htries
  have hgone : Gone s d m := by
    intro data hfile
    obtain ⟨n, rfl⟩ := exists_makeAlong htries
    exact hfresh data (FileTree.get?_eq_file_of_makeAlong hfile)
  cases answer with
  | ok _ => exact .cons hchange.kept (abandoned_creating hplain hnext hgone h)
  | error reason =>
    obtain ⟨rfl, -, rfl⟩ := h
    exact ⟨hchange.kept, .inl hgone⟩

end Refused

/-- **What a refused writer leaves behind.** Every place has what it had, or has a folder now where nothing
    was: no file has changed and none has come. There is no temporary file either; only if it could not be
    written, a beginning of the bytes may be left in it. -/
theorem refused_remains {s : FolderStore} {d : Deposit} {t u : FileTree here}
    {es : List (Exchange FileStep.Answer)} {e : StoreFailure} (hslash : '/' ∉ d.token.toList)
    (hfresh : ∀ data, t.get? (s.draft here d.key d.token) ≠ some (.file data))
    (h : (d.program s).Ends FileTree.TriesTidily t es (.error e) u) :
    (∀ q, q ≠ s.draft here d.key d.token →
      u.get? q = t.get? q ∨ t.get? q = none ∧ u.get? q = some .folder) ∧
    ((∀ x ∈ es, x.1.isRefusedWrite x.2 = false) →
      ∀ data, u.get? (s.draft here d.key d.token) ≠ some (.file data)) ∧
    ∀ data, u.get? (s.draft here d.key d.token) = some (.file data) → ∃ rest, d.payload = data ++ rest := by
  have hplain : Path.IsPlain (temporaryName d.key d.token) := isPlain_temporaryName d.key hslash
  have habandoned : Abandoned s d t es u := abandoned_begin hplain hfresh h
  refine ⟨habandoned.kept, fun hwritten => ?_, fun data hfile => ?_⟩
  · rcases habandoned.draft with hgone | ⟨⟨x, hx, hrefused⟩, -⟩
    · exact hgone
    · cases (hwritten x hx).symm.trans hrefused
  · rcases habandoned.draft with hgone | ⟨-, written, rest, hbegun, hpayload⟩
    · exact absurd hfile (hgone data)
    · cases hbegun.symm.trans hfile
      exact ⟨rest, hpayload⟩

/-- A file has the name of the folder: the writer is refused, the file is as it was, and no temporary file is
    left. -/
theorem file_in_the_way :
    let s : FolderStore := ⟨⟨"cache"⟩⟩
    let d : Deposit := ⟨newKey, "1", [⟨#[1, 2]⟩]⟩
    let cache : Place := workplace ++ ["cache".toList]
    let t : FileTree workplace := ⟨[(cache, .file ⟨#[7]⟩)]⟩
    '/' ∉ d.token.toList ∧ (∀ data, t.get? (s.draft workplace d.key d.token) ≠ some (.file data)) ∧
      ∃ es e u, (d.program s).Ends FileTree.TriesTidily t es (.error e) u ∧
        u.get? cache = some (.file ⟨#[7]⟩) ∧
        ∀ data, u.get? (s.draft workplace d.key d.token) ≠ some (.file data) := by
  intro s d cache t
  have hslash : '/' ∉ d.token.toList := by decide
  have hnone (name : String) : t.get? (FolderStore.within ⟨⟨"cache"⟩⟩ workplace name) = none := rfl
  have hfresh (data : ByteArray) : t.get? (s.draft workplace d.key d.token) ≠ some (.file data) :=
    fun h => nomatch (hnone _).symm.trans h
  have hrefused : t.makeAlong (origin workplace ⟨"cache"⟩) (Path.mk "cache").names =
      (.error .alreadyThere, t) := rfl
  have hends : (d.program s).Ends FileTree.TriesTidily t
      [⟨.makeFolders s.folder, .error .alreadyThere⟩] (.error (failure .alreadyThere)) t := by
    show (Stage.program s d .begin).Ends _ _ _ _ _
    rw [Stage.program_begin]
    exact ⟨_, _, _, rfl, .inl hrefused.symm, rfl, rfl, rfl⟩
  obtain ⟨hkept, hgone, -⟩ := refused_remains hslash hfresh hends
  refine ⟨hslash, hfresh, _, _, t, hends, ?_, hgone ?_⟩
  · have hother : cache ≠ s.draft workplace d.key d.token := fun h => by
      cases (hnone _).symm.trans (congrArg t.get? h).symm
    rcases hkept _ hother with hsame | ⟨hfree, -⟩
    · exact hsame.trans rfl
    · cases hfree
  · intro x hx
    obtain rfl := List.mem_singleton.mp hx
    rfl

/-- What a writer of one piece does for which there is no room when it writes its bytes. -/
def fullCourse (s : FolderStore) (key : Key) (token : String) (payload : ByteArray) (full : SystemError) :
    List (Exchange FileStep.Answer) :=
  [⟨.makeFolders s.folder, .ok ()⟩, ⟨.create (s.temporaryPath key token), .ok ()⟩,
    ⟨.append (s.temporaryPath key token) payload, .error full⟩]

/-- **Where there is room for a part of the bytes only**, the writer is refused and leaves its temporary file
    behind, with that part in it. -/
theorem exists_ends_full {s : FolderStore} {key : Key} {token : String} (payload : ByteArray) (n : Nat)
    (full : SystemError) {t m : FileTree here} (hplain : Path.IsPlain (temporaryName key token))
    (hmade : t.makeAlong (origin here s.folder) s.folder.names = (.ok (), m))
    (hfree : m.get? (s.draft here key token) = none) :
    ∃ u, (Deposit.program s ⟨key, token, [payload]⟩).Ends FileTree.TriesTidily t
        (fullCourse s key token payload full) (.error (failure full)) u ∧
      u.get? (s.draft here key token) = some (.file (payload.extract 0 n)) := by
  have hfirst := FileTree.ne_folder_of_none hfree
  obtain ⟨-, hcreate, happend⟩ := (stands_of_makeAlong hmade).draft_written hplain hfree
  have hfile : (m.put (s.draft here key token) (.file ByteArray.empty)).get? (s.draft here key token) =
      some (.file ByteArray.empty) := FileTree.get?_put_self (FileTree.isAbove_of_ne_folder hfirst)
  have hpart := congrArg Prod.snd (happend (payload.extract 0 n))
  refine ⟨_, ⟨_, _, _, rfl, .inl hmade.symm, _, _, _, rfl, .inl hcreate.symm, _, _, _, rfl,
    .inr ⟨full, n, rfl, .inr hpart.symm⟩, rfl, rfl, rfl⟩, ?_⟩
  exact FileTree.get?_put_self (FileTree.isAbove_of_ne_folder (FileTree.ne_folder_of_file hfile))

/-- **What is left.** The disk is full when one byte of two is written: the writer is refused, and a temporary
    file that was not there before has that byte in it. And where it is the renaming that is refused, the folders
    stay that were made for it: below the store's folder there is one that was not there, and through it a file
    can be seen that could not be seen before. -/
theorem traces_remain :
    let s : FolderStore := ⟨⟨"cache"⟩⟩
    let d : Deposit := ⟨newKey, "1", [⟨#[1, 2]⟩]⟩
    let t : FileTree workplace := FileTree.empty
    let full : SystemError := .other "No space left on device (os error 28)"
    (∃ u, (d.program s).Ends FileTree.TriesTidily t
        [⟨.makeFolders s.folder, .ok ()⟩, ⟨.create (s.temporaryPath d.key d.token), .ok ()⟩,
          ⟨.append (s.temporaryPath d.key d.token) ⟨#[1, 2]⟩, .error full⟩]
        (.error (failure full)) u ∧
      t.get? (s.draft workplace d.key d.token) = none ∧
      u.get? (s.draft workplace d.key d.token) = some (.file ⟨#[1]⟩)) ∧
    ∃ u, (Deposit.program crooked ⟨newKey, "1", [⟨#[1]⟩]⟩).Ends FileTree.TriesTidily crookedTree
        [⟨.makeFolders crooked.folder, .ok ()⟩, ⟨.create (crooked.temporaryPath newKey "1"), .ok ()⟩,
          ⟨.append (crooked.temporaryPath newKey "1") ⟨#[1]⟩, .ok ()⟩,
          ⟨.rename (crooked.temporaryPath newKey "1") (crooked.pathFor newKey), .error .isDirectory⟩,
          ⟨.remove (crooked.temporaryPath newKey "1"), .ok ()⟩]
        (.error (failure .isDirectory)) u ∧
      crooked.sight crookedTree oldKey = .ok none ∧ crooked.sight u oldKey = .ok (some ⟨#[7]⟩) ∧
      crookedTree.get? (crooked.home workplace ++ [['n']]) = none ∧
      u.get? (crooked.home workplace ++ [['n']]) = some .folder := by
  intro s d t full
  refine ⟨?_, exists_ends_crooked⟩
  have hplain : Path.IsPlain (temporaryName d.key d.token) := isPlain_temporaryName d.key (by decide)
  obtain ⟨made, hmade, hfree⟩ : ∃ made,
      t.makeAlong (origin workplace ⟨"cache"⟩) (Path.mk "cache").names = (.ok (), made) ∧
        ∀ name, made.get? (FolderStore.within ⟨⟨"cache"⟩⟩ workplace name) = none := ⟨_, rfl, fun _ => rfl⟩
  have hnone (name : String) : t.get? (FolderStore.within ⟨⟨"cache"⟩⟩ workplace name) = none := rfl
  obtain ⟨u, hends, hfile⟩ := exists_ends_full (s := s) ⟨#[1, 2]⟩ 1 full hplain hmade (hfree _)
  exact ⟨u, hends, hnone _, hfile⟩

end FolderStore

end Vignette
