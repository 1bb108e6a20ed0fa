import Vignette.Proofs.Store.Writer

/-!
# A file beside the store

A thumbnail is put into a file: the folders that the file is in are made, the file is created, and the bytes
are put into it. Whether that can be done is a matter of the tree (`FileTree.Takes`). Whether it disturbs a
store is a matter of the path: it does not if neither the file nor a folder on its way lies in the store's
folder (`Path.Avoids`).

Main statement: **a path that can be taken has the bytes afterwards, and then the folder of a store that it
avoids is as it was** (`FileTree.saved_of_takes`, `FileTree.Saved.sight`).
-/

namespace Vignette

open FileTree (origin enter)

variable {here : Place}

/-- The bytes put into a file, in a folder that is made if it is not there. -/
def FileProgram.supply (path : Path) (data : ByteArray) : FileProgram (Except SystemError Unit) := do
  match ← makeFolders path.parent with
  | .error e => return .error e
  | .ok () => write path [data]

namespace FileTree

variable {t u : FileTree here} {place q : Place} {names : List (List Char)} {p : Path}

/-! ## 1. One file -/

/-- Names lead to the place that they spell. -/
theorem eq_foldl_of_walk {r : Place} : ∀ {names : List (List Char)} {place : Place},
    t.walk place names = .ok r → r = names.foldl enter place
  | [], _, h => (Except.ok.inj h).symm
  | [_], _, h => (Except.ok.inj h).symm
  | name :: second :: rest, place, h => by
    unfold walk at h
    split at h
    · cases h
    · cases h
    · have ih : r = (second :: rest).foldl enter (enter place name) := eq_foldl_of_walk h
      exact ih

/-- Where folders stay folders, names lead where they led. -/
theorem walk_of_folders (hkeep : ∀ q, t.get? q = some .folder → u.get? q = some .folder) {r : Place} :
    ∀ {names : List (List Char)} {place : Place}, t.walk place names = .ok r → u.walk place names = .ok r
  | [], _, h => h
  | [_], _, h => h
  | name :: second :: rest, place, h => by
    unfold walk at h ⊢
    split at h
    · cases h
    · cases h
    · rename_i hfolder
      rw [hkeep _ hfolder]
      exact walk_of_folders hkeep h

/-- A file is put to its place: a path that does not lead to a folder. -/
structure Spot (t : FileTree here) (p : Path) (place : Place) : Prop where
  located : t.locate p = .ok place
  no_folder : p.isFolder = false
  free : t.get? place ≠ some .folder

theorem spot_of_write {f : ByteArray → ByteArray} (h : (t.write p f).1 = .ok ()) :
    ∃ place, Spot t p place := by
  unfold write at h
  split at h
  · cases h
  rename_i place hplace
  split at h
  · cases h
  rename_i hfolder
  refine ⟨place, hplace, by simpa using hfolder, ?_⟩
  split at h
  · cases h
  · rename_i hnode
    rw [hnode]
    exact nofun
  · rename_i hnode
    rw [hnode]
    exact nofun

namespace Spot

/-- It is not the place of a folder that is always there. -/
theorem not_above (h : Spot t p place) : isAbove here place = false := isAbove_of_ne_folder h.free

/-- Bytes are put to the place, behind what was there. -/
theorem write (h : Spot t p place) (f : ByteArray → ByteArray) :
    ∃ old, t.write p f = (.ok (), t.put place (.file (f old))) ∧
      ∀ data, t.get? place = some (.file data) → old = data := by
  cases hnode : t.get? place with
  | none =>
    refine ⟨ByteArray.empty, ?_, nofun⟩
    simp only [FileTree.write, h.located, h.no_folder, hnode, Bool.false_eq_true, if_false]
  | some node =>
    cases node with
    | folder => exact absurd hnode h.free
    | file old =>
      refine ⟨old, ?_, fun data hdata => by cases hdata; rfl⟩
      simp only [FileTree.write, h.located, h.no_folder, hnode, Bool.false_eq_true, if_false]

theorem folders (h : Spot t p place) (data : ByteArray) :
    t.get? q = some .folder → (t.put place (.file data)).get? q = some .folder := by
  intro hq
  have hne : q ≠ place := by
    rintro rfl
    exact h.free hq
  rw [get?_put_of_ne hne, hq]

/-- The path still leads to the place when a file is there. -/
theorem put (h : Spot t p place) (data : ByteArray) : Spot (t.put place (.file data)) p place where
  located := walk_of_folders (fun _ => h.folders data) h.located
  no_folder := h.no_folder
  free := by
    rw [get?_put_self h.not_above]
    exact nofun

theorem read (h : Spot t p place) {data : ByteArray} (hdata : t.get? place = some (.file data)) :
    t.read p = .ok data := by
  unfold FileTree.read
  rw [h.located, h.no_folder]
  simp [hdata]

end Spot

/-- **Bytes that are written to a path are read from it**, and nothing else changes. -/
theorem run_write (h : Spot t p place) (data : ByteArray) (n : Nat) :
    ∃ u, (FileProgram.write p [data]).run perform ⟨t, n⟩ = (.ok (), ⟨u, n⟩) ∧ u.read p = .ok data ∧
      (∀ q, q ≠ place → u.get? q = t.get? q) ∧
      ∀ q, t.get? q = some .folder → u.get? q = some .folder := by
  obtain ⟨_, hcreate, -⟩ := h.write fun _ => ByteArray.empty
  have hcreated := h.put ByteArray.empty
  obtain ⟨old, happend, hold⟩ := hcreated.write fun old => old ++ data
  obtain rfl : old = ByteArray.empty := hold _ (get?_put_self h.not_above)
  rw [ByteArray.empty_append] at happend
  refine ⟨(t.put place (.file ByteArray.empty)).put place (.file data), ?_, ?_, fun q hq => ?_, fun q hq => ?_⟩
  · rw [FileProgram.write, FileProgram.create, Program.bind_perform, Program.run_act, perform_create, hcreate]
    dsimp only
    rw [FileProgram.appendAll, FileProgram.append, Program.bind_perform, Program.run_act, perform_append,
      happend]
    rfl
  · exact (hcreated.put data).read (get?_put_self h.not_above)
  · rw [get?_put_of_ne hq, get?_put_of_ne hq]
  · exact hcreated.folders data (h.folders ByteArray.empty hq)

/-! ## 2. Folders on the way -/

/-- Folders are made on the way, and nowhere else. -/
theorem get?_makeAlong_of_avoids : ∀ {names : List (List Char)} {t : FileTree here} {place : Place},
    (∀ n, (names.take n).foldl enter place ≠ q) → (t.makeAlong place names).2.get? q = t.get? q
  | [], _, _, _ => rfl
  | name :: names, t, place, h => by
    have hrest : ∀ n, (names.take n).foldl enter (enter place name) ≠ q := fun n => h (n + 1)
    simp only [makeAlong]
    split
    · exact get?_makeAlong_of_avoids hrest
    · rfl
    · rw [get?_makeAlong_of_avoids hrest]
      exact get?_put_of_ne fun hq => hrest 0 hq.symm

/-- The folder of the path can be made, and then the file can be created. -/
structure Takes (t : FileTree here) (p : Path) : Prop where
  made : (t.makeAlong (origin here p.parent) p.parent.names).1 = .ok ()
  created : ((t.makeAlong (origin here p.parent) p.parent.names).2.write p fun _ => ByteArray.empty).1 = .ok ()

section Single

variable {name : List Char} (hnames : p.names = [name]) (hparent : p.parent.names = [])
  (hfolder : p.isFolder = false)
include hnames hparent hfolder

/-- A path of one name can be taken where there is no folder of that name. -/
theorem takes_single (hfree : t.get? (enter (origin here p) name) ≠ some .folder) : t.Takes p := by
  have hspot : Spot t p (enter (origin here p) name) := ⟨by rw [locate, hnames]; rfl, hfolder, hfree⟩
  obtain ⟨_, hwrite, -⟩ := hspot.write fun _ => ByteArray.empty
  have hmade : t.makeAlong (origin here p.parent) p.parent.names = (.ok (), t) := by rw [hparent, makeAlong]
  exact ⟨by rw [hmade], by rw [hmade, hwrite]⟩

/-- A path of one name cannot be taken where there is a folder of that name, and then nothing changes. -/
theorem run_supply_of_folder {d : Disk here} (h : d.tree.get? (enter (origin here p) name) = some .folder)
    (data : ByteArray) : (FileProgram.supply p data).run perform d = (.error .isDirectory, d) := by
  obtain ⟨t, n⟩ := d
  dsimp only at h
  have hmade : t.makeAlong (origin here p.parent) p.parent.names = (.ok (), t) := by rw [hparent, makeAlong]
  have hlocate : t.locate p = .ok (enter (origin here p) name) := by rw [locate, hnames, walk]
  rw [FileProgram.supply, FileProgram.makeFolders, Program.bind_perform, Program.run_act,
    perform_makeFolders, hmade]
  dsimp only
  rw [FileProgram.write, FileProgram.create, Program.bind_perform, Program.run_act, perform_create]
  simp only [FileTree.write, hlocate, hfolder, h, Bool.false_eq_true, if_false]
  rfl

theorem run_supply_folder {d : Disk here} (h : d.tree.get? (enter (origin here p) name) = some .folder)
    (data : ByteArray) : ((FileProgram.supply p data).run perform d).1 = .error .isDirectory := by
  rw [run_supply_of_folder hnames hparent hfolder h]

end Single

end FileTree

/-- The place lies in the store's folder, at any depth. -/
def FolderStore.Inside (s : FolderStore) (here q : Place) : Prop :=
  ∃ name below, q = s.home here ++ name :: below

theorem FolderStore.inside_within (s : FolderStore) (name : String) : s.Inside here (s.within here name) :=
  ⟨name.toList, [], rfl⟩

/-- Neither the file nor a folder on its way lies in the store's folder. -/
structure Path.Avoids (p : Path) (here : Place) (s : FolderStore) : Prop where
  way : ∀ n, ¬s.Inside here ((p.parent.names.take n).foldl enter (origin here p.parent))
  file : ¬s.Inside here (p.names.foldl enter (origin here p))

/-- What is inside a folder has the place of the folder in front. -/
theorem FolderStore.Inside.home_prefix {s : FolderStore} {q : Place} (h : s.Inside here q) : s.home here <+: q := by
  obtain ⟨name, below, rfl⟩ := h
  exact List.prefix_append _ _

/-- A path of one name avoids a folder that is neither the one in which the program works, nor one that this is in,
    nor the one that the name leads to. -/
theorem Path.avoids_single {p : Path} {s : FolderStore} {name : List Char} (hnames : p.names = [name])
    (hparent : p.parent.names = []) (horigin : origin here p = here) (horigin' : origin here p.parent = here)
    (hhome : ¬s.home here <+: here) (hname : ¬s.home here <+: enter here name) : p.Avoids here s where
  way n h := by
    rw [hparent, horigin', List.take_nil] at h
    exact hhome h.home_prefix
  file h := by
    rw [hnames, horigin] at h
    exact hname h.home_prefix

namespace FileTree

/-- A file has its bytes, and nothing happened in the store's folder, nor to any folder. -/
structure Saved (s : FolderStore) (p : Path) (data : ByteArray) (t u : FileTree here) : Prop where
  read : u.read p = .ok data
  inside : ∀ q, s.Inside here q → u.get? q = t.get? q
  folders : ∀ q, t.get? q = some .folder → u.get? q = some .folder

section Saved

variable {s : FolderStore} {t u : FileTree here} {p : Path} {data : ByteArray}

/-- **A path that can be taken has the bytes afterwards, and if it avoids the store's folder then that is as
    it was.** -/
theorem saved_of_takes (ht : t.Takes p) (hp : p.Avoids here s) (data : ByteArray) (n : Nat) :
    ∃ u, (FileProgram.supply p data).run perform ⟨t, n⟩ = (.ok (), ⟨u, n⟩) ∧ Saved s p data t u := by
  obtain ⟨place, hspot⟩ := spot_of_write ht.created
  obtain ⟨u, hrun, hread, hrest, hfolders⟩ := run_write hspot data n
  have hplace : place = p.names.foldl enter (origin here p) := eq_foldl_of_walk hspot.located
  refine ⟨u, ?_, hread, fun q hq => ?_, fun q hq => hfolders q (get?_makeAlong_of_some hq)⟩
  · rw [FileProgram.supply, FileProgram.makeFolders, Program.bind_perform, Program.run_act,
      perform_makeFolders, ht.made]
    exact hrun
  · have hne : q ≠ place := by
      rintro rfl
      exact hp.file (hplace ▸ hq)
    rw [hrest q hne]
    refine get?_makeAlong_of_avoids fun n hn => hp.way n ?_
    rw [hn]
    exact hq

/-- Who can see a thumbnail sees it in a folder that is there. -/
theorem stands_of_sight {key : Key} {payload : ByteArray} (h : s.sight t key = .ok (some payload)) :
    s.Stands t := by
  rcases t.descend_cases s.folder.names (origin here s.folder) with hs | hf | hf
  · exact hs
  · rw [FolderStore.sight_of_footing hf] at h
    cases h
  · rw [FolderStore.sight_of_footing hf] at h
    cases h

/-- **What can be seen of a store whose folder is there is not disturbed.** -/
theorem Saved.sight (h : Saved s p data t u) (hs : s.Stands t) (key : Key) : s.sight u key = s.sight t key := by
  rw [(hs.mono h.folders).sight, hs.sight, FolderStore.spot, h.inside _ (s.inside_within _)]

end Saved

end FileTree

end Vignette
