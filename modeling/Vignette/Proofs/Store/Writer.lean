import Vignette.Proofs.Store.Folder

/-!
# Looking under a key, and writing there

Whoever looks under a key reads one file (`FolderStore.sight`). A writer makes the folder, writes a
temporary file piece by piece, and renames it; it is at one of a few stages (`Stage`), and each stage
tells what the temporary file holds (`Stage.Holds`).

Main statement: **a writer that has the folder for itself stores its bytes, or it is refused because the
folder cannot be made or a folder has the name of a file** (`run_program`).
-/

namespace Vignette

variable {here : Place}

namespace FileTree

/-! ## 1. Steps on a disk -/

variable (p q : Path) (data : ByteArray) (t : FileTree here) (n : Nat)

theorem perform_read : perform (.read p) ⟨t, n⟩ = (t.read p, ⟨t, n⟩) := rfl

theorem perform_makeFolders : perform (.makeFolders p) ⟨t, n⟩ =
    ((t.makeAlong (origin here p) p.names).1, ⟨(t.makeAlong (origin here p) p.names).2, n⟩) := rfl

theorem perform_create : perform (.create p) ⟨t, n⟩ =
    ((t.write p fun _ => ByteArray.empty).1, ⟨(t.write p fun _ => ByteArray.empty).2, n⟩) := rfl

theorem perform_append : perform (.append p data) ⟨t, n⟩ =
    ((t.write p fun old => old ++ data).1, ⟨(t.write p fun old => old ++ data).2, n⟩) := rfl

theorem perform_rename : perform (.rename p q) ⟨t, n⟩ = ((t.rename p q).1, ⟨(t.rename p q).2, n⟩) := rfl

theorem perform_remove : perform (.remove p) ⟨t, n⟩ = ((t.remove p).1, ⟨(t.remove p).2, n⟩) := rfl

end FileTree

open FileTree (origin)

namespace FolderStore

/-! ## 2. What can be seen -/

/-- What whoever asks for a key is answered, if nothing else happens. -/
def sight (s : FolderStore) (t : FileTree here) (key : Key) : Except StoreFailure (Option ByteArray) :=
  ((s.get key).run FileTree.perform ⟨t, 0⟩).1

/-- What the answer to the reading of a file means for the store. -/
def meaning : Except SystemError ByteArray → Except StoreFailure (Option ByteArray)
  | .ok data => .ok (some data)
  | .error .notFound => .ok none
  | .error e => .error (failure e)

/-- What is answered for what is at the place of a file. -/
def shown : Option Node → Except StoreFailure (Option ByteArray)
  | none => .ok none
  | some .folder => .error (failure .isDirectory)
  | some (.file data) => .ok (some data)

section Sight

variable {s : FolderStore} {t : FileTree here}

theorem get_eq (s : FolderStore) (key : Key) :
    s.get key = .act (.read (s.pathFor key)) fun answer => .done (meaning answer) := by
  refine congrArg (Program.act (FileStep.read (s.pathFor key))) (funext fun answer => ?_)
  cases answer with
  | ok data => rfl
  | error e => cases e <;> rfl

theorem sight_eq (s : FolderStore) (t : FileTree here) (key : Key) :
    s.sight t key = meaning (t.read (s.pathFor key)) := by
  rw [sight, get_eq, Program.run_act, Program.run_done, FileTree.perform_read]

/-- **In a folder that is there, what is at the place of a file can be seen.** -/
theorem Stands.sight (hs : s.Stands t) (key : Key) : s.sight t key = shown (t.get? (s.spot here key)) := by
  rw [sight_eq, pathFor, hs.read (isPlain_fileName key)]
  show _ = shown (t.get? (s.within here (fileName key)))
  cases t.get? (s.within here (fileName key)) with
  | none => rfl
  | some node => cases node <;> rfl

theorem sight_of_footing {e : SystemError} (hf : s.footing t = .error e) (key : Key) :
    s.sight t key = meaning (.error e) := by
  rw [sight_eq, pathFor, read_of_footing hf (isPlain_fileName key)]

end Sight

/-! ## 3. Writers and their stages -/

/-- Bytes that are to be stored under a key, in pieces, and the word that names the temporary file. -/
structure Deposit where
  key : Key
  token : String
  pieces : List ByteArray

namespace Deposit

/-- All the bytes. -/
def payload (d : Deposit) : ByteArray := d.pieces.foldl (· ++ ·) ByteArray.empty

/-- The program that stores them. -/
def program (s : FolderStore) (d : Deposit) : FileProgram (Except StoreFailure Unit) :=
  s.setPieces d.key d.token d.pieces

end Deposit

/-- How far a writer has come. -/
inductive Stage
  | begin
  | creating
  /-- `written` is in the temporary file, and `rest` is not yet. -/
  | filling (written : ByteArray) (rest : List ByteArray)
  | clearing (e : SystemError)
  | ended (result : Except StoreFailure Unit)

namespace Stage

variable (s : FolderStore) (d : Deposit)

/-- What a writer does when its temporary file is written, or cannot be. -/
def afterWriting : Except SystemError Unit → FileProgram (Except StoreFailure Unit)
  | .error e => .done (.error (failure e))
  | .ok () => s.publish d.key (s.temporaryPath d.key d.token)

/-- What a writer has still to do. -/
def program : Stage → FileProgram (Except StoreFailure Unit)
  | begin => d.program s
  | creating => FileProgram.write (s.temporaryPath d.key d.token) d.pieces >>= afterWriting s d
  | filling _ rest => FileProgram.appendAll (s.temporaryPath d.key d.token) rest >>= afterWriting s d
  | clearing e => FileProgram.remove (s.temporaryPath d.key d.token) >>= fun _ =>
      .done (.error (failure e))
  | ended r => .done r

/-- What is known of the tree at a stage. -/
def Holds (t : FileTree here) : Stage → Prop
  | begin => True
  | creating => s.Stands t
  | filling written rest => s.Stands t ∧ rest.foldl (· ++ ·) written = d.payload ∧
      t.get? (s.draft here d.key d.token) = some (.file written)
  | clearing _ => s.Stands t
  | ended _ => True

/-- The stage after an answer. -/
def after : Stage → Except SystemError Unit → Stage
  | begin, .ok () => creating
  | creating, .ok () => filling ByteArray.empty d.pieces
  | filling written (piece :: rest), .ok () => filling (written ++ piece) rest
  | filling _ [], .ok () => ended (.ok ())
  | filling _ [], .error e => clearing e
  | clearing e, _ => ended (.error (failure e))
  | ended r, _ => ended r
  | _, .error e => ended (.error (failure e))

theorem program_begin : program s d begin =
    .act (.makeFolders s.folder) fun a => program s d (after d begin a) :=
  congrArg (Program.act (FileStep.makeFolders s.folder)) (funext fun a => by cases a <;> rfl)

theorem program_creating : program s d creating =
    .act (.create (s.temporaryPath d.key d.token)) fun a => program s d (after d creating a) :=
  congrArg (Program.act (FileStep.create _)) (funext fun a => by cases a <;> rfl)

theorem program_piece (written piece : ByteArray) (rest : List ByteArray) :
    program s d (filling written (piece :: rest)) =
      .act (.append (s.temporaryPath d.key d.token) piece) fun a =>
        program s d (after d (filling written (piece :: rest)) a) :=
  congrArg (Program.act (FileStep.append _ piece)) (funext fun a => by cases a <;> rfl)

theorem program_filled (written : ByteArray) : program s d (filling written []) =
    .act (.rename (s.temporaryPath d.key d.token) (s.pathFor d.key)) fun a =>
      program s d (after d (filling written []) a) :=
  congrArg (Program.act (FileStep.rename _ _)) (funext fun a => by cases a <;> rfl)

theorem program_clearing (e : SystemError) : program s d (clearing e) =
    .act (.remove (s.temporaryPath d.key d.token)) fun a => program s d (after d (clearing e) a) := rfl

end Stage

/-! ## 4. A writer by itself -/

/-- What is in a tree when a writer is over that was refused nothing: its bytes are the file for its key, its
    temporary file is gone, and nothing else has changed. -/
structure Stored (s : FolderStore) (d : Deposit) (t u : FileTree here) : Prop where
  stands : s.Stands u
  spot : u.get? (s.spot here d.key) = some (.file d.payload)
  draft : u.get? (s.draft here d.key d.token) = none
  rest : ∀ q, q ≠ s.spot here d.key → q ≠ s.draft here d.key d.token → u.get? q = t.get? q

/-- What was in the temporary file before does not matter. -/
theorem Stored.of_put_draft {s : FolderStore} {d : Deposit} {t u : FileTree here} {node : Node}
    (h : Stored s d (t.put (s.draft here d.key d.token) node) u) : Stored s d t u where
  stands := h.stands
  spot := h.spot
  draft := h.draft
  rest q hspot hdraft := (h.rest q hspot hdraft).trans (FileTree.get?_put_of_ne hdraft)

/-- The bytes are stored under the condition, and else the writer is refused; no word is given out. -/
structure Concludes (s : FolderStore) (d : Deposit) (condition : Prop) (t : FileTree here) (n : Nat)
    (r : Except StoreFailure Unit × FileTree.Disk here) : Prop where
  tokens : r.2.tokens = n
  stored : condition → r.1 = .ok () ∧ Stored s d t r.2.tree
  refused : ¬condition → ∃ e, r.1 = .error e

/-- What is stored behind a temporary file that is being written is stored. -/
theorem Concludes.of_put_draft {s : FolderStore} {d : Deposit} {condition : Prop} {t : FileTree here} {n : Nat}
    {node : Node} {r : Except StoreFailure Unit × FileTree.Disk here}
    (h : Concludes s d condition (t.put (s.draft here d.key d.token) node) n r) :
    Concludes s d condition t n r :=
  ⟨h.tokens, fun hc => ⟨(h.stored hc).1, (h.stored hc).2.of_put_draft⟩, h.refused⟩

theorem Concludes.mono {s : FolderStore} {d : Deposit} {condition other : Prop} {t : FileTree here} {n : Nat}
    {r : Except StoreFailure Unit × FileTree.Disk here} (h : Concludes s d condition t n r)
    (hto : other → condition) (hfrom : condition → other) : Concludes s d other t n r :=
  ⟨h.tokens, fun ho => h.stored (hto ho), fun ho => h.refused fun hc => ho (hfrom hc)⟩

section Run

variable {s : FolderStore} {d : Deposit}

/-- A writer's bytes are stored when its temporary file has got the name for the key. -/
theorem stored_renamed {t : FileTree here} (hs : s.Stands t)
    (hfile : t.get? (s.draft here d.key d.token) = some (.file d.payload))
    (hfolder : t.get? (s.spot here d.key) ≠ some .folder) :
    Stored s d t ((t.erase (s.draft here d.key d.token)).put (s.spot here d.key) (.file d.payload)) := by
  have hkeep {q : Place} (hspot : q ≠ s.spot here d.key) (hdraft : q ≠ s.draft here d.key d.token) :
      ((t.erase (s.draft here d.key d.token)).put (s.spot here d.key) (.file d.payload)).get? q = t.get? q := by
    rw [FileTree.get?_put_of_ne hspot, FileTree.get?_erase_of_ne hdraft]
  refine ⟨hs.mono fun q hq => ?_, FileTree.get?_put_self (FileTree.isAbove_of_ne_folder hfolder), ?_,
    fun q => hkeep⟩
  · have hspot : q ≠ s.spot here d.key := by
      rintro rfl
      exact hfolder hq
    have hdraft : q ≠ s.draft here d.key d.token := by
      rintro rfl
      cases hfile.symm.trans hq
    exact (hkeep hspot hdraft).trans hq
  · exact (FileTree.get?_put_of_ne (spot_ne_draft _ _ _).symm).trans
      (FileTree.get?_erase_self (FileTree.isAbove_of_ne_folder (FileTree.ne_folder_of_file hfile)))

variable (hplain : Path.IsPlain (temporaryName d.key d.token))

include hplain

/-- **A temporary file that is written is renamed**, if no folder has the name of the file for the key. -/
theorem run_filled {t : FileTree here} (n : Nat) (hs : s.Stands t)
    (hfile : t.get? (s.draft here d.key d.token) = some (.file d.payload)) :
    Concludes s d (t.get? (s.spot here d.key) ≠ some .folder) t n
      ((Stage.program s d (.filling d.payload [])).run FileTree.perform ⟨t, n⟩) := by
  rw [Stage.program_filled, Program.run_act, FileTree.perform_rename]
  by_cases hfolder : t.get? (s.spot here d.key) = some .folder
  · have hrefused : t.rename (s.temporaryPath d.key d.token) (s.pathFor d.key) = (.error .isDirectory, t) :=
      hs.rename_refused (isPlain_fileName d.key) hplain hfile hfolder
    rw [hrefused]
    simp only [Stage.after, Stage.program_clearing, Program.run_act, FileTree.perform_remove]
    exact ⟨rfl, fun h => absurd hfolder h, fun _ => ⟨_, rfl⟩⟩
  · have hdone : t.rename (s.temporaryPath d.key d.token) (s.pathFor d.key) =
        (.ok (), (t.erase (s.draft here d.key d.token)).put (s.spot here d.key) (.file d.payload)) :=
      hs.rename_done (isPlain_fileName d.key) hplain hfile hfolder
    rw [hdone]
    exact ⟨rfl, fun _ => ⟨rfl, stored_renamed hs hfile hfolder⟩, fun h => absurd hfolder h⟩

/-- **The pieces that are left are written, one after the other.** -/
theorem run_filling (n : Nat) : ∀ {rest : List ByteArray} {written : ByteArray} {t : FileTree here},
    (Stage.filling written rest).Holds s d t →
      Concludes s d (t.get? (s.spot here d.key) ≠ some .folder) t n
        ((Stage.program s d (.filling written rest)).run FileTree.perform ⟨t, n⟩)
  | [], written, t, ⟨hs, hpayload, hfile⟩ => by
    obtain rfl : written = d.payload := hpayload
    exact run_filled hplain n hs hfile
  | piece :: rest, written, t, ⟨hs, hpayload, hfile⟩ => by
    have hfolder := FileTree.ne_folder_of_file hfile
    obtain ⟨old, hwrite, hold⟩ := hs.write_done hplain hfolder fun old => old ++ piece
    obtain rfl : old = written := hold written hfile
    have hnext : (Stage.filling (old ++ piece) rest).Holds s d
        (t.put (s.draft here d.key d.token) (.file (old ++ piece))) :=
      ⟨hs.put_file hfolder _, hpayload, FileTree.get?_put_self (FileTree.isAbove_of_ne_folder hfolder)⟩
    have ih := run_filling n hnext
    rw [FileTree.get?_put_of_ne (spot_ne_draft _ _ _)] at ih
    rw [Stage.program_piece, Program.run_act, FileTree.perform_append, temporaryPath, hwrite]
    exact ih.of_put_draft

/-- **A temporary file is made**, if no folder has its name. -/
theorem run_creating {t : FileTree here} (n : Nat) (hs : s.Stands t) :
    Concludes s d (t.get? (s.spot here d.key) ≠ some .folder ∧ t.get? (s.draft here d.key d.token) ≠ some .folder) t n
      ((Stage.program s d .creating).run FileTree.perform ⟨t, n⟩) := by
  rw [Stage.program_creating, Program.run_act, FileTree.perform_create, temporaryPath]
  by_cases hfolder : t.get? (s.draft here d.key d.token) = some .folder
  · rw [hs.write_refused hplain hfolder]
    exact ⟨rfl, fun h => absurd hfolder h.2, fun _ => ⟨_, rfl⟩⟩
  · obtain ⟨old, hwrite, -⟩ := hs.write_done hplain hfolder fun _ => ByteArray.empty
    have hempty : (Stage.filling ByteArray.empty d.pieces).Holds s d
        (t.put (s.draft here d.key d.token) (.file ByteArray.empty)) :=
      ⟨hs.put_file hfolder _, rfl, FileTree.get?_put_self (FileTree.isAbove_of_ne_folder hfolder)⟩
    have hrun := run_filling hplain n hempty
    rw [FileTree.get?_put_of_ne (spot_ne_draft _ _ _)] at hrun
    rw [hwrite]
    exact hrun.of_put_draft.mono And.left fun hspot => ⟨hspot, hfolder⟩

/-- What a writer needs: the folder can be made, and then no folder has the name of one of its files. -/
structure Writable (s : FolderStore) (d : Deposit) (t : FileTree here) : Prop where
  made : (t.makeAlong (origin here s.folder) s.folder.names).1 = .ok ()
  spot : (t.makeAlong (origin here s.folder) s.folder.names).2.get? (s.spot here d.key) ≠ some .folder
  draft : (t.makeAlong (origin here s.folder) s.folder.names).2.get? (s.draft here d.key d.token) ≠ some .folder

/-- **A writer that has the folder for itself stores its bytes**, if it can make the folder and no folder has
    the name of one of its files; and else it is refused. -/
theorem run_program (t : FileTree here) (n : Nat) :
    ((d.program s).run FileTree.perform ⟨t, n⟩).2.tokens = n ∧
    (Writable s d t → ((d.program s).run FileTree.perform ⟨t, n⟩).1 = .ok () ∧
      Stored s d (t.makeAlong (origin here s.folder) s.folder.names).2
        ((d.program s).run FileTree.perform ⟨t, n⟩).2.tree) ∧
    (¬Writable s d t → ∃ e, ((d.program s).run FileTree.perform ⟨t, n⟩).1 = .error e) := by
  have hbegin : d.program s = Stage.program s d .begin := rfl
  rw [hbegin, Stage.program_begin, Program.run_act, FileTree.perform_makeFolders]
  cases hmade : (t.makeAlong (origin here s.folder) s.folder.names).1 with
  | error e =>
    simp only [Stage.after, Stage.program, Program.run_done]
    refine ⟨trivial, fun h => ?_, fun _ => ⟨_, rfl⟩⟩
    cases hmade.symm.trans h.made
  | ok _ =>
    have hs : s.Stands (t.makeAlong (origin here s.folder) s.folder.names).2 := FileTree.descend_makeAlong hmade
    have hrun := run_creating hplain n hs
    simp only [Stage.after]
    exact ⟨hrun.tokens, fun h => hrun.stored ⟨h.spot, h.draft⟩,
      fun h => hrun.refused fun hfree => h ⟨hmade, hfree.1, hfree.2⟩⟩

end Run

end FolderStore

end Vignette
