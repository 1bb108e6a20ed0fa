import Vignette.Proofs.Program.Interleaving
import Vignette.Proofs.Store.Writer

/-!
# What can be seen of a store while it is written

Several writers put bytes into one folder at the same time, each with a temporary file of its own, and
each of them may be refused a step, or stop for good, at any point. `FileTree.Tries` tells what may come
of a step: it is done, or it is refused with a part of its work done.

A writer is at one of a few stages (`Stage`), and each stage tells what the writer's temporary file holds
(`Stage.Holds`). A step of one writer changes the folder's path, its own temporary file, or, if it is the
renaming, the file for its key (`Change`); so it takes no other writer's stage away.

Main statement: **whoever looks under a key sees what stood there at the start, or all the bytes that the
last renaming put there** (`visible_whole`). The folder has to be there at the start, or its path must not
lead back: making folders may open a way that two dots had blocked (`way_opens`).
-/

namespace Vignette

open FileTree (origin)

variable {here : Place}

/-! ## 1. Steps that may be refused -/

/-- What may come of a step: it is done, or it is refused for some reason. Then some of the folders may
    have been made, the file may have been made, or some of the bytes may have been put behind it; a
    refused renaming or removal has done nothing. -/
def FileTree.Tries : (x : FileStep) → FileTree here → x.Answer → FileTree here → Prop
  | .read p, t, answer, u => (answer = t.read p ∨ ∃ e, answer = .error e) ∧ u = t
  | .makeFolders p, t, answer, u =>
    (answer, u) = t.makeAlong (origin here p) p.names ∨
      ∃ e n, answer = .error e ∧ u = (t.makeAlong (origin here p) (p.names.take n)).2
  | .create p, t, answer, u =>
    (answer, u) = t.write p (fun _ => ByteArray.empty) ∨
      ∃ e, answer = .error e ∧ (u = t ∨ u = (t.write p fun _ => ByteArray.empty).2)
  | .append p data, t, answer, u =>
    (answer, u) = t.write p (fun old => old ++ data) ∨
      ∃ e n, answer = .error e ∧ (u = t ∨ u = (t.write p fun old => old ++ data.extract 0 n).2)
  | .rename source target, t, answer, u =>
    (answer, u) = t.rename source target ∨ ∃ e, answer = .error e ∧ u = t
  | .remove p, t, answer, u => (answer, u) = t.remove p ∨ ∃ e, answer = .error e ∧ u = t
  | .token, t, _, u => u = t

/-- What may come of a step, where a removal that is tried is done. -/
def FileTree.TriesTidily : (x : FileStep) → FileTree here → x.Answer → FileTree here → Prop
  | .remove p, t, answer, u => (answer, u) = t.remove p
  | x, t, answer, u => FileTree.Tries x t answer u

/-- Is the step a renaming that is done? -/
def FileStep.isMoved : (x : FileStep) → x.Answer → Bool
  | .rename _ _, .ok () => true
  | _, _ => false

namespace FolderStore

/-! ## 2. What a step changes -/

/-- What a step of a writer changes in a tree; the truth value tells whether it is the renaming. -/
inductive Change (s : FolderStore) (d : Deposit) (t u : FileTree here) : Bool → Prop where
  | folders (n : Nat) (h : u = (t.makeAlong (origin here s.folder) (s.folder.names.take n)).2) :
      Change s d t u false
  | draft (hs : s.Stands t) (hdraft : t.get? (s.draft here d.key d.token) ≠ some .folder)
      (hrest : ∀ q, q ≠ s.draft here d.key d.token → u.get? q = t.get? q) : Change s d t u false
  | publish (hs : s.Stands t) (hdraft : t.get? (s.draft here d.key d.token) ≠ some .folder)
      (hspot : t.get? (s.spot here d.key) ≠ some .folder)
      (hput : u.get? (s.spot here d.key) = some (.file d.payload))
      (hrest : ∀ q, q ≠ s.spot here d.key → q ≠ s.draft here d.key d.token → u.get? q = t.get? q) :
      Change s d t u true

namespace Change

variable {s : FolderStore} {d : Deposit} {t u : FileTree here} {moved : Bool}

theorem nothing (s : FolderStore) (d : Deposit) (t : FileTree here) : Change s d t t false := .folders 0 rfl

/-- A folder stays one. -/
theorem keeps_folder (h : Change s d t u moved) {q : Place} (hq : t.get? q = some .folder) :
    u.get? q = some .folder := by
  cases h with
  | folders n h =>
    subst h
    exact FileTree.get?_makeAlong_of_some hq
  | draft hs hdraft hrest =>
    have hne : q ≠ s.draft here d.key d.token := fun e => hdraft (e ▸ hq)
    rw [hrest q hne, hq]
  | publish hs hdraft hspot hput hrest =>
    have hne : q ≠ s.draft here d.key d.token := fun e => hdraft (e ▸ hq)
    have hne' : q ≠ s.spot here d.key := fun e => hspot (e ▸ hq)
    rw [hrest q hne' hne, hq]

/-- **A writer's stage is not taken away by another writer's step.** -/
theorem keeps_stage (h : Change s d t u moved) {d' : Deposit} (htoken : d'.token ≠ d.token)
    {stage : Stage} (hd : stage.Holds s d' t) : stage.Holds s d' u := by
  have hstands (hs : s.Stands t) : s.Stands u := hs.mono fun q => h.keeps_folder
  cases stage with
  | begin => trivial
  | creating => exact hstands hd
  | filling written rest =>
    obtain ⟨hs, hrest, hfile⟩ := hd
    refine ⟨hstands hs, hrest, ?_⟩
    have hdraft : s.draft here d'.key d'.token ≠ s.draft here d.key d.token := fun e => htoken (draft_inj e).2
    cases h with
    | folders n h =>
      subst h
      exact FileTree.get?_makeAlong_of_some hfile
    | draft _ _ hkeep => rw [hkeep _ hdraft, hfile]
    | publish _ _ _ _ hkeep => rw [hkeep _ (spot_ne_draft _ _ _).symm hdraft, hfile]
  | clearing e => exact hstands hd
  | ended r => trivial

end Change

section Steps

variable {s : FolderStore} {d : Deposit} {t u : FileTree here}

/-- A temporary file is written. -/
theorem Change.put_draft (hs : s.Stands t) (hdraft : t.get? (s.draft here d.key d.token) ≠ some .folder)
    (data : ByteArray) : Change s d t (t.put (s.draft here d.key d.token) (.file data)) false :=
  .draft hs hdraft fun _ hq => FileTree.get?_put_of_ne hq

/-- Whatever is written to a temporary file, in whole or in part, it changes no other file. -/
theorem Change.write_draft (hs : s.Stands t) (h : Path.IsPlain (temporaryName d.key d.token))
    (contents : ByteArray → ByteArray) :
    Change s d t (t.write (s.temporaryPath d.key d.token) contents).2 false := by
  rw [temporaryPath]
  by_cases hfolder : t.get? (s.draft here d.key d.token) = some .folder
  · rw [hs.write_refused h hfolder]
    exact .nothing s d t
  · obtain ⟨old, hwrite, -⟩ := hs.write_done h hfolder contents
    rw [hwrite]
    exact .put_draft hs hfolder (contents old)

open Stage (after)

/-- What a writer's step comes to: the stage behind it, and what it changes. -/
def Comes (s : FolderStore) (d : Deposit) (t : FileTree here) (stage : Stage) (moved : Bool)
    (answer : Except SystemError Unit) (u : FileTree here) : Prop :=
  (after d stage answer).Holds s d u ∧ Change s d t u moved

theorem comes_begin {answer : Except SystemError Unit}
    (htries : FileTree.Tries (.makeFolders s.folder) t answer u) :
    Comes s d t .begin false answer u := by
  rcases htries with hdone | ⟨e, n, rfl, rfl⟩
  · have hfolders : Change s d t u false := by
      refine .folders s.folder.names.length ?_
      rw [List.take_length, ← hdone]
    refine ⟨?_, hfolders⟩
    cases answer with
    | error e => trivial
    | ok _ => exact stands_of_makeAlong hdone.symm
  · exact ⟨trivial, .folders n rfl⟩

variable (hplain : Path.IsPlain (temporaryName d.key d.token))

include hplain

theorem comes_creating {answer : Except SystemError Unit} (hs : s.Stands t)
    (htries : FileTree.Tries (.create (s.temporaryPath d.key d.token)) t answer u) :
    Comes s d t .creating false answer u := by
  rcases htries with hdone | ⟨e, rfl, rfl | hpart⟩
  · by_cases hfolder : t.get? (s.draft here d.key d.token) = some .folder
    · cases hdone.trans (hs.write_refused hplain hfolder fun _ => ByteArray.empty)
      exact ⟨trivial, .nothing s d t⟩
    · obtain ⟨old, hwrite, -⟩ := hs.write_done hplain hfolder fun _ => ByteArray.empty
      cases hdone.trans hwrite
      exact ⟨⟨hs.put_file hfolder _, rfl, FileTree.get?_put_self (FileTree.isAbove_of_ne_folder hfolder)⟩,
        .put_draft hs hfolder _⟩
  · exact ⟨trivial, .nothing s d u⟩
  · rw [hpart]
    exact ⟨trivial, .write_draft hs hplain _⟩

theorem comes_piece {answer : Except SystemError Unit} {written piece : ByteArray}
    {rest : List ByteArray} (hd : (Stage.filling written (piece :: rest)).Holds s d t)
    (htries : FileTree.Tries (.append (s.temporaryPath d.key d.token) piece) t answer u) :
    Comes s d t (.filling written (piece :: rest)) false answer u := by
  obtain ⟨hs, hrest, hfile⟩ := hd
  have hfolder := FileTree.ne_folder_of_file hfile
  rcases htries with hdone | ⟨e, n, rfl, rfl | hpart⟩
  · obtain ⟨old, hwrite, hold⟩ := hs.write_done hplain hfolder fun old => old ++ piece
    cases hdone.trans hwrite
    obtain rfl : old = written := hold written hfile
    exact ⟨⟨hs.put_file hfolder _, hrest, FileTree.get?_put_self (FileTree.isAbove_of_ne_folder hfolder)⟩,
      .put_draft hs hfolder _⟩
  · exact ⟨trivial, .nothing s d u⟩
  · rw [hpart]
    exact ⟨trivial, .write_draft hs hplain _⟩

/-- **The renaming puts all the bytes under the key at once, or it does nothing.** -/
theorem comes_filled {answer : Except SystemError Unit} {written : ByteArray}
    (hd : (Stage.filling written []).Holds s d t)
    (htries : FileTree.Tries (.rename (s.temporaryPath d.key d.token) (s.pathFor d.key)) t answer u) :
    Comes s d t (.filling written [])
      (FileStep.isMoved (.rename (s.temporaryPath d.key d.token) (s.pathFor d.key)) answer) answer u := by
  obtain ⟨hs, hpayload, hfile⟩ := hd
  obtain rfl : written = d.payload := hpayload
  rcases htries with hdone | ⟨e, rfl, rfl⟩
  · by_cases hfolder : t.get? (s.spot here d.key) = some .folder
    · cases hdone.trans (hs.rename_refused (isPlain_fileName d.key) hplain hfile hfolder)
      exact ⟨hs, .nothing s d t⟩
    · cases hdone.trans (hs.rename_done (isPlain_fileName d.key) hplain hfile hfolder)
      have hdraft := FileTree.ne_folder_of_file hfile
      have hstored := stored_renamed hs hfile hfolder
      exact ⟨trivial, .publish hs hdraft hfolder hstored.spot hstored.rest⟩
  · exact ⟨hs, .nothing s d u⟩

theorem comes_clearing {answer : Except SystemError Unit} {e : SystemError} (hs : s.Stands t)
    (htries : FileTree.Tries (.remove (s.temporaryPath d.key d.token)) t answer u) :
    Comes s d t (.clearing e) false answer u := by
  refine ⟨trivial, ?_⟩
  rcases htries with hdone | ⟨e, -, rfl⟩
  · have hu : u = (t.remove (s.temporaryPath d.key d.token)).2 := congrArg Prod.snd hdone
    rw [hu, temporaryPath]
    rcases hs.remove_cases hplain with hsame | ⟨hfolder, hgone⟩
    · rw [hsame]
      exact .nothing s d t
    · rw [hgone]
      exact .draft hs hfolder fun q hq => FileTree.get?_erase_of_ne hq
  · exact .nothing s d u

/-- **A writer goes from stage to stage.** -/
theorem exists_stage {stage : Stage} {x : FileStep}
    {next : x.Answer → FileProgram (Except StoreFailure Unit)} {answer : x.Answer}
    (hstage : .act x next = stage.program s d) (hd : stage.Holds s d t)
    (htries : FileTree.Tries x t answer u) :
    (∃ stage' : Stage, next answer = stage'.program s d ∧ stage'.Holds s d u) ∧
      Change s d t u (x.isMoved answer) := by
  cases stage with
  | begin =>
    rw [Stage.program_begin] at hstage
    cases hstage
    obtain ⟨hafter, hchange⟩ := comes_begin htries
    exact ⟨⟨_, rfl, hafter⟩, hchange⟩
  | creating =>
    rw [Stage.program_creating] at hstage
    cases hstage
    obtain ⟨hafter, hchange⟩ := comes_creating hplain hd htries
    exact ⟨⟨_, rfl, hafter⟩, hchange⟩
  | filling written rest =>
    cases rest with
    | nil =>
      rw [Stage.program_filled] at hstage
      cases hstage
      obtain ⟨hafter, hchange⟩ := comes_filled hplain hd htries
      exact ⟨⟨_, rfl, hafter⟩, hchange⟩
    | cons piece rest =>
      rw [Stage.program_piece] at hstage
      cases hstage
      obtain ⟨hafter, hchange⟩ := comes_piece hplain hd htries
      exact ⟨⟨_, rfl, hafter⟩, hchange⟩
  | clearing e =>
    rw [Stage.program_clearing] at hstage
    cases hstage
    obtain ⟨hafter, hchange⟩ := comes_clearing (e := e) hplain hd htries
    exact ⟨⟨_, rfl, hafter⟩, hchange⟩
  | ended r => cases hstage

end Steps

/-! ## 3. What writers can change of what is seen -/

/-- The folder is there, or it cannot be made, or it is not there yet and nothing lies where its files will
    be. -/
inductive Ground (s : FolderStore) (t : FileTree here) : Prop where
  | stands (h : s.Stands t)
  | shut (h : s.footing t = .error .notDirectory)
  | vacant (hdots : ['.', '.'] ∉ s.folder.names) (hclear : t.Clear (origin here s.folder) s.folder.names)
      (hempty : ∀ key, t.get? (s.spot here key) = none)

section Ground

variable {s : FolderStore} {d : Deposit} {t u : FileTree here} {moved : Bool}

/-- Where the folder is not there yet, nothing can be seen. -/
theorem sight_of_vacant (hclear : t.Clear (origin here s.folder) s.folder.names)
    (hempty : ∀ key, t.get? (s.spot here key) = none) (key : Key) : s.sight t key = .ok none := by
  rcases t.descend_cases s.folder.names (origin here s.folder) with h | h | h
  · have hs : s.Stands t := h
    rw [hs.sight, hempty]
    rfl
  · exact sight_of_footing h key
  · exact absurd h hclear.descend_ne

/-- What is seen under a key after a change. -/
def seen (d : Deposit) (moved : Bool) (key : Key) (before : Except StoreFailure (Option ByteArray)) :
    Except StoreFailure (Option ByteArray) :=
  if moved = true ∧ d.key = key then .ok (some d.payload) else before

theorem Change.sight_of_stands (h : Change s d t u moved) (hs : s.Stands t) (key : Key) :
    s.sight u key = seen d moved key (s.sight t key) := by
  have hu : s.Stands u := hs.mono fun q => h.keeps_folder
  rw [hs.sight, hu.sight]
  cases h with
  | folders n h =>
    have hfooting : s.footing t ≠ .error .notFound := by
      rw [hs]
      exact nofun
    rw [h.trans (FileTree.makeAlong_take n hfooting)]
    rfl
  | draft _ hdraft hrest =>
    rw [hrest _ (spot_ne_draft key d.key d.token)]
    rfl
  | publish _ hdraft hspot hput hrest =>
    by_cases hkey : d.key = key
    · subst hkey
      rw [hput, seen, if_pos ⟨rfl, rfl⟩]
      rfl
    · rw [hrest _ (fun e => hkey (spot_inj e).symm) (spot_ne_draft key d.key d.token), seen,
        if_neg fun h => hkey h.2]

/-- **A writer changes what is seen only by its renaming, and only under its key.** -/
theorem Ground.change (hg : Ground s t) (h : Change s d t u moved) :
    Ground s u ∧ ∀ key, s.sight u key = seen d moved key (s.sight t key) := by
  by_cases hs : s.Stands t
  · exact ⟨.stands (hs.mono fun q => h.keeps_folder), h.sight_of_stands hs⟩
  · -- before the folder is there, all that a writer can do is make folders
    cases h with
    | draft hs' => exact absurd hs' hs
    | publish hs' => exact absurd hs' hs
    | folders n h =>
      cases hg with
      | stands hs' => exact absurd hs' hs
      | shut hshut =>
        have hfooting : s.footing t ≠ .error .notFound := by
          rw [hshut]
          exact nofun
        obtain rfl : u = t := h.trans (FileTree.makeAlong_take n hfooting)
        exact ⟨.shut hshut, fun key => rfl⟩
      | vacant hdots hclear hempty =>
        have hclear' : u.Clear (origin here s.folder) s.folder.names := by
          rw [h]
          exact hclear.makeAlong
        have hempty' : ∀ key, u.get? (s.spot here key) = Option.none := by
          intro key
          have hdotsTake : ['.', '.'] ∉ s.folder.names.take n := fun hm => hdots (List.mem_of_mem_take hm)
          rw [h, FileTree.get?_makeAlong_deeper hdotsTake, hempty]
          rw [spot, within, home, FileTree.foldl_enter hdots]
          simp only [List.length_append, List.length_take, List.length_singleton]
          omega
        refine ⟨.vacant hdots hclear' hempty', fun key => ?_⟩
        rw [sight_of_vacant hclear' hempty', sight_of_vacant hclear hempty]
        rfl

/-- A tree in which the folder is there, or to which its path leads without leading back, is a ground. -/
theorem ground_of_rooted (hrooted : t.Rooted) (h : s.Stands t ∨ ['.', '.'] ∉ s.folder.names) :
    Ground s t := by
  rcases h with hs | hdots
  · exact .stands hs
  · rcases t.descend_cases s.folder.names (origin here s.folder) with h | h | h
    · exact .stands h
    · obtain ⟨hclear, hbelow⟩ := hrooted.missing hdots (t.get?_origin s.folder) h
      refine .vacant hdots hclear fun key => ?_
      rw [spot, within, home, FileTree.foldl_enter hdots]
      exact hbelow _
    · exact .shut h

end Ground

/-! ## 4. Writers side by side -/

section Writers

open Scene (Runs Step opening)

variable {ι : Type} [DecidableEq ι]

/-- A scene of writers. -/
abbrev Yard (here : Place) (ι : Type) : Type :=
  Scene ι FileStep.Answer (Except StoreFailure Unit) (FileTree here)

/-- What a writer does at its turn. -/
abbrev Turn (ι : Type) : Type := Move ι FileStep.Answer (Except StoreFailure Unit)

/-- The bytes that a move puts under a key, if it does. -/
def published? (deposits : ι → Deposit) (key : Key) : Turn ι → Option ByteArray
  | .act i x answer =>
    if x.isMoved answer = true ∧ (deposits i).key = key then some (deposits i).payload else none
  | _ => none

/-- The bytes that were put last under a key. -/
def latest? (deposits : ι → Deposit) (key : Key) (ms : List (Turn ι)) : Option ByteArray :=
  (ms.filterMap (published? deposits key)).getLast?

omit [DecidableEq ι] in
theorem latest?_concat (deposits : ι → Deposit) (key : Key) (ms : List (Turn ι)) (m : Turn ι) :
    latest? deposits key (ms ++ [m]) = (published? deposits key m).or (latest? deposits key ms) := by
  rw [latest?, latest?, List.filterMap_append]
  cases h : published? deposits key m <;> simp [h]

omit [DecidableEq ι] in
/-- What was put under a key are all the bytes of a writer for that key, which had its turn. -/
theorem exists_of_latest? {deposits : ι → Deposit} {key : Key} {ms : List (Turn ι)} {payload : ByteArray}
    (h : latest? deposits key ms = some payload) :
    ∃ i x answer, Move.act i x answer ∈ ms ∧ (deposits i).key = key ∧
      payload = (deposits i).payload := by
  obtain ⟨m, hm, hp⟩ := List.mem_filterMap.mp (List.mem_of_getLast? h)
  cases m with
  | act i x answer =>
    simp only [published?] at hp
    split at hp
    · rename_i hput
      exact ⟨i, x, answer, hm, hput.2, (Option.some.inj hp).symm⟩
    · cases hp
  | start i => cases hp
  | finish i r => cases hp

/-- A program is what a writer has still to do at a stage that the tree bears out. -/
def Staged (s : FolderStore) (d : Deposit) (t : FileTree here)
    (rest : FileProgram (Except StoreFailure Unit)) : Prop :=
  ∃ stage : Stage, rest = stage.program s d ∧ stage.Holds s d t

/-- What holds of a scene of writers. -/
structure Sound (s : FolderStore) (deposits : ι → Deposit) (v : Yard here ι) : Prop where
  ground : Ground s v.state
  stages : ∀ i rest, v.phase i = .running rest → Staged s (deposits i) v.state rest

variable {s : FolderStore} {deposits : ι → Deposit}

/-- Writers are at their stages if the one that moved is and the others still are. -/
theorem staged_update {t : FileTree here} {i : ι}
    {phase : ι → Phase FileStep.Answer (Except StoreFailure Unit)}
    {p : Phase FileStep.Answer (Except StoreFailure Unit)}
    (hself : ∀ rest, p = .running rest → Staged s (deposits i) t rest)
    (hother : ∀ j, j ≠ i → ∀ rest, phase j = .running rest → Staged s (deposits j) t rest) :
    ∀ j rest, Function.update phase i p j = .running rest → Staged s (deposits j) t rest := by
  intro j rest hj
  by_cases hji : j = i
  · subst hji
    rw [Function.update_self] at hj
    exact hself rest hj
  · rw [Function.update_of_ne hji] at hj
    exact hother j hji rest hj

/-- **What holds of a scene of writers holds after each of their moves, and a move that is no renaming
    changes nothing that is seen.** -/
theorem Sound.step (htokens : Function.Injective fun i => (deposits i).token)
    (hslash : ∀ i, '/' ∉ (deposits i).token.toList) {v v' : Yard here ι} {m : Turn ι} (h : Sound s deposits v)
    (hstep : Step FileTree.Tries (fun i => (deposits i).program s) v m v') :
    Sound s deposits v' ∧ ∀ key, s.sight v'.state key =
      ((published? deposits key m).map fun payload => .ok (some payload)).getD (s.sight v.state key) := by
  cases hstep with
  | @start i hi =>
    refine ⟨⟨h.ground, staged_update (fun rest hrest => ?_) fun j _ => h.stages j⟩, fun key => rfl⟩
    cases hrest
    exact ⟨.begin, rfl, trivial⟩
  | @finish i r hi =>
    exact ⟨⟨h.ground, staged_update (fun rest hrest => by cases hrest) fun j _ => h.stages j⟩,
      fun key => rfl⟩
  | @act i x next answer t hi ha =>
    obtain ⟨stage, hstage, hd⟩ := h.stages i _ hi
    obtain ⟨hnext, hchange⟩ :=
      exists_stage (isPlain_temporaryName (deposits i).key (hslash i)) hstage hd ha
    obtain ⟨hground, hsight⟩ := h.ground.change hchange
    refine ⟨⟨hground, staged_update (fun rest hrest => ?_) fun j hji rest hj => ?_⟩, fun key => ?_⟩
    · cases hrest
      exact hnext
    · obtain ⟨stage, hstage, hd⟩ := h.stages j rest hj
      exact ⟨stage, hstage, hchange.keeps_stage (fun e => hji (htokens e)) hd⟩
    · rw [hsight key]
      simp only [published?, seen]
      split <;> rfl

/-- **Whatever writers do side by side, in whatever order they have their turns, whatever step they are
    refused and wherever they stop: whoever asks for a key is answered what stood there at the start, or
    all the bytes of the last writer whose renaming for that key was done; and no other move changes
    any answer.** -/
theorem visible_whole {t : FileTree here} (hrooted : t.Rooted)
    (hfolder : s.Stands t ∨ ['.', '.'] ∉ s.folder.names)
    (htokens : Function.Injective fun i => (deposits i).token)
    (hslash : ∀ i, '/' ∉ (deposits i).token.toList) {ms : List (Turn ι)} {v : Yard here ι}
    (h : Runs FileTree.Tries (fun i => (deposits i).program s) (opening t) ms v) :
    (∀ key, s.sight v.state key =
      ((latest? deposits key ms).map fun payload => .ok (some payload)).getD (s.sight t key)) ∧
    (∀ key payload, latest? deposits key ms = some payload →
      ∃ i x answer, Move.act i x answer ∈ ms ∧ (deposits i).key = key ∧
        payload = (deposits i).payload) ∧
    ∀ m v', Step FileTree.Tries (fun i => (deposits i).program s) v m v' → ∀ key,
      published? deposits key m = none → s.sight v'.state key = s.sight v.state key := by
  have hsound : Sound s deposits v ∧ ∀ key, s.sight v.state key =
      ((latest? deposits key ms).map fun payload => .ok (some payload)).getD (s.sight t key) := by
    refine Runs.induction (fun ms v => Sound s deposits v ∧ ∀ key, s.sight v.state key =
      ((latest? deposits key ms).map fun payload => .ok (some payload)).getD (s.sight t key)) ?_ ?_ h
    · exact ⟨⟨ground_of_rooted hrooted hfolder, fun i rest hi => by cases hi⟩, fun key => rfl⟩
    · rintro ms u m u' ⟨hu, hsight⟩ hstep
      obtain ⟨hu', hsight'⟩ := hu.step htokens hslash hstep
      refine ⟨hu', fun key => ?_⟩
      rw [hsight' key, hsight key, latest?_concat]
      cases published? deposits key m with
      | none => rw [Option.map_none, Option.getD_none, Option.none_or]
      | some payload => rw [Option.map_some, Option.getD_some, Option.some_or, Option.map_some,
          Option.getD_some]
  refine ⟨hsound.2, fun key payload => exists_of_latest?, fun m v' hstep key hkey => ?_⟩
  rw [(hsound.1.step htokens hslash hstep).2 key, hkey, Option.map_none, Option.getD_none]

/-- What a tree does is one of the things that may come of a step. -/
theorem tries_perform (x : FileStep) (d : FileTree.Disk here) :
    FileTree.Tries x d.tree (FileTree.perform x d).1 (FileTree.perform x d).2.tree := by
  cases x with
  | read p => exact ⟨.inl rfl, rfl⟩
  | makeFolders p => exact .inl rfl
  | create p => exact .inl rfl
  | append p data => exact .inl rfl
  | rename p q => exact .inl rfl
  | remove p => exact .inl rfl
  | token => rfl

omit [DecidableEq ι] in
theorem tries_of_tidily (x : FileStep) (t : FileTree here) (answer : x.Answer) (u : FileTree here)
    (h : FileTree.TriesTidily x t answer u) : FileTree.Tries x t answer u := by
  cases x with
  | remove p => exact .inl h
  | read p => exact h
  | makeFolders p => exact h
  | create p => exact h
  | append p data => exact h
  | rename source target => exact h
  | token => exact h

/-- A writer that makes the folder of its store and is refused nothing: its bytes are the last that were put
    under its key, and they can be seen. -/
theorem lone_writer_seen :
    let s : FolderStore := ⟨⟨"cache"⟩⟩
    let d : Deposit :=
      ⟨⟨"0000000000000000000000000000000000000000000000000000000000000000", by decide⟩, "1",
        [⟨#[1]⟩, ⟨#[2]⟩]⟩
    let t : FileTree ["run".toList] := FileTree.empty
    ∃ ms v, Runs FileTree.Tries (fun _ : Unit => d.program s) (opening t) ms v ∧
      latest? (fun _ => d) d.key ms = some d.payload ∧
      s.sight t d.key = .ok none ∧ s.sight v.state d.key = .ok (some d.payload) := by
  intro s d t
  have hslash : '/' ∉ d.token.toList := by decide
  have hplain : Path.IsPlain (temporaryName d.key d.token) := isPlain_temporaryName d.key hslash
  have hfree (name : String) :
      (t.makeAlong (origin ["run".toList] ⟨"cache"⟩) (Path.mk "cache").names).2.get?
        (FolderStore.within ⟨⟨"cache"⟩⟩ ["run".toList] name) = none := rfl
  have hmade : (t.makeAlong (origin ["run".toList] ⟨"cache"⟩) (Path.mk "cache").names).1 = .ok () := rfl
  have hwritable : Writable s d t :=
    ⟨hmade, FileTree.ne_folder_of_none (hfree _), FileTree.ne_folder_of_none (hfree _)⟩
  obtain ⟨-, hstored, -⟩ := run_program hplain t 0
  obtain ⟨-, hstored⟩ := hstored hwritable
  obtain ⟨es, hends⟩ :=
    Program.exists_ends_of_run FileTree.Disk.tree tries_perform (d.program s) ⟨t, 0⟩
  obtain ⟨ms, v, hruns, hstate⟩ : ∃ ms v,
      Runs FileTree.Tries (fun _ : Unit => d.program s) (opening t) ms v ∧ v.state = _ :=
    ⟨_, Scene.runs_start_of_ends (i := ()) rfl hends⟩
  have hmissing : FolderStore.footing ⟨⟨"cache"⟩⟩ t = .error .notFound := rfl
  have hbefore : s.sight t d.key = .ok none := sight_of_footing hmissing d.key
  have hafter : s.sight v.state d.key = .ok (some d.payload) := by
    rw [hstate, hstored.stands.sight, hstored.spot]
    rfl
  have hrooted : t.Rooted := FileTree.rooted_empty
  obtain ⟨hsight, -, -⟩ := visible_whole hrooted (.inr (by decide)) (fun _ _ _ => rfl)
    (fun _ => hslash) hruns
  refine ⟨ms, v, hruns, ?_, hbefore, hafter⟩
  have hlast := (hsight d.key).symm.trans hafter
  rw [hbefore] at hlast
  cases hlatest : latest? (fun _ => d) d.key ms with
  | none =>
    rw [hlatest] at hlast
    cases hlast
  | some payload =>
    rw [hlatest] at hlast
    cases hlast
    rfl

/-- A temporary file that was not there is created, and has the bytes that are put into it. -/
theorem Stands.draft_written {s : FolderStore} {key : Key} {token : String} {m : FileTree here} (hs : s.Stands m)
    (hplain : Path.IsPlain (temporaryName key token)) (hfree : m.get? (s.draft here key token) = none) :
    s.Stands (m.put (s.draft here key token) (.file ByteArray.empty)) ∧
      m.write (s.temporaryPath key token) (fun _ => ByteArray.empty) =
        (.ok (), m.put (s.draft here key token) (.file ByteArray.empty)) ∧
      ∀ data, (m.put (s.draft here key token) (.file ByteArray.empty)).write (s.temporaryPath key token)
          (fun old => old ++ data) =
        (.ok (), (m.put (s.draft here key token) (.file ByteArray.empty)).put (s.draft here key token)
          (.file data)) := by
  have hfirst := FileTree.ne_folder_of_none hfree
  have hfile : (m.put (s.draft here key token) (.file ByteArray.empty)).get? (s.draft here key token) =
      some (.file ByteArray.empty) := FileTree.get?_put_self (FileTree.isAbove_of_ne_folder hfirst)
  have hs' := hs.put_file hfirst ByteArray.empty
  obtain ⟨_, hcreate, -⟩ := hs.write_done hplain hfirst fun _ => ByteArray.empty
  refine ⟨hs', hcreate, fun data => ?_⟩
  obtain ⟨old, happend, hold⟩ := hs'.write_done hplain (FileTree.ne_folder_of_file hfile) fun old => old ++ data
  obtain rfl : old = ByteArray.empty := hold _ hfile
  rw [ByteArray.empty_append] at happend
  exact happend

/-- What a writer of one piece does that is refused only the renaming, since a folder has the name of the file
    for the key. -/
def blockedCourse (s : FolderStore) (key : Key) (token : String) (payload : ByteArray) :
    List (Exchange FileStep.Answer) :=
  [⟨.makeFolders s.folder, .ok ()⟩, ⟨.create (s.temporaryPath key token), .ok ()⟩,
    ⟨.append (s.temporaryPath key token) payload, .ok ()⟩,
    ⟨.rename (s.temporaryPath key token) (s.pathFor key), .error .isDirectory⟩,
    ⟨.remove (s.temporaryPath key token), .ok ()⟩]

/-- **Where a folder has the name of the file for the key**, the writer is refused at the end and takes its
    temporary file away, and all that it leaves behind are the folders that it made. -/
theorem exists_ends_blocked {s : FolderStore} {key : Key} {token : String} (payload : ByteArray)
    {t m : FileTree here} (hplain : Path.IsPlain (temporaryName key token))
    (hmade : t.makeAlong (origin here s.folder) s.folder.names = (.ok (), m))
    (hfree : m.get? (s.draft here key token) = none)
    (hfolder : m.get? (s.spot here key) = some .folder) :
    ∃ u, (Deposit.program s ⟨key, token, [payload]⟩).Ends FileTree.TriesTidily t
        (blockedCourse s key token payload) (.error (failure .isDirectory)) u ∧
      ∀ q, u.get? q = m.get? q := by
  have hs := stands_of_makeAlong hmade
  have hfirst := FileTree.ne_folder_of_none hfree
  obtain ⟨hs₁, hcreate, happend⟩ := hs.draft_written hplain hfree
  have hfile₁ : (m.put (s.draft here key token) (.file ByteArray.empty)).get? (s.draft here key token) =
      some (.file ByteArray.empty) := FileTree.get?_put_self (FileTree.isAbove_of_ne_folder hfirst)
  have hsecond := FileTree.ne_folder_of_file hfile₁
  have hs₂ := hs₁.put_file hsecond payload
  have hfile₂ : ((m.put (s.draft here key token) (.file ByteArray.empty)).put (s.draft here key token)
      (.file payload)).get? (s.draft here key token) = some (.file payload) :=
    FileTree.get?_put_self (FileTree.isAbove_of_ne_folder hsecond)
  refine ⟨_, ⟨_, _, _, rfl, .inl hmade.symm, _, _, _, rfl, .inl hcreate.symm, _, _, _, rfl,
    .inl (happend payload).symm,
    _, _, _, rfl, .inl (hs₂.rename_refused (isPlain_fileName key) hplain hfile₂ ?_).symm,
    _, _, _, rfl, (hs₂.remove_done hplain hfile₂).symm, rfl, rfl, rfl⟩, fun q => ?_⟩
  · have hne : s.spot here key ≠ s.draft here key token := spot_ne_draft key key token
    exact (FileTree.get?_put_of_ne hne).trans ((FileTree.get?_put_of_ne hne).trans hfolder)
  · by_cases hq : q = s.draft here key token
    · rw [hq, hfree]
      exact FileTree.get?_erase_self (FileTree.isAbove_of_ne_folder hfirst)
    · exact (FileTree.get?_erase_of_ne hq).trans
        ((FileTree.get?_put_of_ne hq).trans (FileTree.get?_put_of_ne hq))

end Writers

/-! ## 5. A path that leads back -/

section Crooked

/-- A store whose path leads into a folder and out of it again. -/
def crooked : FolderStore := ⟨⟨"d/n/.."⟩⟩

/-- The key of a file that lies there. -/
def oldKey : Key := ⟨"0000000000000000000000000000000000000000000000000000000000000000", by decide⟩

/-- Another key. -/
def newKey : Key := ⟨"ffffffffffffffffffffffffffffffffffffffffffffffffffffffffffffffff", by decide⟩

/-- The place of the folder that the path leads through. -/
def detour : Place := workplace ++ [['d'], ['n']]

/-- The store's folder is there, with the file for one key and a folder that has the name of the file for the
    other; but the folder that its path leads through is not. -/
def crookedTree : FileTree workplace :=
  ((FileTree.empty.put (crooked.home workplace) .folder).put (crooked.spot workplace newKey) .folder).put
    (crooked.spot workplace oldKey) (.file ⟨#[7]⟩)

theorem home_ne_within (name : String) : crooked.home workplace ≠ crooked.within workplace name := by
  intro h
  have hlength := congrArg List.length h
  rw [within, List.length_append, List.length_singleton] at hlength
  omega

/-- A name that begins with a key is longer than that of the folder. -/
theorem within_ne_detour (key : Key) (rest : List Char) {name : String}
    (hname : name.toList = key.text.toList ++ rest) : crooked.within workplace name ≠ detour := by
  intro h
  have hn : name.toList = ['n'] := (List.cons.inj (List.cons.inj (List.cons.inj h).2).2).1
  have hlength := congrArg List.length (hname.symm.trans hn)
  rw [List.length_append, length_key, List.length_singleton] at hlength
  omega

theorem spot_ne_detour (key : Key) : crooked.spot workplace key ≠ detour :=
  within_ne_detour key _ String.toList_append

theorem draft_ne_detour (key : Key) (token : String) : crooked.draft workplace key token ≠ detour := by
  refine within_ne_detour key ('.' :: (token.toList ++ ".tmp".toList)) ?_
  simp [temporaryName, String.toList_append]

/-- At all other places there is what the store's folder has by itself. -/
theorem get?_crookedTree {q : Place} (hold : q ≠ crooked.spot workplace oldKey)
    (hnew : q ≠ crooked.spot workplace newKey) :
    crookedTree.get? q = (FileTree.empty.put (crooked.home workplace) .folder : FileTree workplace).get? q :=
  (FileTree.get?_put_of_ne hold).trans (FileTree.get?_put_of_ne hnew)

theorem get?_crookedTree_home : crookedTree.get? (crooked.home workplace) = some .folder :=
  (get?_crookedTree (home_ne_within _) (home_ne_within _)).trans rfl

theorem get?_crookedTree_detour : crookedTree.get? detour = none :=
  (get?_crookedTree (spot_ne_detour _).symm (spot_ne_detour _).symm).trans rfl

theorem get?_crookedTree_draft : crookedTree.get? (crooked.draft workplace newKey "1") = none :=
  (get?_crookedTree (spot_ne_draft _ _ _).symm (spot_ne_draft _ _ _).symm).trans rfl

theorem get?_crookedTree_new : crookedTree.get? (crooked.spot workplace newKey) = some .folder := by
  have hne : crooked.spot workplace newKey ≠ crooked.spot workplace oldKey := fun h => absurd (spot_inj h) (by decide)
  exact (FileTree.get?_put_of_ne hne).trans (FileTree.get?_put_self rfl)

theorem get?_crookedTree_old : crookedTree.get? (crooked.spot workplace oldKey) = some (.file ⟨#[7]⟩) :=
  FileTree.get?_put_self rfl

theorem enter_d : FileTree.enter workplace ['d'] = crooked.home workplace := rfl

theorem enter_n : FileTree.enter (crooked.home workplace) ['n'] = detour := rfl

/-- The path leads nowhere, since the folder that it leads through is not there. -/
theorem footing_crookedTree : crooked.footing crookedTree = .error .notFound := by
  show crookedTree.descend workplace [['d'], ['n'], ['.', '.']] = _
  simp only [FileTree.descend, enter_d, get?_crookedTree_home, enter_n, get?_crookedTree_detour]

/-- All that has to be made is that folder. -/
theorem makeAlong_crookedTree : crookedTree.makeAlong (origin workplace crooked.folder) crooked.folder.names =
    (.ok (), crookedTree.put detour .folder) := by
  have hback : FileTree.enter detour ['.', '.'] = crooked.home workplace := rfl
  have hhome : (crookedTree.put detour .folder).get? (crooked.home workplace) = some .folder :=
    (FileTree.get?_put_of_ne (by decide)).trans get?_crookedTree_home
  show crookedTree.makeAlong workplace [['d'], ['n'], ['.', '.']] = _
  simp only [FileTree.makeAlong, enter_d, get?_crookedTree_home, enter_n, get?_crookedTree_detour, hback, hhome]

/-- **A writer that is refused opens the way**: from then on a file can be seen that lay at the end of the path
    all the time. -/
theorem exists_ends_crooked : ∃ u,
    (Deposit.program crooked ⟨newKey, "1", [⟨#[1]⟩]⟩).Ends FileTree.TriesTidily crookedTree
      (blockedCourse crooked newKey "1" ⟨#[1]⟩) (.error (failure .isDirectory)) u ∧
    crooked.sight crookedTree oldKey = .ok none ∧ crooked.sight u oldKey = .ok (some ⟨#[7]⟩) ∧
    crookedTree.get? detour = none ∧ u.get? detour = some .folder := by
  have hplain : Path.IsPlain (temporaryName newKey "1") := isPlain_temporaryName newKey (by decide)
  have hmade {q : Place} (hq : q ≠ detour) : (crookedTree.put detour .folder).get? q = crookedTree.get? q :=
    FileTree.get?_put_of_ne hq
  obtain ⟨u, hends, hsame⟩ := exists_ends_blocked ⟨#[1]⟩ hplain makeAlong_crookedTree
    ((hmade (draft_ne_detour _ _)).trans get?_crookedTree_draft)
    ((hmade (spot_ne_detour _)).trans get?_crookedTree_new)
  have hs : crooked.Stands (crookedTree.put detour .folder) := stands_of_makeAlong makeAlong_crookedTree
  have hs' : crooked.Stands u := hs.mono fun q hq => (hsame q).trans hq
  refine ⟨u, hends, sight_of_footing footing_crookedTree oldKey, ?_, get?_crookedTree_detour, ?_⟩
  · rw [hs'.sight, hsame, hmade (spot_ne_detour _), get?_crookedTree_old]
    rfl
  · rw [hsame]
    exact FileTree.get?_put_self (FileTree.isAbove_of_ne_folder
      (FileTree.ne_folder_of_none get?_crookedTree_detour))

/-- Everything there is in a folder. -/
theorem rooted_crookedTree : crookedTree.Rooted := by
  have hhome : (FileTree.empty.put (crooked.home workplace) .folder : FileTree workplace).Rooted :=
    FileTree.rooted_empty.put workplace ['d'] rfl rfl
  have hnew : ((FileTree.empty.put (crooked.home workplace) .folder : FileTree workplace).put
      (crooked.spot workplace newKey) .folder).Rooted :=
    hhome.put (crooked.home workplace) (fileName newKey).toList rfl rfl
  have hne : crooked.spot workplace oldKey ≠ crooked.spot workplace newKey := fun h => absurd (spot_inj h) (by decide)
  exact hnew.put (crooked.home workplace) (fileName oldKey).toList
    ((FileTree.get?_put_of_ne (home_ne_within _)).trans rfl) ((FileTree.get?_put_of_ne hne).trans rfl)

/-- The path of a store leads through a folder that is not there, so nothing can be seen. A writer for another key
    makes that folder and is refused in the end, since a folder has the name of its file. From then on a file can
    be seen that lay at the end of the path all the time. -/
theorem way_opens :
    crookedTree.Rooted ∧ ∃ v,
      Scene.Runs FileTree.Tries (fun _ : Unit => Deposit.program crooked ⟨newKey, "1", [⟨#[1]⟩]⟩)
        (Scene.opening crookedTree)
        [.start (), .act () (.makeFolders crooked.folder) (.ok ()),
          .act () (.create (crooked.temporaryPath newKey "1")) (.ok ()),
          .act () (.append (crooked.temporaryPath newKey "1") ⟨#[1]⟩) (.ok ()),
          .act () (.rename (crooked.temporaryPath newKey "1") (crooked.pathFor newKey)) (.error .isDirectory),
          .act () (.remove (crooked.temporaryPath newKey "1")) (.ok ()),
          .finish () (.error (failure .isDirectory))] v ∧
      crooked.sight crookedTree oldKey = .ok none ∧ crooked.sight v.state oldKey = .ok (some ⟨#[7]⟩) ∧
      newKey ≠ oldKey := by
  obtain ⟨u, hends, hbefore, hafter, -⟩ := exists_ends_crooked
  obtain ⟨v, hruns, rfl⟩ : ∃ v, Scene.Runs FileTree.Tries
      (fun _ : Unit => Deposit.program crooked ⟨newKey, "1", [⟨#[1]⟩]⟩) (Scene.opening crookedTree) _ v ∧
        v.state = u := Scene.runs_start_of_ends (i := ()) rfl (hends.mono tries_of_tidily)
  exact ⟨rooted_crookedTree, v, hruns, hbefore, hafter, by decide⟩

end Crooked

end FolderStore

end Vignette
