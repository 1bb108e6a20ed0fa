import Vignette.Proofs.Snapshot.Refinement
import Vignette.Proofs.Store.Writer

/-!
# The store in a folder is the store in memory

A folder mirrors a store in memory (`Mirrors`) if the files in it are the store's entries, each in the file
that is named for its key. A read of the one store answers what a read of the other does, and a write keeps
the folder a mirror. A folder that is not there is a mirror of the empty store.

Reads and writes in a folder may be refused; what can go wrong is that the folder cannot be made, or that
another folder has the name of a file (`Usable`).

Main statement: **as long as the folder is refused nothing, everything that happens with it happens with a
store in memory, and in a folder that can be used nothing is refused** (`folder_as_memory`).
-/

namespace Vignette

open FileTree (origin Disk tokenText)

variable {here : Place}

theorem FileTree.slash_not_mem_toDigits (n : Nat) : '/' ∉ Nat.toDigits 16 n := by
  have hdigit : ∀ k : Fin 16, '/' ≠ Nat.digitChar k.val := by decide
  induction n using Nat.strongRecOn with
  | ind n ih =>
    by_cases hn : n < 16
    · rw [Nat.toDigits_of_lt_base hn]
      exact fun h => hdigit ⟨n, hn⟩ (List.mem_singleton.mp h)
    · rw [Nat.toDigits_of_base_le (by decide) (Nat.le_of_not_lt hn)]
      intro h
      rcases List.mem_append.mp h with h | h
      · exact ih (n / 16) (by omega) h
      · exact hdigit ⟨n % 16, Nat.mod_lt n (by decide)⟩ (List.mem_singleton.mp h)

/-- A word that is given out can be a part of a file's name. -/
theorem FileTree.slash_not_mem_tokenText (n : Nat) : '/' ∉ (tokenText n).toList := by
  rw [tokenText, String.toList_ofList, List.mem_append, not_or]
  refine ⟨fun h => ?_, slash_not_mem_toDigits n⟩
  cases (List.mem_replicate.mp h).2

namespace FolderStore

/-! ## 1. Reading and writing in a folder -/

/-- The store in a folder, and a browser with a state of its own. -/
def surroundings {τ : Type} (s : FolderStore) (here : Place)
    (capture : Shot → τ → Except CaptureFailure ByteArray × τ) : Surroundings (Disk here × τ) where
  read key x := (((s.get key).run FileTree.perform x.1).1, ((s.get key).run FileTree.perform x.1).2, x.2)
  write key payload x :=
    (((s.set key payload).run FileTree.perform x.1).1, ((s.set key payload).run FileTree.perform x.1).2, x.2)
  capture shot x := ((capture shot x.2).1, x.1, (capture shot x.2).2)

/-- What is written with the `n`-th word. -/
def deposit (key : Key) (payload : ByteArray) (n : Nat) : Deposit := ⟨key, tokenText n, [payload]⟩

section Steps

variable {s : FolderStore} {key : Key} {payload : ByteArray} {t : FileTree here} {n : Nat}

theorem payload_deposit : (deposit key payload n).payload = payload := ByteArray.empty_append

theorem isPlain_deposit (key : Key) (payload : ByteArray) (n : Nat) :
    Path.IsPlain (temporaryName (deposit key payload n).key (deposit key payload n).token) :=
  isPlain_temporaryName key (FileTree.slash_not_mem_tokenText n)

/-- A read changes nothing. -/
theorem run_get (s : FolderStore) (key : Key) (t : FileTree here) (n : Nat) :
    (s.get key).run FileTree.perform ⟨t, n⟩ = (s.sight t key, ⟨t, n⟩) := by
  rw [sight_eq, get_eq, Program.run_act, Program.run_done, FileTree.perform_read]

/-- A write takes a word, and stores the bytes in one piece. -/
theorem run_set (s : FolderStore) (key : Key) (payload : ByteArray) (t : FileTree here) (n : Nat) :
    (s.set key payload).run FileTree.perform ⟨t, n⟩ =
      ((deposit key payload n).program s).run FileTree.perform ⟨t, n + 1⟩ := rfl

end Steps

/-! ## 2. Mirrors -/

/-- The files in the folder are the entries of a store in memory. -/
structure Mirrors (s : FolderStore) (t : FileTree here) (store : Store) : Prop where
  /-- A file lies in the folder, at any depth, just if it is the file of an entry. -/
  files : ∀ below data, t.get? (s.home here ++ below) = some (.file data) ↔
    ∃ key, below = [(fileName key).toList] ∧ store.get? key = some data
  /-- The folder is there if there are entries. -/
  stands : ∀ key, store.get? key ≠ none → s.Stands t

section Mirrors

variable {s : FolderStore} {t : FileTree here} {store : Store}

/-- A folder without files mirrors the empty store. -/
theorem mirrors_empty (h : ∀ below data, t.get? (s.home here ++ below) ≠ some (.file data)) :
    Mirrors s t Store.empty where
  files below data := by
    refine ⟨fun hfile => absurd hfile (h below data), ?_⟩
    rintro ⟨key, -, hentry⟩
    cases hentry
  stands key hkey := absurd rfl hkey

/-- **What can be seen in a mirror is what stands in the store**, unless the look is refused. -/
theorem Mirrors.sight (h : Mirrors s t store) (key : Key) :
    s.sight t key = .ok (store.get? key) ∨ ∃ e, s.sight t key = .error e := by
  rcases t.descend_cases s.folder.names (origin here s.folder) with hs | hf | hf
  · have hstands : s.Stands t := hs
    rw [hstands.sight]
    cases hnode : t.get? (s.spot here key) with
    | none =>
      refine .inl ?_
      cases hentry : store.get? key with
      | none => rfl
      | some data =>
        have hfile := (h.files [(fileName key).toList] data).mpr ⟨key, rfl, hentry⟩
        cases hnode.symm.trans hfile
    | some node =>
      cases node with
      | folder => exact .inr ⟨_, rfl⟩
      | file data =>
        obtain ⟨other, hname, hentry⟩ := (h.files [(fileName key).toList] data).mp hnode
        obtain rfl : key = other :=
          fileName_injective (String.toList_inj.mp (List.singleton_inj.mp hname))
        rw [hentry]
        exact .inl rfl
  · refine .inl ?_
    rw [sight_of_footing hf]
    cases hentry : store.get? key with
    | none => rfl
    | some data =>
      have hs : s.footing t = .ok (s.home here) := h.stands key (by rw [hentry]; exact nofun)
      cases hf.symm.trans hs
  · refine .inr ⟨failure .notDirectory, ?_⟩
    rw [sight_of_footing hf]
    rfl

/-- The same files lie in a folder when folders are made. -/
theorem get?_made_eq_file {q : Place} {data : ByteArray} :
    (t.makeAlong (origin here s.folder) s.folder.names).2.get? q = some (.file data) ↔
      t.get? q = some (.file data) :=
  ⟨FileTree.get?_eq_file_of_makeAlong, FileTree.get?_makeAlong_of_some⟩

/-- **A folder stays a mirror when bytes are stored.** -/
theorem Mirrors.stored (h : Mirrors s t store) {key : Key} {payload : ByteArray} {n : Nat}
    {u : FileTree here} (hu : Stored s (deposit key payload n)
      (t.makeAlong (origin here s.folder) s.folder.names).2 u) : Mirrors s u (store.put key payload) where
  stands _ _ := hu.stands
  files below data := by
    by_cases hspot : s.home here ++ below = s.spot here key
    · -- the place of the file that was written
      have hbelow : below = [(fileName key).toList] := List.append_cancel_left hspot
      have hfile : u.get? (s.home here ++ below) = some (.file payload) := by
        have hput := hu.spot
        rw [payload_deposit] at hput
        rw [hspot]
        exact hput
      rw [hfile]
      constructor
      · intro hdata
        cases hdata
        exact ⟨key, hbelow, Store.get?_put_self store key payload⟩
      · rintro ⟨other, hname, hentry⟩
        obtain rfl : key = other :=
          fileName_injective (String.toList_inj.mp (List.singleton_inj.mp (hbelow.symm.trans hname)))
        rw [Store.get?_put_self] at hentry
        cases hentry
        rfl
    · have hentries (hdraft : s.home here ++ below ≠ s.draft here key (tokenText n)) :
          u.get? (s.home here ++ below) = some (.file data) ↔ t.get? (s.home here ++ below) = some (.file data) := by
        rw [hu.rest _ hspot hdraft, get?_made_eq_file]
      have hother {other : Key} (hname : below = [(fileName other).toList]) : other ≠ key := by
        rintro rfl
        exact hspot (congrArg (s.home here ++ ·) hname)
      by_cases hdraft : s.home here ++ below = s.draft here key (tokenText n)
      · -- the place of the temporary file, which is gone
        have hgone : u.get? (s.home here ++ below) = none := by
          rw [hdraft]
          exact hu.draft
        rw [hgone]
        refine ⟨nofun, ?_⟩
        rintro ⟨other, hname, -⟩
        exact absurd ((congrArg (s.home here ++ ·) hname).symm.trans hdraft) (spot_ne_draft _ _ _)
      · rw [hentries hdraft, h.files]
        constructor
        · rintro ⟨other, hname, hentry⟩
          exact ⟨other, hname, (Store.get?_put_of_ne store payload (hother hname)).trans hentry⟩
        · rintro ⟨other, hname, hentry⟩
          exact ⟨other, hname, (Store.get?_put_of_ne store payload (hother hname)).symm.trans hentry⟩

/-- A folder and a store in memory with the same entries, and one browser. -/
structure Reflects {τ : Type} (s : FolderStore) (x : Disk here × τ) (y : Shelf τ) : Prop where
  files : Mirrors s x.1.tree y.store
  fate : x.2 = y.fate

/-- **A folder follows a store in memory.** -/
theorem follows_memory {τ : Type} (s : FolderStore) (here : Place)
    (capture : Shot → τ → Except CaptureFailure ByteArray × τ) :
    (s.surroundings here capture).Follows (Fates.steady capture).surroundings (Reflects s) where
  read key x y h := by
    obtain ⟨⟨t, n⟩, f⟩ := x
    simp only [surroundings, run_get]
    rcases h.files.sight key with hsight | hrefused
    · exact .inr ⟨hsight, h.files, h.fate⟩
    · exact .inl hrefused
  write key payload x y h := by
    obtain ⟨⟨t, n⟩, f⟩ := x
    simp only [surroundings, run_set]
    obtain ⟨-, hstored, hrefused⟩ :=
      run_program (s := s) (isPlain_deposit key payload n) t (n + 1)
    by_cases hwritable : Writable s (deposit key payload n) t
    · obtain ⟨hok, hu⟩ := hstored hwritable
      exact .inr ⟨hok, h.files.stored hu, h.fate⟩
    · exact .inl (hrefused hwritable)
  capture shot x y h := by
    obtain ⟨d, f⟩ := x
    obtain ⟨store, f'⟩ := y
    obtain rfl : f = f' := h.fate
    exact ⟨rfl, h.files, rfl⟩

end Mirrors

/-! ## 3. Folders that can be used -/

/-- The folder can be made, and then no other folder has the name of one of the store's files. -/
structure Usable (s : FolderStore) (t : FileTree here) : Prop where
  made : (t.makeAlong (origin here s.folder) s.folder.names).1 = .ok ()
  spots : ∀ key, (t.makeAlong (origin here s.folder) s.folder.names).2.get? (s.spot here key) ≠ some .folder
  drafts : ∀ key n,
    (t.makeAlong (origin here s.folder) s.folder.names).2.get? (s.draft here key (tokenText n)) ≠ some .folder

section Usable

variable {s : FolderStore} {t : FileTree here}

theorem Usable.writable (h : Usable s t) (key : Key) (payload : ByteArray) (n : Nat) :
    Writable s (deposit key payload n) t := ⟨h.made, h.spots key, h.drafts key n⟩

/-- **No look into a folder that can be used is refused.** -/
theorem Usable.sight (h : Usable s t) (key : Key) (e : StoreFailure) : s.sight t key ≠ .error e := by
  rcases t.descend_cases s.folder.names (origin here s.folder) with hs | hf | hf
  · have hstands : s.Stands t := hs
    have hspot := h.spots key
    rw [FileTree.makeAlong_of_descend hs] at hspot
    rw [hstands.sight]
    cases hnode : t.get? (s.spot here key) with
    | none => exact nofun
    | some node =>
      cases node with
      | folder => exact absurd hnode hspot
      | file data => exact nofun
  · rw [sight_of_footing hf]
    exact nofun
  · obtain ⟨e, hrefused⟩ := FileTree.makeAlong_of_file hf
    have hmade := h.made
    rw [hrefused] at hmade
    cases hmade

/-- **A folder can still be used when bytes are stored in it.** -/
theorem Usable.stored (h : Usable s t) {d : Deposit} {u : FileTree here}
    (hu : Stored s d (t.makeAlong (origin here s.folder) s.folder.names).2 u) : Usable s u := by
  have hmade : u.makeAlong (origin here s.folder) s.folder.names = (.ok (), u) :=
    FileTree.makeAlong_of_descend hu.stands
  have hkeep {q : Place} (hq : u.get? q = some .folder) :
      (t.makeAlong (origin here s.folder) s.folder.names).2.get? q = some .folder := by
    have hspot : q ≠ s.spot here d.key := by
      rintro rfl
      cases hu.spot.symm.trans hq
    have hdraft : q ≠ s.draft here d.key d.token := by
      rintro rfl
      cases hu.draft.symm.trans hq
    exact (hu.rest q hspot hdraft).symm.trans hq
  refine ⟨?_, fun key => ?_, fun key n => ?_⟩
  · rw [hmade]
  · rw [hmade]
    exact fun hq => h.spots key (hkeep hq)
  · rw [hmade]
    exact fun hq => h.drafts key n (hkeep hq)

/-- **A folder that can be used refuses nothing**, and can be used ever after. -/
theorem steady_while_usable {τ : Type} (s : FolderStore) (here : Place)
    (capture : Shot → τ → Except CaptureFailure ByteArray × τ) :
    (s.surroundings here capture).SteadyWhile fun x => Usable s x.1.tree where
  read key x h := by
    obtain ⟨⟨t, n⟩, f⟩ := x
    simp only [surroundings, run_get]
    exact ⟨h.sight key, h⟩
  write key payload x h := by
    obtain ⟨⟨t, n⟩, f⟩ := x
    simp only [surroundings, run_set]
    obtain ⟨-, hstored, -⟩ := run_program (s := s) (isPlain_deposit key payload n) t (n + 1)
    obtain ⟨hok, hu⟩ := hstored (h.writable key payload n)
    refine ⟨fun e he => ?_, h.stored hu⟩
    cases hok.symm.trans he
  capture shot x h := h

end Usable

/-! ## 4. One store in place of the other -/

/-- **Reads and writes in a folder without files, whatever their keys and payloads, are answered as by an
    empty store in memory, as long as none is refused, and the folder stays a mirror of that store; so
    calls of any snapshots get the same replies, capture the same pages and count the same. Where the
    folder can be made, and no folder has the name of a file, nothing is refused.** -/
theorem folder_as_memory {τ : Type} (s : FolderStore)
    (capture : Shot → τ → Except CaptureFailure ByteArray × τ) {t : FileTree here} (n : Nat) (f : τ)
    (hempty : ∀ below data, t.get? (s.home here ++ below) ≠ some (.file data)) :
    let folder := World.start ((⟨t, n⟩, f) : Disk here × τ)
    let memory := World.start (⟨Store.empty, f⟩ : Shelf τ)
    let inFolder := s.surroundings here capture
    let inMemory := (Fates.steady capture).surroundings
    (∀ xs : List SnapshotAction,
      let p : SnapshotProgram Unit := Program.performAll xs
      Unrefused (p.runIn inFolder folder).2.events →
        (p.runIn inFolder folder).2.events = (p.runIn inMemory memory).2.events ∧
        Mirrors s (p.runIn inFolder folder).2.state.1.tree (p.runIn inMemory memory).2.state.store) ∧
    (∀ calls : List (Snapshot × Call),
      Unrefused (serve inFolder calls folder).2.events →
        (serve inFolder calls folder).1 = (serve inMemory calls memory).1 ∧
        (serve inFolder calls folder).2.captures = (serve inMemory calls memory).2.captures ∧
        (serve inFolder calls folder).2.tally = (serve inMemory calls memory).2.tally ∧
        Mirrors s (serve inFolder calls folder).2.state.1.tree
          (serve inMemory calls memory).2.state.store) ∧
    (Usable s t →
      (∀ xs : List SnapshotAction,
        Unrefused (SnapshotProgram.runIn (Program.performAll xs) inFolder folder).2.events) ∧
      ∀ calls : List (Snapshot × Call), Unrefused (serve inFolder calls folder).2.events) := by
  intro folder memory inFolder inMemory
  have hf : inFolder.Follows inMemory (Reflects s) := follows_memory s here capture
  have hs : inFolder.SteadyWhile fun x => Usable s x.1.tree := steady_while_usable s here capture
  have hstart : World.Paired (Reflects s) folder memory := ⟨rfl, mirrors_empty hempty, rfl⟩
  have hnone : Unrefused folder.events := fun e he => nomatch he
  refine ⟨?_, ?_, ?_⟩
  · intro xs p hu
    obtain ⟨-, hend⟩ := hf.runIn p hstart hu
    exact ⟨hend.events, hend.state.files⟩
  · intro calls hu
    obtain ⟨hserved, hend⟩ := hf.serve calls hstart hu
    refine ⟨hserved, ?_, ?_, hend.state.files⟩
    · rw [World.captures, World.captures, hend.events]
    · rw [World.tally, World.tally, hend.events]
  · intro husable
    exact ⟨fun xs => (hs.runIn _ husable hnone).1, fun calls => hs.serve calls husable hnone⟩

/-- Reads and writes in a folder that is not there at first, with bytes that are replaced and with none. -/
theorem missing_folder_as_memory :
    let key : Key := ⟨"0000000000000000000000000000000000000000000000000000000000000000", by decide⟩
    let other : Key := ⟨"ffffffffffffffffffffffffffffffffffffffffffffffffffffffffffffffff", by decide⟩
    let xs : List SnapshotAction :=
      [.read key, .write key ⟨#[1, 2]⟩, .write other ⟨#[]⟩, .write key ⟨#[3]⟩, .read key, .read other]
    let here : Place := ["run".toList]
    (SnapshotProgram.runIn (Program.performAll xs)
      (surroundings ⟨⟨"cache"⟩⟩ here fun _ (f : Unit) => (.error .empty, f))
      (World.start (⟨FileTree.empty, 0⟩, ()))).2.events =
        [.read key (.ok none), .write key ⟨#[1, 2]⟩ (.ok ()), .write other ⟨#[]⟩ (.ok ()),
          .write key ⟨#[3]⟩ (.ok ()), .read key (.ok (some ⟨#[3]⟩)), .read other (.ok (some ⟨#[]⟩))] := by
  intro key other xs here
  let t : FileTree here := FileTree.empty
  have hempty (below : List (List Char)) (data : ByteArray) :
      t.get? (home ⟨⟨"cache"⟩⟩ here ++ below) ≠ some (.file data) := by
    have hnone : t.get? (home ⟨⟨"cache"⟩⟩ here ++ below) = none := rfl
    rw [hnone]
    exact nofun
  have hfree (name : String) : (t.makeAlong (origin here ⟨"cache"⟩) (Path.mk "cache").names).2.get?
      (within ⟨⟨"cache"⟩⟩ here name) = none := rfl
  have husable : Usable ⟨⟨"cache"⟩⟩ t :=
    ⟨rfl, fun k => FileTree.ne_folder_of_none (hfree (fileName k)),
      fun k n => FileTree.ne_folder_of_none (hfree (temporaryName k (tokenText n)))⟩
  obtain ⟨hactions, -, hunrefused⟩ := folder_as_memory ⟨⟨"cache"⟩⟩
    (fun _ (f : Unit) => (.error .empty, f)) 0 () hempty
  refine (hactions xs ((hunrefused husable).1 xs)).1.trans ?_
  rfl

end FolderStore

end Vignette
