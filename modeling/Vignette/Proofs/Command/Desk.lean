import Vignette.Command.World
import Vignette.Proofs.Snapshot.Account
import Vignette.Proofs.Store.Mirror

/-!
# Commands at a desk

A desk is a disk, and a browser and a clock that have a state of their own and leave the disk alone
(`desk`). So nobody but the commands works on the files, and a program on files comes to what it comes to
when it is run on the disk by itself (`runIn_files`).

A snapshot's program that a command carries out leaves events as it does anywhere, and each of them tells
what happened on the tree of files: a read tells what can be seen of the store, a write is what a writer
does who has the folder for itself (`Event.Moves`).

Main statements: **an action that has to do with neither files nor browser leaves the disk alone**
(`runIn_spares`); **a snapshot's program that comes to its end at a desk takes a course, and the events of
the course lead from the tree before to the tree after** (`Context.passage`); **a lookup answers what can be
seen, and changes no file** (`Context.runIn_lookup`).
-/

namespace Vignette

open CommandProgram
open FileTree (Disk)

variable {here : Place}

/-! ## 1. Desks -/

/-- A disk, and a browser and a clock with a state of their own. -/
def desk {τ : Type} (capture : BrowserSettings → Shot → τ → Sitting × τ) (clock : τ → Nat × τ) :
    Equipment (Disk here × τ) where
  file step x := ((FileTree.perform step x.1).1, (FileTree.perform step x.1).2, x.2)
  capture browser shot x := ((capture browser shot x.2).1, x.1, (capture browser shot x.2).2)
  clock x := ((clock x.2).1, x.1, (clock x.2).2)

namespace CommandWorld

variable {τ : Type}

/-- The files. -/
def tree (w : CommandWorld (Disk here × τ)) : FileTree here := w.state.1.tree

/-- The same world with another disk. -/
def withDisk (w : CommandWorld (Disk here × τ)) (d : Disk here) : CommandWorld (Disk here × τ) :=
  ⟨(d, w.state.2), w.events⟩

theorem withDisk_self (w : CommandWorld (Disk here × τ)) : w.withDisk w.state.1 = w := rfl

end CommandWorld

section Desk

variable {α β τ : Type} {capture : BrowserSettings → Shot → τ → Sitting × τ} {clock : τ → Nat × τ}
  {w w' : CommandWorld (Disk here × τ)}

/-- **A program on files comes to what it comes to on the disk by itself.** -/
theorem runIn_files : ∀ (p : FileProgram α) (w : CommandWorld (Disk here × τ)),
    (files p).runIn (desk capture clock) w =
      (some (p.run FileTree.perform w.state.1).1, w.withDisk (p.run FileTree.perform w.state.1).2)
  | .done a, w => rfl
  | .act step next, w => by
    have hworld : w.after ((FileTree.perform step w.state.1).2, w.state.2) [] =
        w.withDisk (FileTree.perform step w.state.1).2 := by
      rw [CommandWorld.after, List.append_nil]
      rfl
    have hstep : (files (.act step next)).runIn (desk capture clock) w =
        (files (next (FileTree.perform step w.state.1).1)).runIn (desk capture clock)
          (w.after ((FileTree.perform step w.state.1).2, w.state.2) []) := rfl
    rw [hstep, hworld, runIn_files]
    rfl

theorem runIn_files_bind (p : FileProgram α) (f : α → CommandProgram β)
    (w : CommandWorld (Disk here × τ)) : CommandProgram.runIn (files p >>= f) (desk capture clock) w =
      (f (p.run FileTree.perform w.state.1).1).runIn (desk capture clock)
        (w.withDisk (p.run FileTree.perform w.state.1).2) := by
  have hfiles : Program.runUntil (CommandWorld.perform (desk capture clock)) (files p) w = _ := runIn_files p w
  rw [CommandProgram.runIn, Program.runUntil_bind, hfiles]
  rfl

/-- The parts of a program run one after the other. -/
theorem runIn_bind {σ : Type} {eq : Equipment σ} {p : CommandProgram α} {f : α → CommandProgram β}
    {w m : CommandWorld σ} {a : α} (h : CommandProgram.runIn p eq w = (some a, m)) :
    CommandProgram.runIn (p >>= f) eq w = (f a).runIn eq m := by
  rw [CommandProgram.runIn] at h
  rw [CommandProgram.runIn, Program.runUntil_bind, h]
  rfl

/-- A single action has the answer that it gets. -/
theorem runIn_perform {σ : Type} (eq : Equipment σ) (x : CommandAction) (w : CommandWorld σ) :
    CommandProgram.runIn (Program.perform x) eq w = w.perform eq x := by
  rw [CommandProgram.runIn, Program.perform, Program.runUntil]
  rcases w.perform eq x with ⟨_ | answer, m⟩ <;> rfl

/-- A run of two programs that comes to its end is one of the first and then one of the second. -/
theorem of_runIn_bind {σ : Type} {eq : Equipment σ} {p : CommandProgram α} {f : α → CommandProgram β}
    {w w' : CommandWorld σ} {b : β} (h : CommandProgram.runIn (p >>= f) eq w = (some b, w')) :
    ∃ a m, CommandProgram.runIn p eq w = (some a, m) ∧ (f a).runIn eq m = (some b, w') := by
  rw [CommandProgram.runIn, Program.runUntil_bind] at h
  split at h
  · rename_i a m hp
    exact ⟨a, m, hp, h⟩
  · cases h

/-! ## 2. What leaves the disk alone -/

/-- Nothing was captured, and the disk is the same. -/
structure CommandWorld.Idle (w w' : CommandWorld (Disk here × τ)) : Prop where
  disk : w'.state.1 = w.state.1
  captures : w'.captures = w.captures

namespace CommandWorld

theorem Idle.refl (w : CommandWorld (Disk here × τ)) : Idle w w := ⟨rfl, rfl⟩

theorem Idle.trans {w₁ w₂ w₃ : CommandWorld (Disk here × τ)} (h : Idle w₁ w₂) (h' : Idle w₂ w₃) : Idle w₁ w₃ :=
  ⟨h'.disk.trans h.disk, h'.captures.trans h.captures⟩

theorem Idle.tree (h : Idle w w') : w'.tree = w.tree := congrArg Disk.tree h.disk

/-- Events that are no captures change nothing. -/
theorem idle_after (w : CommandWorld (Disk here × τ)) (f : τ) {es : List CommandEvent}
    (h : ∀ e ∈ es, e.capture? = none) : Idle w (w.after (w.state.1, f) es) where
  disk := rfl
  captures := by
    rw [captures, captures, after, List.filterMap_append, List.filterMap_eq_nil_iff.mpr h,
      List.append_nil]

end CommandWorld

open CommandWorld

/-- An action that has to do with neither the files nor the browser. -/
def CommandAction.Spares : CommandAction → Prop
  | .file _ | .capture _ _ => False
  | _ => True

variable (capture clock) in
/-- **An action that spares files and browser leaves the disk alone.** -/
theorem runIn_spares {x : CommandAction} (hx : x.Spares) (w : CommandWorld (Disk here × τ)) :
    ∃ answer m, CommandProgram.runIn (Program.perform x) (desk capture clock) w = (some answer, m) ∧
      Idle w m := by
  have hshown {e : CommandEvent} (he : e.capture? = none) : ∀ e' ∈ [e], e'.capture? = none := by
    simpa using he
  simp only [runIn_perform]
  cases x with
  | file _ => exact hx.elim
  | capture _ _ => exact hx.elim
  | note n => exact ⟨(), _, rfl, idle_after w w.state.2 (hshown rfl)⟩
  | count kind c => exact ⟨(), _, rfl, idle_after w w.state.2 (hshown rfl)⟩
  | say line => exact ⟨(), _, rfl, idle_after w w.state.2 (hshown rfl)⟩
  | complain line => exact ⟨(), _, rfl, idle_after w w.state.2 (hshown rfl)⟩
  | report => exact ⟨(), _, rfl, idle_after w w.state.2 (hshown rfl)⟩
  | clock => exact ⟨_, w.after (w.state.1, (clock w.state.2).2) [], rfl, idle_after w _ nofun⟩

variable (capture clock) in
theorem runIn_sayAll : ∀ (lines : List String) (w : CommandWorld (Disk here × τ)),
    ∃ m, (sayAll lines).runIn (desk capture clock) w = (some (), m) ∧ Idle w m
  | [], w => ⟨w, rfl, .refl w⟩
  | line :: rest, w => by
    obtain ⟨_, m, hsaid, hm⟩ := runIn_spares capture clock (x := .say line) trivial w
    obtain ⟨m', hrest, hm'⟩ := runIn_sayAll rest m
    have hbind : sayAll (line :: rest) = Program.perform (.say line) >>= fun _ => sayAll rest := rfl
    exact ⟨m', by rw [hbind, runIn_bind hsaid, hrest], hm.trans hm'⟩

/-! ## 3. Snapshots at a desk -/

/-- What an event tells of the tree before it and the tree after it. -/
def Event.Moves (s : FolderStore) (t u : FileTree here) : Event → Prop
  | .read key answer => answer = s.sight t key ∧ u = t
  | .write key payload answer => ∃ n, answer = ((s.set key payload).run FileTree.perform ⟨t, n⟩).1 ∧
      u = ((s.set key payload).run FileTree.perform ⟨t, n⟩).2.tree
  | _ => u = t

/-- The events lead from one tree to another. -/
def Tracks (s : FolderStore) : FileTree here → List Event → FileTree here → Prop
  | t, [], u => u = t
  | t, e :: es, u => ∃ m, e.Moves s t m ∧ Tracks s m es u

theorem tracks_append {s : FolderStore} {es fs : List Event} {t u : FileTree here} :
    Tracks s t (es ++ fs) u ↔ ∃ m, Tracks s t es m ∧ Tracks s m fs u := by
  induction es generalizing t with
  | nil =>
    constructor
    · exact fun h => ⟨t, rfl, h⟩
    · rintro ⟨m, rfl, h⟩
      exact h
  | cons e es ih =>
    constructor
    · rintro ⟨m, hm, h⟩
      obtain ⟨n, h1, h2⟩ := ih.mp h
      exact ⟨n, ⟨m, hm, h1⟩, h2⟩
    · rintro ⟨n, ⟨m, hm, h1⟩, h2⟩
      exact ⟨m, hm, ih.mpr ⟨n, h1, h2⟩⟩

namespace Context

variable {c : Context}

theorem snapshot_act (x : SnapshotAction) (next : x.Answer → SnapshotProgram α) :
    c.snapshot (.act x next) = c.snapshotAction x >>= fun answer => c.snapshot (next answer) := rfl

/-- A read is answered with what can be seen of the store. -/
theorem runIn_read (key : Key) : (c.snapshotAction (.read key)).runIn (desk capture clock) w =
    (some (c.store.sight w.tree key), w) := by
  have hget : (c.store.get key).run FileTree.perform w.state.1 = (c.store.sight w.tree key, w.state.1) :=
    FolderStore.run_get ..
  rw [snapshotAction, runIn_files, hget, withDisk_self]

/-- An action that is carried out moves the files as its event tells. -/
theorem moves_of_runIn {x : SnapshotAction} {answer : x.Answer}
    (h : (c.snapshotAction x).runIn (desk capture clock) w = (some answer, w')) :
    (Event.of x answer).Moves c.store w.tree w'.tree := by
  cases x with
  | read key =>
    rw [runIn_read, Prod.mk.injEq, Option.some.injEq] at h
    obtain ⟨rfl, rfl⟩ := h
    exact ⟨rfl, rfl⟩
  | write key payload =>
    obtain ⟨⟨⟨t, n⟩, f⟩, es⟩ := w
    rw [snapshotAction, runIn_files_bind] at h
    refine ⟨n, ?_⟩
    simp only [CommandWorld.tree, CommandWorld.withDisk] at h ⊢
    generalize (c.store.set key payload).run FileTree.perform ⟨t, n⟩ = written at h ⊢
    obtain ⟨e | _, d⟩ := written
    · cases h
      exact ⟨rfl, rfl⟩
    · cases h
      exact ⟨rfl, rfl⟩
  | capture shot =>
    rw [snapshotAction, CommandProgram.capture, runIn_perform] at h
    obtain ⟨-, rfl⟩ := Prod.mk.inj h
    rfl
  | note n =>
    cases h
    rfl
  | count kind counter =>
    cases h
    rfl

/-- **A snapshot's program that comes to its end takes a course, and the events of the course lead from the
    tree before to the tree after.** -/
theorem passage : ∀ {p : SnapshotProgram α} {a : α} {w w' : CommandWorld (Disk here × τ)},
    (c.snapshot p).runIn (desk capture clock) w = (some a, w') →
      ∃ es, Course p es a ∧ Tracks c.store w.tree es w'.tree
  | .done b, a, w, w', h => by
    cases h
    exact ⟨[], ⟨rfl, rfl⟩, rfl⟩
  | .act x next, a, w, w', h => by
    obtain ⟨answer, m, hx, hnext⟩ := of_runIn_bind (f := fun answer => c.snapshot (next answer)) h
    obtain ⟨es, hcourse, htracks⟩ := passage hnext
    exact ⟨.of x answer :: es, ⟨answer, es, rfl, hcourse⟩, m.tree, moves_of_runIn hx, htracks⟩

/-- What a lookup does when it knows the thumbnail in what was read. -/
def afterReading (key : Key) :
    Except StoreFailure (Option ByteArray) → SnapshotProgram (Except StoreFailure (Option ByteArray))
  | .error e => .done (.error e)
  | .ok none => .act (.note (.missing key)) fun _ => .done (.ok none)
  | .ok (some t) => .done (.ok (some t))

theorem lookup_eq (key : Key) : Snapshot.lookup key =
    .act (.note (.lookup key)) fun _ => .act (.read key) fun answer =>
      afterReading key (answer.map thumbnail?) := by
  refine congrArg (Program.act _) (funext fun _ => congrArg (Program.act _) (funext fun answer => ?_))
  rcases answer with e | _ | t
  · rfl
  · rfl
  · change (if t.isEmpty then _ else _) = _
    split
    · rename_i ht
      simp only [Except.map, thumbnail?_of_isEmpty ht]
      rfl
    · rename_i ht
      simp only [Except.map, thumbnail?_of_not_isEmpty (eq_false_of_ne_true ht)]
      rfl

variable (capture clock) in
theorem runIn_afterReading (c : Context) (key : Key) (answer : Except StoreFailure (Option ByteArray))
    (w : CommandWorld (Disk here × τ)) : ∃ m,
      (c.snapshot (afterReading key answer)).runIn (desk capture clock) w = (some answer, m) ∧ Idle w m := by
  rcases answer with e | _ | t
  · exact ⟨w, rfl, .refl w⟩
  · obtain ⟨_, m, hnote, hm⟩ := runIn_spares capture clock (x := .note (.missing key)) trivial w
    have hnone : c.snapshot (afterReading key (.ok none)) = CommandProgram.note (.missing key) >>= fun _ =>
        .done (.ok none) := rfl
    exact ⟨m, by rw [hnone]; exact runIn_bind hnote, hm⟩
  · exact ⟨w, rfl, .refl w⟩

variable (capture clock) in
/-- **A lookup answers what can be seen**, and changes nothing. -/
theorem runIn_lookup (c : Context) (key : Key) (w : CommandWorld (Disk here × τ)) :
    ∃ m, (c.snapshot (Snapshot.lookup key)).runIn (desk capture clock) w =
      (some ((c.store.sight w.tree key).map thumbnail?), m) ∧ Idle w m := by
  obtain ⟨_, m, hnote, hm⟩ := runIn_spares capture clock (x := .note (.lookup key)) trivial w
  obtain ⟨m', hrun, hm'⟩ := runIn_afterReading capture clock c key ((c.store.sight m.tree key).map thumbnail?) m
  have hread : (c.snapshotAction (.read key)).runIn (desk capture clock) m =
      (some (c.store.sight m.tree key), m) := runIn_read key
  refine ⟨m', ?_, hm.trans hm'⟩
  rw [lookup_eq, snapshot_act, runIn_bind (p := c.snapshotAction (.note (.lookup key))) hnote, snapshot_act,
    runIn_bind hread, hrun, hm.tree]

end Context

end Desk

end Vignette
