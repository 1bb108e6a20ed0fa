import Mathlib.Logic.Function.Basic
import Vignette.Proofs.Snapshot.Account
import Vignette.Store

/-!
# What stands in the store

Whatever a store is, what can be seen of it is what stands under each key (`Entries`). Surroundings
keep their entries (`Surroundings.Keeps`) if a read tells what stands under its key, a write that
succeeds puts its payload there, and nothing else changes anything. The events of a run lead from the
entries at its start to those at its end (`Leads`).

Main statements: **a run takes a course of its program, and the events of that course lead from the
entries before it to the entries after it** (`SnapshotProgram.exists_passage`); **a store in memory
keeps its entries, whichever reads and writes are refused and whatever the browser answers**
(`Fates.keeps`).
-/

namespace Vignette

/-! ## 1. Entries -/

/-- What stands under each key. -/
abbrev Entries : Type := Key → Option ByteArray

/-- Reads tell what stands under their key, and writes that succeed put their payload under theirs;
    nothing else changes what stands anywhere. -/
structure Surroundings.Keeps {σ : Type} (env : Surroundings σ) (entries : σ → Entries) : Prop where
  read_answer : ∀ key s answer, (env.read key s).1 = .ok answer → answer = entries s key
  read_keeps : ∀ key s, entries (env.read key s).2 = entries s
  write_puts : ∀ key payload s, (env.write key payload s).1 = .ok () →
    entries (env.write key payload s).2 = Function.update (entries s) key (some payload)
  write_keeps : ∀ key payload s e, (env.write key payload s).1 = .error e →
    entries (env.write key payload s).2 = entries s
  capture_keeps : ∀ shot s, entries (env.capture shot s).2 = entries s

/-- Nothing is ever refused. -/
structure Surroundings.Steady {σ : Type} (env : Surroundings σ) : Prop where
  read_ok : ∀ key s e, (env.read key s).1 ≠ .error e
  write_ok : ∀ key payload s e, (env.write key payload s).1 ≠ .error e

namespace Event

/-- The entries after an event. -/
def put (e : Event) (entries : Entries) : Entries :=
  match e with
  | write key payload (.ok ()) => Function.update entries key (some payload)
  | _ => entries

/-- Is a read answered with what stands under its key? -/
def Tells (entries : Entries) : Event → Prop
  | read key (.ok answer) => answer = entries key
  | _ => True

/-- Is the event a read or a write that is refused? -/
def isRefused : Event → Bool
  | read _ (.error _) | write _ _ (.error _) => true
  | _ => false

end Event

/-- The events lead from the entries before them to those after them. -/
def Leads : Entries → List Event → Entries → Prop
  | before, [], after => after = before
  | before, e :: es, after => e.Tells before ∧ Leads (e.put before) es after

@[simp] theorem leads_nil {before after : Entries} : Leads before [] after ↔ after = before := Iff.rfl

@[simp] theorem leads_cons {before after : Entries} {e : Event} {es : List Event} :
    Leads before (e :: es) after ↔ e.Tells before ∧ Leads (e.put before) es after := Iff.rfl

theorem leads_append {es fs : List Event} {before after : Entries} :
    Leads before (es ++ fs) after ↔ ∃ m, Leads before es m ∧ Leads m fs after := by
  induction es generalizing before with
  | nil => simp
  | cons e es ih =>
    simp only [List.cons_append, leads_cons, ih]
    constructor
    · rintro ⟨ht, m, h1, h2⟩
      exact ⟨m, ⟨ht, h1⟩, h2⟩
    · rintro ⟨m, ⟨ht, h1⟩, h2⟩
      exact ⟨ht, m, h1, h2⟩

/-- The entries after a write, by its answer. -/
def Entries.written (entries : Entries) : Key × ByteArray × Except StoreFailure Unit → Entries
  | (key, payload, .ok ()) => Function.update entries key (some payload)
  | (_, _, .error _) => entries

/-- What stands under a key after writes stood there before them or is one of them. -/
theorem Entries.eq_or_written (key : Key) :
    ∀ (ws : List (Key × ByteArray × Except StoreFailure Unit)) (before : Entries),
      ws.foldl written before key = before key ∨
        ∃ payload, ws.foldl written before key = some payload ∧ (key, payload, .ok ()) ∈ ws
  | [], _ => .inl rfl
  | (k, payload, answer) :: ws, before => by
    rw [List.foldl_cons]
    rcases eq_or_written key ws (written before (k, payload, answer)) with h | ⟨other, ho, hm⟩
    · cases answer with
      | error e => exact .inl h
      | ok _ =>
        by_cases hk : key = k
        · subst hk
          exact .inr ⟨payload, h.trans (Function.update_self _ _ _), List.mem_cons_self⟩
        · exact .inl (h.trans (Function.update_of_ne hk _ _))
    · exact .inr ⟨other, ho, List.mem_cons_of_mem _ hm⟩

section Leads

variable {es : List Event} {before after : Entries}

/-- **The entries at the end are those at the start and what was written since.** -/
theorem Leads.eq_written (h : Leads before es after) :
    after = (Account.of es).writes.foldl Entries.written before := by
  induction es generalizing before with
  | nil => exact h
  | cons e es ih =>
    rw [ih h.2, Account.of_cons, Account.writes_append, List.foldl_append]
    cases e with
    | write key payload answer => cases answer <;> rfl
    | _ => rfl

/-- **What stands under a key at the end stood there at the start or was written in between.** -/
theorem Leads.eq_or_written (h : Leads before es after) (key : Key) :
    after key = before key ∨
      ∃ payload, after key = some payload ∧ (key, payload, .ok ()) ∈ (Account.of es).writes := by
  rw [h.eq_written]
  exact Entries.eq_or_written key _ before

/-- **What is read under a key stood there at the start or was written in between.** -/
theorem Leads.read_or_written (h : Leads before es after) {key : Key} {answer : Option ByteArray}
    (hm : (key, .ok answer) ∈ (Account.of es).reads) :
    answer = before key ∨
      ∃ payload, answer = some payload ∧ (key, payload, .ok ()) ∈ (Account.of es).writes := by
  obtain ⟨e, he, hread⟩ := List.mem_filterMap.mp hm
  obtain rfl : e = .read key (.ok answer) := by
    cases e <;> cases hread
    rfl
  obtain ⟨first, rest, rfl⟩ := List.append_of_mem he
  obtain ⟨m, hfirst, hrest⟩ := leads_append.mp h
  have hanswer : answer = m key := hrest.1
  rw [hanswer, Account.of_append, Account.writes_append]
  rcases hfirst.eq_or_written key with hk | ⟨payload, hp, hw⟩
  · exact .inl hk
  · exact .inr ⟨payload, hp, List.mem_append_left _ hw⟩

end Leads

/-! ## 2. Runs -/

section Runs

variable {σ α : Type} {env : Surroundings σ}

/-- An action leaves its event, and nothing else. -/
theorem World.events_perform (x : SnapshotAction) (w : World σ) :
    (w.perform env x).2.events = w.events ++ [.of x (w.perform env x).1] := by
  cases x <;> rfl

/-- The event of an action leads to the entries behind it. -/
theorem World.leads_perform {entries : σ → Entries} (hk : env.Keeps entries) (x : SnapshotAction)
    (w : World σ) : Leads (entries w.state) [.of x (w.perform env x).1]
      (entries (w.perform env x).2.state) := by
  cases x with
  | read key =>
    have hkeep : entries (env.read key w.state).2 = entries w.state := hk.read_keeps key w.state
    refine ⟨?_, hkeep⟩
    show Event.Tells _ (.read key (env.read key w.state).1)
    cases hr : (env.read key w.state).1 with
    | error e => trivial
    | ok answer => exact hk.read_answer key w.state answer hr
  | write key payload =>
    refine ⟨trivial, ?_⟩
    show entries (env.write key payload w.state).2 =
      (Event.write key payload (env.write key payload w.state).1).put (entries w.state)
    cases hr : (env.write key payload w.state).1 with
    | error e => exact hk.write_keeps key payload w.state e hr
    | ok _ => exact hk.write_puts key payload w.state hr
  | capture shot => exact ⟨trivial, hk.capture_keeps shot w.state⟩
  | note n => exact ⟨trivial, rfl⟩
  | count kind c => exact ⟨trivial, rfl⟩

/-- What is known of the events that a run leaves: they are a course of the program, they lead to the
    entries at the end, and each is what the surroundings answer. -/
structure Passage (p : SnapshotProgram α) (env : Surroundings σ) (w : World σ) (es : List Event) :
    Prop where
  events : (p.runIn env w).2.events = w.events ++ es
  course : Course p es (p.runIn env w).1
  leads : ∀ entries, env.Keeps entries →
    Leads (entries w.state) es (entries (p.runIn env w).2.state)
  answered : ∀ P : Event → Prop, (∀ x w, P (.of x (World.perform env x w).1)) → ∀ e ∈ es, P e

/-- **A run takes a course of its program.** -/
theorem SnapshotProgram.exists_passage :
    ∀ (p : SnapshotProgram α) (w : World σ), ∃ es, Passage p env w es
  | .done a, w =>
    ⟨[], (List.append_nil _).symm, ⟨rfl, rfl⟩, fun _ _ => rfl, fun _ _ _ he => by cases he⟩
  | .act x next, w => by
    obtain ⟨es, h⟩ := exists_passage (next (w.perform env x).1) (w.perform env x).2
    refine ⟨.of x (w.perform env x).1 :: es, ?_, ⟨_, es, rfl, h.course⟩, fun entries hk => ?_,
      fun P hP e he => ?_⟩
    · have hev := h.events
      rw [World.events_perform, List.append_assoc] at hev
      exact hev
    · exact leads_append.mpr ⟨_, World.leads_perform hk x w, h.leads entries hk⟩
    · rcases List.mem_cons.mp he with rfl | he
      · exact hP x w
      · exact h.answered P hP e he

end Runs

/-! ## 3. A store in memory that may refuse -/

/-- A store in memory, and whatever else decides what becomes of the actions. -/
structure Shelf (τ : Type) where
  store : Store
  fate : τ

/-- What becomes of actions: whether a read or a write is refused, and what the browser answers. It
    may depend on all that happened before. -/
structure Fates (τ : Type) where
  read : Key → τ → Option StoreFailure × τ
  write : Key → ByteArray → τ → Option StoreFailure × τ
  capture : Shot → τ → Except CaptureFailure ByteArray × τ

namespace Fates

variable {τ : Type}

/-- A store in memory that refuses what fate refuses. -/
def surroundings (f : Fates τ) : Surroundings (Shelf τ) where
  read key s :=
    match f.read key s.fate with
    | (some e, t) => (.error e, ⟨s.store, t⟩)
    | (none, t) => (.ok (s.store.get? key), ⟨s.store, t⟩)
  write key payload s :=
    match f.write key payload s.fate with
    | (some e, t) => (.error e, ⟨s.store, t⟩)
    | (none, t) => (.ok (), ⟨s.store.put key payload, t⟩)
  capture shot s :=
    match f.capture shot s.fate with
    | (r, t) => (r, ⟨s.store, t⟩)

/-- Fate that refuses nothing. -/
def steady (capture : Shot → τ → Except CaptureFailure ByteArray × τ) : Fates τ where
  read _ t := (none, t)
  write _ _ t := (none, t)
  capture := capture

/-- **A store in memory keeps its entries, whatever becomes of the actions.** -/
theorem keeps (f : Fates τ) : f.surroundings.Keeps fun s => s.store.get? where
  read_answer key s answer h := by
    unfold surroundings at h
    dsimp only at h
    split at h
    · cases h
    · cases h
      rfl
  read_keeps key s := by
    unfold surroundings
    dsimp only
    split <;> rfl
  write_puts key payload s h := by
    unfold surroundings at h ⊢
    dsimp only at h ⊢
    split at h
    · cases h
    · funext other
      rw [Store.get?_put, Function.update_apply]
  write_keeps key payload s e h := by
    unfold surroundings at h ⊢
    dsimp only at h ⊢
    split at h
    · rfl
    · cases h
  capture_keeps shot s := rfl

/-- **A store in memory whose fate refuses nothing is steady.** -/
theorem steady_surroundings (capture : Shot → τ → Except CaptureFailure ByteArray × τ) :
    (steady capture).surroundings.Steady where
  read_ok _ _ _ := nofun
  write_ok _ _ _ _ := nofun

end Fates

end Vignette
