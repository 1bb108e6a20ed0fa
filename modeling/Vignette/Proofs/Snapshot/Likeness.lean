import Vignette.Proofs.Snapshot.Course

/-!
# Getting is computing that also answers

Getting a thumbnail looks into the store and then computes what is missing without a second look
(`Snapshot.get`); computing one that is not forced has the look inside (`Snapshot.compute`). The two
bump other counters and leave other notes, and nothing that a store or a browser is asked tells them
apart. Two worlds are alike (`World.Alike`) if they are in one state and the same was dealt with the
store and the browser on the way there, in one order and with the same answers.

An action takes alike worlds to alike worlds and has one answer in both (`World.Alike.perform`), and so
does a program (`World.Alike.runIn`); notes and counters keep a world alike to itself.

Main statement: **getting a thumbnail and computing it unforced leave alike worlds, and come to the same,
except that of a thumbnail that is there the one answers it and the other nothing**
(`Snapshot.get_like_compute`). Nothing is asked of the surroundings: reads, writes and captures may fail at
any time, and in ways that depend on all that happened before.
-/

namespace Vignette

/-! ## 1. Worlds that are alike -/

/-- Was something asked of the store or the browser? -/
def Event.isDealing : Event → Bool
  | read _ _ | write _ _ _ | capture _ _ => true
  | note _ | count _ _ => false

namespace World

variable {σ α : Type} {env : Surroundings σ} {w v u : World σ}

/-- What was dealt with the store and the browser, in order. -/
def dealings (w : World σ) : List Event := w.events.filter Event.isDealing

/-- The same state, after the same dealings. -/
structure Alike (w v : World σ) : Prop where
  state : w.state = v.state
  dealings : w.dealings = v.dealings

theorem Alike.refl (w : World σ) : Alike w w := ⟨rfl, rfl⟩

theorem Alike.symm (h : Alike w v) : Alike v w := ⟨h.state.symm, h.dealings.symm⟩

theorem Alike.trans (h : Alike w v) (h' : Alike v u) : Alike w u :=
  ⟨h.state.trans h'.state, h.dealings.trans h'.dealings⟩

/-- One more event of either kind is one more dealing or none. -/
theorem dealings_after (w : World σ) (s : σ) (e : Event) :
    (w.after s e).dealings = w.dealings ++ [e].filter Event.isDealing :=
  List.filter_append ..

/-- A note or a counter is no dealing. -/
theorem alike_after (w : World σ) {e : Event} (h : e.isDealing = false) : Alike (w.after w.state e) w := by
  refine ⟨rfl, ?_⟩
  rw [dealings_after, List.filter_cons_of_neg (by simp [h]), List.filter_nil, List.append_nil]

theorem Alike.after (h : Alike w v) (s : σ) (e : Event) : Alike (w.after s e) (v.after s e) := by
  refine ⟨rfl, ?_⟩
  rw [dealings_after, dealings_after, h.dealings]

variable (env) in
/-- **An action has one answer in alike worlds, and leaves them alike.** -/
theorem Alike.perform (h : Alike w v) (x : SnapshotAction) :
    (w.perform env x).1 = (v.perform env x).1 ∧ Alike (w.perform env x).2 (v.perform env x).2 := by
  obtain ⟨state, es⟩ := w
  obtain ⟨_, fs⟩ := v
  obtain rfl : state = _ := h.state
  cases x with
  | read key => exact ⟨rfl, h.after _ _⟩
  | write key payload => exact ⟨rfl, h.after _ _⟩
  | capture shot => exact ⟨rfl, h.after _ _⟩
  | note n => exact ⟨rfl, h.after _ _⟩
  | count kind c => exact ⟨rfl, h.after _ _⟩

variable (env) in
/-- **A program comes to the same in alike worlds, and leaves them alike.** -/
theorem Alike.runIn : ∀ (p : SnapshotProgram α) {w v : World σ}, Alike w v →
    (p.runIn env w).1 = (p.runIn env v).1 ∧ Alike (p.runIn env w).2 (p.runIn env v).2
  | .done _, _, _, h => ⟨rfl, h⟩
  | .act x next, w, v, h => by
    obtain ⟨hanswer, hworld⟩ := h.perform env x
    have hnext := Alike.runIn (next (v.perform env x).1) hworld
    simp only [SnapshotProgram.runIn, Program.run_act, hanswer]
    exact hnext

end World

/-! ## 2. Getting and computing -/

namespace Snapshot

variable {σ : Type} (env : Surroundings σ)

open World (Alike alike_after)

/-- **A lookup answers the thumbnail in what is read.** -/
theorem answer_lookup (key : Key) (w : World σ) :
    ((lookup key).runIn env w).1 = (env.read key w.state).1.map thumbnail? := by
  simp only [lookup, SnapshotProgram.note, SnapshotProgram.read, SnapshotProgram.runIn,
    Program.bind_perform, Program.run_act, World.perform, World.after]
  rcases (env.read key w.state).1 with e | _ | t
  · rfl
  · rfl
  · cases ht : t.isEmpty with
    | true =>
      rw [Except.map, thumbnail?_of_isEmpty ht]
      simp only [ht]
      rfl
    | false =>
      rw [Except.map, thumbnail?_of_not_isEmpty ht]
      simp only [ht]
      rfl

/-- What follows on a lookup goes on from what the lookup comes to. -/
theorem runIn_behind_lookup {α : Type} {key : Key} {w m : World σ}
    {answer : Except StoreFailure (Option ByteArray)} (h : (lookup key).runIn env w = (answer, m))
    (f : Except StoreFailure (Option ByteArray) → SnapshotProgram α) :
    SnapshotProgram.runIn (lookup key >>= f) env w = (f answer).runIn env m := by
  rw [SnapshotProgram.runIn] at h
  rw [SnapshotProgram.runIn, Program.run_bind, h]
  rfl

/-- **Getting and computing unforced deal with the store and the browser alike**, and the world that one
    call leaves differs from the other's in notes and counters only. They answer the same failure or the
    same thumbnail, except that of a thumbnail that is there already the one answers it, and the other
    nothing. -/
theorem get_like_compute (s : Snapshot) (identity : Identity) (thumb : Option Size) (w : World σ) :
    let found := (env.read (s.key none thumb) w.state).1
    let got := (s.get identity thumb).runIn env w
    let computed := (s.compute identity none thumb false).runIn env w
    Alike got.2 computed.2 ∧
    (∀ t, found = .ok (some t) → t.isEmpty = false → got.1 = .ok (some t) ∧ computed.1 = .ok none) ∧
    ((∀ t, found = .ok (some t) → t.isEmpty = true) → got.1 = computed.1) := by
  intro found got computed
  rcases hlook : (lookup (s.key none thumb)).runIn env w with ⟨answer, m⟩
  have hanswer : answer = found.map thumbnail? := by
    rw [← answer_lookup env (s.key none thumb) w, hlook]
  have hsees (t : ByteArray) : answer = .ok (some t) ↔ found = .ok (some t) ∧ t.isEmpty = false := by
    rw [hanswer]
    cases found with
    | error e => simp [Except.map]
    | ok o => simp [Except.map, thumbnail?_eq_some]
  have hgot : got = _ := runIn_behind_lookup env hlook _
  have hcomputed : computed = _ := runIn_behind_lookup env hlook _
  rcases answer with e | _ | payload
  · -- the store refuses the look, and both calls end there
    have hgot : got = (.error e, m) := hgot
    have hcomputed : computed = (.error e, m) := hcomputed
    rw [hgot, hcomputed]
    refine ⟨.refl m, fun t hf ht => ?_, fun _ => rfl⟩
    cases (hsees t).mpr ⟨hf, ht⟩
  · -- nothing is there: both produce it, and the one has counted that before
    have hmiss : Alike (m.after m.state (.count s.request.kind .miss)) m := alike_after m rfl
    obtain ⟨hsame, halike⟩ := hmiss.runIn env
      (s.produce identity (s.key none thumb) (s.windowOf none) (s.thumbOf thumb))
    rw [hgot, hcomputed]
    refine ⟨halike, fun t hf ht => ?_, fun _ => hsame⟩
    cases (hsees t).mpr ⟨hf, ht⟩
  · -- it is there: both leave a note of that and count it
    obtain ⟨hf, ht⟩ := (hsees payload).mp rfl
    have hloaded : Alike got.2 m := by
      rw [hgot]
      exact (alike_after _ rfl).trans (alike_after m rfl)
    have hskipped : Alike computed.2 m := by
      rw [hcomputed]
      exact (alike_after _ rfl).trans (alike_after m rfl)
    refine ⟨hloaded.trans hskipped.symm, fun t hf' _ => ?_, fun hempty => ?_⟩
    · obtain rfl : payload = t := by
        rw [hf] at hf'
        simpa using hf'
      rw [hgot, hcomputed]
      exact ⟨rfl, rfl⟩
    · rw [hempty payload hf] at ht
      cases ht

end Snapshot

end Vignette
