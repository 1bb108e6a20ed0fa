import Vignette.Proofs.Snapshot.Service

/-!
# One store in place of another

Two surroundings can be compared without a look at how they keep what they store. The one follows the
other (`Surroundings.Follows`) if the same answers come of the same actions, except where the one refuses
a read or a write. Some surroundings refuse nothing as long as their state is good
(`Surroundings.SteadyWhile`).

Main statements: **calls that are refused nothing are served as they are by the surroundings that are
followed** (`Surroundings.Follows.serve`), and **surroundings whose state is good refuse nothing in any run
of calls** (`Surroundings.SteadyWhile.serve`).
-/

namespace Vignette

/-- No read and no write is refused. -/
def Unrefused (es : List Event) : Prop := ∀ e ∈ es, e.isRefused = false

theorem unrefused_append {es fs : List Event} : Unrefused (es ++ fs) ↔ Unrefused es ∧ Unrefused fs :=
  List.forall_mem_append

section Refinement

variable {σ τ : Type} {env : Surroundings σ} {model : Surroundings τ}

/-- The events of a run stand behind those before it. -/
theorem SnapshotProgram.unrefused_of_runIn {α : Type} (p : SnapshotProgram α) {w : World σ}
    (h : Unrefused (p.runIn env w).2.events) : Unrefused w.events := by
  obtain ⟨es, hpassage⟩ : ∃ es, Passage p env w es := p.exists_passage w
  rw [hpassage.events] at h
  exact (unrefused_append.mp h).1

/-! ## 1. Surroundings that follow others -/

/-- The same answers come of the same actions, in states that are related before and after, unless a read
    or a write is refused. -/
structure Surroundings.Follows (env : Surroundings σ) (model : Surroundings τ) (related : σ → τ → Prop) :
    Prop where
  read : ∀ key s t, related s t → (∃ e, (env.read key s).1 = .error e) ∨
    (env.read key s).1 = (model.read key t).1 ∧ related (env.read key s).2 (model.read key t).2
  write : ∀ key payload s t, related s t → (∃ e, (env.write key payload s).1 = .error e) ∨
    (env.write key payload s).1 = (model.write key payload t).1 ∧
      related (env.write key payload s).2 (model.write key payload t).2
  capture : ∀ shot s t, related s t → (env.capture shot s).1 = (model.capture shot t).1 ∧
    related (env.capture shot s).2 (model.capture shot t).2

/-- Two worlds in which the same happened, and whose states are related. -/
structure World.Paired (related : σ → τ → Prop) (w : World σ) (v : World τ) : Prop where
  events : w.events = v.events
  state : related w.state v.state

namespace Surroundings

variable {related : σ → τ → Prop}

/-- **An action is refused, or is answered as it is by the surroundings that are followed.** -/
theorem Follows.perform (hf : env.Follows model related) (x : SnapshotAction) {w : World σ} {v : World τ}
    (h : World.Paired related w v) :
    (Event.of x (w.perform env x).1).isRefused = true ∨
      (w.perform env x).1 = (v.perform model x).1 ∧
        World.Paired related (w.perform env x).2 (v.perform model x).2 := by
  have hevents (ha : (w.perform env x).1 = (v.perform model x).1) :
      (w.perform env x).2.events = (v.perform model x).2.events := by
    rw [World.events_perform, World.events_perform, h.events, ha]
  cases x with
  | read key =>
    rcases hf.read key w.state v.state h.state with ⟨e, he⟩ | ⟨ha, hs⟩
    · refine .inl ?_
      show (Event.read key (env.read key w.state).1).isRefused = true
      rw [he]
      rfl
    · exact .inr ⟨ha, hevents ha, hs⟩
  | write key payload =>
    rcases hf.write key payload w.state v.state h.state with ⟨e, he⟩ | ⟨ha, hs⟩
    · refine .inl ?_
      show (Event.write key payload (env.write key payload w.state).1).isRefused = true
      rw [he]
      rfl
    · exact .inr ⟨ha, hevents ha, hs⟩
  | capture shot =>
    obtain ⟨ha, hs⟩ := hf.capture shot w.state v.state h.state
    exact .inr ⟨ha, hevents ha, hs⟩
  | note n => exact .inr ⟨rfl, hevents rfl, h.state⟩
  | count kind c => exact .inr ⟨rfl, hevents rfl, h.state⟩

/-- **A program that is refused nothing does what it does in the surroundings that are followed.** -/
theorem Follows.runIn {α : Type} (hf : env.Follows model related) :
    ∀ (p : SnapshotProgram α) {w : World σ} {v : World τ}, World.Paired related w v →
      Unrefused (p.runIn env w).2.events →
        (p.runIn env w).1 = (p.runIn model v).1 ∧
          World.Paired related (p.runIn env w).2 (p.runIn model v).2
  | .done _, _, _, h, _ => ⟨rfl, h⟩
  | .act x next, w, v, h, hu => by
    have hnext : Unrefused (w.perform env x).2.events := SnapshotProgram.unrefused_of_runIn _ hu
    rw [World.events_perform] at hnext
    have hx := hnext _ (List.mem_append_right _ List.mem_cons_self)
    rcases hf.perform x h with hrefused | ⟨ha, hp⟩
    · cases hrefused.symm.trans hx
    · have ih := hf.runIn (next (w.perform env x).1) hp hu
      simp only [SnapshotProgram.runIn, Program.run_act, ← ha]
      exact ih

/-- **Calls that are refused nothing are served as they are by the surroundings that are followed**: with
    the same replies, and with the same events, one by one. -/
theorem Follows.serve (hf : env.Follows model related) :
    ∀ (calls : List (Snapshot × Call)) {w : World σ} {v : World τ}, World.Paired related w v →
      Unrefused (serve env calls w).2.events →
        (serve env calls w).1 = (serve model calls v).1 ∧
          World.Paired related (serve env calls w).2 (serve model calls v).2
  | [], _, _, h, _ => ⟨rfl, h⟩
  | (s, c) :: calls, w, v, h, hu => by
    rw [serve_cons] at hu
    have hcall : Unrefused ((c.program s).runIn env w).2.events := by
      rw [events_serve] at hu
      exact (unrefused_append.mp hu).1
    obtain ⟨hreply, hp⟩ := hf.runIn (c.program s) h hcall
    obtain ⟨hserved, hend⟩ := hf.serve calls hp hu
    have hone : c.servedIn s env w = c.servedIn s model v := by
      simp only [Call.servedIn, hreply, hp.events, h.events]
    rw [serve_cons, serve_cons, hone, hserved]
    exact ⟨rfl, hend⟩

/-! ## 2. Surroundings that refuse nothing -/

/-- Nothing is refused in a good state, and the state stays good. -/
structure SteadyWhile (env : Surroundings σ) (good : σ → Prop) : Prop where
  read : ∀ key s, good s → (∀ e, (env.read key s).1 ≠ .error e) ∧ good (env.read key s).2
  write : ∀ key payload s, good s →
    (∀ e, (env.write key payload s).1 ≠ .error e) ∧ good (env.write key payload s).2
  capture : ∀ shot s, good s → good (env.capture shot s).2

variable {good : σ → Prop}

theorem SteadyWhile.perform (hs : env.SteadyWhile good) (x : SnapshotAction) {w : World σ}
    (h : good w.state) :
    (Event.of x (w.perform env x).1).isRefused = false ∧ good (w.perform env x).2.state := by
  cases x with
  | read key =>
    obtain ⟨hok, hgood⟩ := hs.read key w.state h
    refine ⟨?_, hgood⟩
    show (Event.read key (env.read key w.state).1).isRefused = false
    cases ha : (env.read key w.state).1 with
    | error e => exact absurd ha (hok e)
    | ok answer => rfl
  | write key payload =>
    obtain ⟨hok, hgood⟩ := hs.write key payload w.state h
    refine ⟨?_, hgood⟩
    show (Event.write key payload (env.write key payload w.state).1).isRefused = false
    cases ha : (env.write key payload w.state).1 with
    | error e => exact absurd ha (hok e)
    | ok answer => rfl
  | capture shot => exact ⟨rfl, hs.capture shot w.state h⟩
  | note n => exact ⟨rfl, h⟩
  | count kind c => exact ⟨rfl, h⟩

theorem SteadyWhile.runIn {α : Type} (hs : env.SteadyWhile good) :
    ∀ (p : SnapshotProgram α) {w : World σ}, good w.state → Unrefused w.events →
      Unrefused (p.runIn env w).2.events ∧ good (p.runIn env w).2.state
  | .done _, _, h, hu => ⟨hu, h⟩
  | .act x next, w, h, hu => by
    obtain ⟨hx, hgood⟩ := hs.perform x h
    have hnext : Unrefused (w.perform env x).2.events := by
      rw [World.events_perform]
      exact unrefused_append.mpr ⟨hu, fun e he => List.mem_singleton.mp he ▸ hx⟩
    exact hs.runIn (next (w.perform env x).1) hgood hnext

/-- **Surroundings whose state is good refuse nothing in any run of calls.** -/
theorem SteadyWhile.serve (hs : env.SteadyWhile good) (calls : List (Snapshot × Call)) {w : World σ}
    (h : good w.state) (hu : Unrefused w.events) : Unrefused (serve env calls w).2.events :=
  (serve_induction (fun w => Unrefused w.events ∧ good w.state) (fun _ => True) (fun _ _ => True)
    (fun _ _ _ _ hw => ⟨hs.runIn _ hw.2 hw.1, trivial⟩) calls w (fun _ _ => trivial) ⟨hu, h⟩).1.1

end Surroundings

end Refinement

end Vignette
