import Vignette.Proofs.Snapshot.Call
import Vignette.Proofs.Snapshot.Entries

/-!
# Calls, one after the other

Several snapshots are asked for thumbnails in turn, and all of them use one store and one browser.
`serve` has calls served one after the other. What becomes of each is kept as a `Served` call, with
the answer and with the events between its start and its end.

Main statements: **every call in a run comes to what it comes to by itself, whatever came before it**
(`called_of_mem_serve`), **a run of calls leaves the events of its calls, in their order**
(`events_serve`), and **what one call keeps, a run of calls keeps** (`serve_induction`).
-/

namespace Vignette

/-! ## 1. Served calls -/

/-- A call that was served: by which snapshot, what it answered, and what happened meanwhile. -/
structure Served where
  snapshot : Snapshot
  call : Call
  reply : Reply
  events : List Event

/-- What a served call comes to. -/
def Served.account (v : Served) : Account := .of v.events

section Serve

variable {σ : Type} {env : Surroundings σ}

/-- A call served in a world, by itself. -/
def Call.servedIn (c : Call) (s : Snapshot) (env : Surroundings σ) (w : World σ) : Served where
  snapshot := s
  call := c
  reply := ((c.program s).runIn env w).1
  events := ((c.program s).runIn env w).2.events.drop w.events.length

/-- Calls served one after the other, and the world at the end. -/
def serve (env : Surroundings σ) : List (Snapshot × Call) → World σ → List Served × World σ
  | [], w => ([], w)
  | (s, c) :: calls, w =>
    let (served, last) := serve env calls ((c.program s).runIn env w).2
    (c.servedIn s env w :: served, last)

/-! ## 2. Runs of calls -/

@[simp] theorem serve_nil (w : World σ) : serve env [] w = ([], w) := rfl

theorem serve_cons (s : Snapshot) (c : Call) (calls : List (Snapshot × Call)) (w : World σ) :
    serve env ((s, c) :: calls) w =
      (c.servedIn s env w :: (serve env calls ((c.program s).runIn env w).2).1,
        (serve env calls ((c.program s).runIn env w).2).2) := rfl

/-- The events of a served call are those of its run. -/
theorem Call.passage_servedIn (c : Call) (s : Snapshot) (w : World σ) :
    Passage (c.program s) env w (c.servedIn s env w).events := by
  obtain ⟨es, h⟩ : ∃ es, Passage (c.program s) env w es := (c.program s).exists_passage w
  have he : (c.servedIn s env w).events = es := by
    show ((c.program s).runIn env w).2.events.drop w.events.length = es
    rw [h.events, List.drop_left]
  rw [he]
  exact h

/-- What a served call comes to. -/
theorem Call.called_servedIn (c : Call) (s : Snapshot) (w : World σ) :
    Called s c (c.servedIn s env w).account (c.servedIn s env w).reply :=
  (c.passage_servedIn s w).course.call.called

/-- **What one call keeps, a run of calls keeps; and what it gives, each call of the run gives.** -/
theorem serve_induction (keep : World σ → Prop) (give : Served → Prop)
    (allowed : Snapshot → Call → Prop)
    (step : ∀ s c w, allowed s c → keep w →
      keep ((c.program s).runIn env w).2 ∧ give (c.servedIn s env w)) :
    ∀ (calls : List (Snapshot × Call)) (w : World σ), (∀ x ∈ calls, allowed x.1 x.2) → keep w →
      keep (serve env calls w).2 ∧ ∀ v ∈ (serve env calls w).1, give v
  | [], _, _, hw => ⟨hw, fun _ hv => by cases hv⟩
  | (s, c) :: calls, w, hall, hw => by
    obtain ⟨hnext, hgive⟩ := step s c w (hall (s, c) List.mem_cons_self) hw
    obtain ⟨hlast, hrest⟩ := serve_induction keep give allowed step calls _
      (fun x hx => hall x (List.mem_cons_of_mem _ hx)) hnext
    rw [serve_cons]
    refine ⟨hlast, fun v hv => ?_⟩
    rcases List.mem_cons.mp hv with rfl | hv
    · exact hgive
    · exact hrest v hv

/-- **What a call in a run comes to, whatever came before it.** -/
theorem called_of_mem_serve {calls : List (Snapshot × Call)} {w : World σ} {v : Served}
    (hv : v ∈ (serve env calls w).1) : Called v.snapshot v.call v.account v.reply := by
  have h : True ∧ ∀ v ∈ (serve env calls w).1, Called v.snapshot v.call v.account v.reply :=
    serve_induction (fun _ => True) _ (fun _ _ => True)
      (fun s c w _ _ => ⟨trivial, c.called_servedIn s w⟩) calls w (fun _ _ => trivial) trivial
  exact h.2 v hv

/-- **A run of calls leaves the events of its calls, in their order.** -/
theorem events_serve : ∀ (calls : List (Snapshot × Call)) (w : World σ),
    (serve env calls w).2.events = w.events ++ (serve env calls w).1.flatMap Served.events
  | [], w => (List.append_nil _).symm
  | (s, c) :: calls, w => by
    rw [serve_cons, List.flatMap_cons, ← List.append_assoc, ← (c.passage_servedIn s w).events]
    exact events_serve calls _

/-- **The events of a run of calls lead from the entries before it to those after it.** -/
theorem leads_serve {entries : σ → Entries} (hk : env.Keeps entries) :
    ∀ (calls : List (Snapshot × Call)) (w : World σ),
      Leads (entries w.state) ((serve env calls w).1.flatMap Served.events)
        (entries (serve env calls w).2.state)
  | [], _ => rfl
  | (s, c) :: calls, w => by
    rw [serve_cons, List.flatMap_cons]
    exact leads_append.mpr ⟨_, (c.passage_servedIn s w).leads entries hk, leads_serve hk calls _⟩

end Serve

end Vignette
