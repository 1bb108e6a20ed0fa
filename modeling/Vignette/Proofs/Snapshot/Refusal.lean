import Vignette.Proofs.Snapshot.Service

/-!
# What fails, and what is left of it

Getting and computing a thumbnail meet two families of failures. What the store refuses is answered as
a failure, and nothing else is: a page that is not captured, a blank, and a capture that cannot be made
a thumbnail are absorbed, and the answer is that there is no thumbnail (`Disciplined`). Whatever fails,
the store is left as it was (`Atomic`).

Main statement: **getting and computing are disciplined and atomic, whatever the store refuses and
whatever the browser answers** (`get_compute_disciplined`).
-/

namespace Vignette

/-! ## 1. Discipline -/

/-- A failure is answered just if the store refused with it; what comes of nothing is absorbed before
    anything is written; after a read that is refused nothing is captured; and there is one write that
    succeeds at most, under the call's own key. -/
structure Disciplined (s : Snapshot) (key : Key) (window thumb : Size) (a : Account)
    (r : Except StoreFailure (Option ByteArray)) : Prop where
  error_iff : ∀ e, r = .error e ↔
    (∃ k, (k, .error e) ∈ a.reads) ∨ ∃ k payload, (k, payload, .error e) ∈ a.writes
  absorbed : ∀ shot answer e, (shot, answer) ∈ a.captures → Fruitless s window thumb answer e →
    r = .ok none ∧ a.writes = []
  not_captured : ∀ k e, (k, .error e) ∈ a.reads → a.captures = []
  stored : ∀ k payload, (k, payload, .ok ()) ∈ a.writes →
    a.writes = [(key, payload, .ok ())] ∧ r = .ok (some payload)

section Discipline

variable {s : Snapshot} {a : Account} {r : Except StoreFailure (Option ByteArray)}

section Production

variable {identity : Identity} {key : Key} {window thumb : Size}

/-- A production fails just if its write does. -/
theorem Produced.error_iff (h : Produced s identity key window thumb a r) (e : StoreFailure) :
    r = .error e ↔ ∃ k payload, (k, payload, .error e) ∈ a.writes := by
  cases h with
  | fruitless => simp
  | written data payload hy reply =>
    cases reply with
    | error e' =>
      constructor
      · intro h
        cases h
        exact ⟨key, payload, List.mem_cons_self⟩
      · rintro ⟨k, made, hm⟩
        cases List.mem_singleton.mp hm
        rfl
    | ok _ =>
      constructor
      · intro h
        cases h
      · rintro ⟨k, made, hm⟩
        cases List.mem_singleton.mp hm

/-- **Where nothing comes of the capture, nothing is written, and there is no thumbnail.** -/
theorem Produced.absorbed (h : Produced s identity key window thumb a r) {shot : Shot}
    {answer : Except CaptureFailure ByteArray} {e : RenderFailure} (hm : (shot, answer) ∈ a.captures)
    (hf : Fruitless s window thumb answer e) : r = .ok none ∧ a.writes = [] := by
  cases h with
  | fruitless => exact ⟨rfl, rfl⟩
  | written data payload hy reply =>
    cases List.mem_singleton.mp hm
    exact absurd hf hy.not_fruitless

theorem Produced.stored (h : Produced s identity key window thumb a r) {k : Key} {payload : ByteArray}
    (hm : (k, payload, .ok ()) ∈ a.writes) :
    a.writes = [(key, payload, .ok ())] ∧ r = .ok (some payload) := by
  cases h with
  | fruitless => cases hm
  | written data made hy reply =>
    cases List.mem_singleton.mp hm
    exact ⟨rfl, rfl⟩

/-- A production is disciplined, also after a read that was answered. -/
theorem Produced.disciplined (pre : Account) (h : Produced s identity key window thumb a r)
    (hreads : ∀ k e, (k, .error e) ∉ pre.reads) (hcaptures : pre.captures = [])
    (hwrites : pre.writes = []) : Disciplined s key window thumb (pre ++ a) r where
  error_iff e := by
    rw [h.error_iff e, Account.reads_append, h.reads, Account.writes_append, hwrites, List.append_nil,
      List.nil_append]
    exact (or_iff_right fun ⟨k, hk⟩ => hreads k e hk).symm
  absorbed shot answer e hm hf := by
    rw [Account.captures_append, hcaptures, List.nil_append] at hm
    rw [Account.writes_append, hwrites, List.nil_append]
    exact h.absorbed hm hf
  not_captured k e hm := by
    rw [Account.reads_append, h.reads, List.append_nil] at hm
    exact absurd hm (hreads k e)
  stored k payload hm := by
    rw [Account.writes_append, hwrites, List.nil_append] at hm ⊢
    exact h.stored hm

end Production

/-- What captures and writes nothing is disciplined if it fails just as its reads do. -/
theorem Disciplined.of_reads {key : Key} {window thumb : Size} (hcaptures : a.captures = [])
    (hwrites : a.writes = []) (hr : ∀ e, r = .error e ↔ ∃ k, (k, .error e) ∈ a.reads) :
    Disciplined s key window thumb a r where
  error_iff e := by
    rw [hr e, hwrites]
    exact (or_iff_left fun ⟨_, _, hm⟩ => absurd hm List.not_mem_nil).symm
  absorbed _ _ _ hm := by
    rw [hcaptures] at hm
    exact absurd hm List.not_mem_nil
  not_captured _ _ _ := hcaptures
  stored _ _ hm := by
    rw [hwrites] at hm
    exact absurd hm List.not_mem_nil

/-- **A call with an order is disciplined.** -/
theorem Filled.disciplined {c : Call} {o : Order} (h : Filled s c o a r) :
    Disciplined s (s.key o.window o.thumb) (o.windowFor s.request) (o.thumbFor s.request) a r := by
  cases h with
  | refused _ e =>
    refine .of_reads rfl rfl fun e' => ⟨fun h => ?_, fun ⟨k, hk⟩ => ?_⟩
    · cases h
      exact ⟨s.key o.window o.thumb, List.mem_cons_self⟩
    · cases List.mem_singleton.mp hk
      rfl
  | present _ t ht =>
    refine .of_reads rfl rfl fun e => ⟨fun h => ?_, fun ⟨k, hk⟩ => ?_⟩
    · cases h
    · cases List.mem_singleton.mp hk
  | missed _ answer ha b r hp =>
    refine hp.disciplined _ (fun k e hk => ?_) rfl rfl
    cases List.mem_singleton.mp hk
  | forced _ b r hp => exact hp.disciplined {} (fun _ _ hk => absurd hk List.not_mem_nil) rfl rfl

end Discipline

/-! ## 2. Atomicity -/

/-- Nothing stands elsewhere or otherwise than before, unless there was one write that succeeded: and
    that has changed what stands under its own key, and nothing else. -/
def Atomic (key : Key) (a : Account) (before after : Entries) : Prop :=
  ((∀ k payload, (k, payload, .ok ()) ∉ a.writes) ∧ after = before) ∨
    ∃ payload, a.writes = [(key, payload, .ok ())] ∧
      after = Function.update before key (some payload)

/-- **What is disciplined is atomic.** -/
theorem Disciplined.atomic {s : Snapshot} {key : Key} {window thumb : Size} {es : List Event}
    {r : Except StoreFailure (Option ByteArray)} {before after : Entries}
    (h : Disciplined s key window thumb (Account.of es) r) (hl : Leads before es after) :
    Atomic key (Account.of es) before after := by
  by_cases hw : ∃ k payload, (k, payload, .ok ()) ∈ (Account.of es).writes
  · obtain ⟨k, payload, hm⟩ := hw
    obtain ⟨hone, -⟩ := h.stored k payload hm
    refine .inr ⟨payload, hone, ?_⟩
    rw [hl.eq_written, hone]
    rfl
  · have hnone : ∀ k payload, (k, payload, .ok ()) ∉ (Account.of es).writes :=
      fun k payload hm => hw ⟨k, payload, hm⟩
    refine .inl ⟨hnone, funext fun k => ?_⟩
    rcases hl.eq_or_written k with hk | ⟨payload, -, hm⟩
    · exact hk
    · exact absurd hm (hnone k payload)

/-! ## 3. Getting and computing -/

section Programs

variable {σ : Type} {env : Surroundings σ}

/-- From a world in which nothing happened yet, the events at the end are those of the run. -/
theorem SnapshotProgram.passage_start {α : Type} (p : SnapshotProgram α) (state : σ) :
    Passage p env (.start state) (p.runIn env (.start state)).2.events := by
  obtain ⟨es, h⟩ : ∃ es, Passage p env (.start state) es := p.exists_passage _
  rw [show (p.runIn env (.start state)).2.events = es from h.events]
  exact h

/-- A program that is disciplined whatever becomes of it is so in its runs, and atomic. -/
theorem SnapshotProgram.disciplined_start {p : SnapshotProgram (Except StoreFailure (Option ByteArray))}
    {s : Snapshot} {key : Key} {window thumb : Size}
    (h : ∀ es r, Course p es r → Disciplined s key window thumb (Account.of es) r) (state : σ) :
    let run := p.runIn env (.start state)
    Disciplined s key window thumb (Account.of run.2.events) run.1 ∧
      ∀ entries, env.Keeps entries →
        Atomic key (Account.of run.2.events) (entries state) (entries run.2.state) := by
  have hp : Passage p env (.start state) _ := p.passage_start state
  exact ⟨h _ _ hp.course, fun entries hk => (h _ _ hp.course).atomic (hp.leads entries hk)⟩

/-- **Getting and computing a thumbnail are disciplined and atomic**, for every request and at all
    sizes, forced or not, whatever stands in the store, whatever of it is refused, and whatever the
    browser answers. -/
theorem get_compute_disciplined (env : Surroundings σ) (state : σ) (s : Snapshot)
    (identity : Identity) :
    (∀ thumb : Option Size,
      let run := (s.get identity thumb).runIn env (.start state)
      Disciplined s (s.key none thumb) s.request.window (s.thumbOf thumb) (Account.of run.2.events)
          run.1 ∧
        ∀ entries, env.Keeps entries → Atomic (s.key none thumb) (Account.of run.2.events)
          (entries state) (entries run.2.state)) ∧
    ∀ (window thumb : Option Size) (force : Bool),
      let run := (s.compute identity window thumb force).runIn env (.start state)
      Disciplined s (s.key window thumb) (s.windowOf window) (s.thumbOf thumb)
          (Account.of run.2.events) run.1 ∧
        ∀ entries, env.Keeps entries → Atomic (s.key window thumb) (Account.of run.2.events)
          (entries state) (entries run.2.state) := by
  refine ⟨fun thumb => ?_, fun window thumb force => ?_⟩
  · exact SnapshotProgram.disciplined_start (fun es r h => h.get.filled.disciplined) state
  · exact SnapshotProgram.disciplined_start (fun es r h => h.compute.filled.disciplined) state

end Programs

end Vignette
