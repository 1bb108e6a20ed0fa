import Vignette.Proofs.Snapshot.Service

/-!
# A store that never refuses

Where the store refuses nothing, a thumbnail that is in it stays there until it is forced to be made
anew, and everybody who asks for it is answered it; the page is not captured again. What getting a
thumbnail answers is what stands in the store afterwards.

Main statement: **what getting answers stands in the store, and what stands in the store is answered
from then on** (`get_answers_entry`).
-/

namespace Vignette

/-! ## 1. Nothing is refused -/

/-- No read and no write was refused. -/
structure Account.Unrefused (a : Account) : Prop where
  reads : ∀ key e, (key, .error e) ∉ a.reads
  writes : ∀ key payload e, (key, payload, .error e) ∉ a.writes

/-- What steady surroundings answer is no refusal. -/
theorem Surroundings.Steady.not_isRefused {σ : Type} {env : Surroundings σ} (hs : env.Steady)
    (x : SnapshotAction) (w : World σ) : (Event.of x (w.perform env x).1).isRefused = false := by
  cases x with
  | read key =>
    show (Event.read key (env.read key w.state).1).isRefused = false
    cases h : (env.read key w.state).1 with
    | error e => exact absurd h (hs.read_ok key w.state e)
    | ok _ => rfl
  | write key payload =>
    show (Event.write key payload (env.write key payload w.state).1).isRefused = false
    cases h : (env.write key payload w.state).1 with
    | error e => exact absurd h (hs.write_ok key payload w.state e)
    | ok _ => rfl
  | _ => rfl

/-- **In steady surroundings nothing that a run does is refused.** -/
theorem Passage.unrefused {σ α : Type} {env : Surroundings σ} {p : SnapshotProgram α} {w : World σ}
    {es : List Event} (h : Passage p env w es) (hs : env.Steady) : (Account.of es).Unrefused := by
  have hall : ∀ e ∈ es, e.isRefused = false := h.answered _ hs.not_isRefused
  constructor
  · intro key e hm
    obtain ⟨x, hx, hread⟩ := List.mem_filterMap.mp hm
    have hr := hall x hx
    cases x <;> cases hread
    cases hr
  · intro key payload e hm
    obtain ⟨x, hx, hwrite⟩ := List.mem_filterMap.mp hm
    have hr := hall x hx
    cases x <;> cases hwrite
    cases hr

/-! ## 2. One call -/

section Call

variable {s : Snapshot} {c : Call} {es : List Event} {before after : Entries}

section Filled

variable {o : Order} {r : Except StoreFailure (Option ByteArray)}

/-- A call with an order changes nothing but what stands under its own key. -/
theorem Filled.keeps_other (h : Filled s c o (Account.of es) r) (hl : Leads before es after) {key : Key}
    (hne : s.key o.window o.thumb ≠ key) : after key = before key := by
  rcases hl.eq_or_written key with hk | ⟨payload, -, hw⟩
  · exact hk
  · exact absurd (h.of_write hw).1.symm hne

/-- **Unless it is forced, a call with an order that finds a thumbnail leaves it, and captures
    nothing.** -/
theorem Filled.finds (h : Filled s c o (Account.of es) r) (hl : Leads before es after)
    (hu : (Account.of es).Unrefused) (hf : c.isForced = false) {t : ByteArray}
    (ht : before (s.key o.window o.thumb) = some t) (hne : t.isEmpty = false) :
    after (s.key o.window o.thumb) = some t ∧ r = .ok (c.answerFound t) ∧
      (Account.of es).captures = [] := by
  -- whatever was read, it was not nothing
  have hread {answer : Option ByteArray}
      (hm : (s.key o.window o.thumb, .ok answer) ∈ (Account.of es).reads) :
      thumbnail? answer ≠ none := by
    rcases hl.read_or_written hm with rfl | ⟨payload, rfl, hw⟩
    · rw [ht, thumbnail?_of_not_isEmpty hne]
      exact Option.some_ne_none t
    · obtain ⟨-, data, -, hy⟩ := h.of_write hw
      rw [thumbnail?_of_not_isEmpty hy.not_empty]
      exact Option.some_ne_none payload
  generalize ha : Account.of es = a at h hu hread
  cases h with
  | refused _ e => exact absurd List.mem_cons_self (hu.reads _ e)
  | present _ found _ =>
    have hafter : after = before := by
      rw [hl.eq_written, ha]
      rfl
    have hm : (s.key o.window o.thumb, .ok (some found)) ∈ (Account.of es).reads := by
      rw [ha]
      exact List.mem_cons_self
    rcases hl.read_or_written hm with hb | ⟨payload, -, hw⟩
    · rw [ht] at hb
      cases hb
      exact ⟨by rw [hafter, ht], rfl, rfl⟩
    · rw [ha] at hw
      cases hw
  | missed _ answer hnone => exact absurd hnone (hread List.mem_cons_self)
  | forced hforced =>
    rw [hf] at hforced
    cases hforced

end Filled

/-- **What getting a thumbnail answers is the thumbnail that stands in the store afterwards.** -/
theorem GetCourse.answers {identity : Identity} {thumb : Option Size}
    {r : Except StoreFailure (Option ByteArray)} (h : GetCourse s identity thumb es r)
    (hl : Leads before es after) (hu : (Account.of es).Unrefused) :
    r = .ok (thumbnail? (after (s.key none thumb))) := by
  have hfilled := h.filled
  by_cases hb : ∃ t, thumbnail? (before (s.key none thumb)) = some t
  · obtain ⟨t, hb⟩ := hb
    obtain ⟨hbefore, hne⟩ := thumbnail?_eq_some.mp hb
    obtain ⟨hafter, hr, -⟩ := hfilled.finds hl hu rfl hbefore hne
    rw [hr, hafter, thumbnail?_of_not_isEmpty hne]
    rfl
  · have hafter := hl.eq_written
    have hread := @Leads.read_or_written es before after hl (s.key none thumb)
    generalize Account.of es = a at hfilled hu hafter hread
    cases hfilled with
    | refused _ e => exact absurd List.mem_cons_self (hu.reads _ e)
    | present _ t ht =>
      rcases hread List.mem_cons_self with hbefore | ⟨payload, -, hw⟩
      · exact absurd ⟨t, by rw [← hbefore, thumbnail?_of_not_isEmpty ht]⟩ hb
      · cases hw
    | missed _ answer hnone b r hp =>
      cases hp with
      | fruitless =>
        have hbefore : thumbnail? (before (s.key none thumb)) = none := by
          rw [← Option.not_isSome_iff_eq_none, Option.isSome_iff_exists]
          exact hb
        rw [show after = before from hafter, hbefore]
      | written data payload hy reply =>
        cases reply with
        | error e => exact absurd List.mem_cons_self (hu.writes _ payload e)
        | ok _ =>
          rw [show after = Function.update before (s.key none thumb) (some payload) from hafter,
            Function.update_self, thumbnail?_of_not_isEmpty hy.not_empty]
          rfl
    | forced hforced => cases hforced

/-- **A call leaves a thumbnail where it stands, unless it is forced to make it anew; and if it is about
    its key, then the thumbnail is what it found, and it captured nothing.** -/
theorem Called.finds {r : Reply} (h : Called s c (Account.of es) r) (hl : Leads before es after)
    (hu : (Account.of es).Unrefused) {key : Key} (hc : c.isForced = true → c.key? s ≠ some key)
    {t : ByteArray} (ht : before key = some t) (hne : t.isEmpty = false) :
    after key = some t ∧ (c.key? s = some key →
      r = .thumbnail (.ok (c.answerFound t)) ∧ (Account.of es).captures = []) := by
  have hafter := hl.eq_written
  have hread := @Leads.read_or_written es before after hl key
  generalize ha : Account.of es = a at h hu hafter hread
  cases h with
  | @filled _ o _ r ho h =>
    rw [Call.key?_of_order ho] at hc ⊢
    subst ha
    by_cases hkey : s.key o.window o.thumb = key
    · subst hkey
      have hf : c.isForced = false := Bool.eq_false_iff.mpr fun hf => hc hf rfl
      obtain ⟨hkept, rfl, hnone⟩ := h.finds hl hu hf ht hne
      exact ⟨hkept, fun _ => ⟨rfl, hnone⟩⟩
    · refine ⟨(h.keeps_other hl hkey).trans ht, fun he => ?_⟩
      cases he
      exact absurd rfl hkey
  | @looked _ own ho hk answer =>
    refine ⟨by rw [show after = before from hafter, ht], fun he => ?_⟩
    rw [hk] at he
    cases he
    cases answer with
    | error e => exact absurd List.mem_cons_self (hu.reads _ e)
    | ok answer =>
      rcases hread List.mem_cons_self with rfl | ⟨payload, -, hw⟩
      · rw [Call.answerFound_of_no_order t ho, ht]
        exact ⟨congrArg (fun x => Reply.thumbnail (.ok x)) (thumbnail?_of_not_isEmpty hne), rfl⟩
      · cases hw
  | rendered h =>
    refine ⟨?_, nofun⟩
    cases h <;> exact (congrFun hafter key).trans ht

end Call

/-! ## 3. Runs of calls -/

/-- **Where the store refuses nothing, what getting answers stands in the store, and what stands in the
    store is answered from then on.** A get answers a thumbnail just if it stands under its key
    afterwards, and none just if there is none or empty bytes. A thumbnail that stands in the store
    outlasts every run of calls in which it is not forced to be made anew: it is what is answered to
    whoever asks for it, and for its key nothing is captured any more. -/
theorem get_answers_entry {σ : Type} {env : Surroundings σ} {entries : σ → Entries}
    (hk : env.Keeps entries) (hs : env.Steady) (w : World σ) :
    (∀ (s : Snapshot) (identity : Identity) (thumb : Option Size),
      let run := (s.get identity thumb).runIn env w
      (∀ t, run.1 = .ok (some t) ↔
        entries run.2.state (s.key none thumb) = some t ∧ t.isEmpty = false) ∧
      (run.1 = .ok none ↔ entries run.2.state (s.key none thumb) = none ∨
        ∃ t, entries run.2.state (s.key none thumb) = some t ∧ t.isEmpty = true)) ∧
    ∀ (key : Key) (t : ByteArray), entries w.state key = some t → t.isEmpty = false →
      ∀ calls : List (Snapshot × Call),
        (∀ x ∈ calls, x.2.isForced = true → x.2.key? x.1 ≠ some key) →
        entries (serve env calls w).2.state key = some t ∧
        ∀ v ∈ (serve env calls w).1, v.call.key? v.snapshot = some key →
          v.reply = .thumbnail (.ok (v.call.answerFound t)) ∧ v.account.captures = [] := by
  constructor
  · intro s identity thumb run
    obtain ⟨es, h⟩ : ∃ es, Passage (s.get identity thumb) env w es :=
      (s.get identity thumb).exists_passage w
    have hr : run.1 = .ok (thumbnail? (entries run.2.state (s.key none thumb))) :=
      h.course.get.answers (h.leads entries hk) (h.unrefused hs)
    refine ⟨fun t => ?_, ?_⟩
    · rw [hr, ← thumbnail?_eq_some, Except.ok.injEq]
    · rw [hr, ← thumbnail?_eq_none, Except.ok.injEq]
  · intro key t ht hne calls hcalls
    refine serve_induction (fun w => entries w.state key = some t) _
      (fun s c => c.isForced = true → c.key? s ≠ some key) (fun s c w hc hw => ?_) calls w hcalls ht
    have hp : Passage (c.program s) env w (c.servedIn s env w).events := c.passage_servedIn s w
    exact (c.called_servedIn s w).finds (hp.leads entries hk) (hp.unrefused hs) hc hw hne

/-- A store in memory, with a browser that only fails: what stands in the store outlasts a get and a
    computation, and is what the get answers. -/
theorem memory_answers_entry :
    let s : Snapshot :=
      ⟨⟨.chart, "http://localhost/chart/1", "c0ffee", ⟨800, 600⟩, ⟨400, 300⟩⟩, Decoder.builtIn, .png, false⟩
    let env := (Fates.steady fun (_ : Shot) (u : Unit) => (.error .empty, u)).surroundings
    let w : World (Shelf Unit) := .start ⟨Store.empty.put (s.key none none) ⟨#[7]⟩, ()⟩
    let run := serve env [(s, .get .anonymous none), (s, .compute .anonymous none none false)] w
    run.2.state.store.get? (s.key none none) = some ⟨#[7]⟩ ∧
      run.1.map Served.reply = [.thumbnail (.ok (some ⟨#[7]⟩)), .thumbnail (.ok none)] := by
  intro s env
  have hkeeps : env.Keeps fun shelf => shelf.store.get? := Fates.keeps _
  have hsteady : env.Steady := Fates.steady_surroundings _
  -- the key stays a name, so that nothing is hashed here
  generalize hkey : s.key none none = key
  intro w run
  have hforced : ∀ x ∈ [(s, Call.get .anonymous none), (s, .compute .anonymous none none false)],
      x.2.isForced = true → x.2.key? x.1 ≠ some key := by
    simp [Call.isForced]
  clear_value env
  obtain ⟨hkept, hgiven⟩ := (get_answers_entry hkeeps hsteady w).2 key ⟨#[7]⟩
    (Store.get?_put_self Store.empty key ⟨#[7]⟩) rfl _ hforced
  refine ⟨hkept, ?_⟩
  rw [serve_cons, serve_cons, serve_nil] at hgiven
  have hget := hgiven _ List.mem_cons_self (congrArg some hkey)
  have hcompute := hgiven _ (List.mem_cons_of_mem _ List.mem_cons_self) (congrArg some hkey)
  show (serve env _ w).1.map Served.reply = _
  rw [serve_cons, serve_cons, serve_nil, List.map_cons, List.map_cons, List.map_nil, hget.1, hcompute.1]
  rfl

end Vignette
