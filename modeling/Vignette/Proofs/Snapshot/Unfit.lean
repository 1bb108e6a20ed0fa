import Vignette.Proofs.Snapshot.Provenance
import Vignette.Proofs.Snapshot.Refusal
import Vignette.Proofs.Snapshot.Steadiness

/-!
# Thumbnail sizes out of limits

A thumbnail is not made at a size that has a zero or is too large (`Thumbnail.make_of_unfit`), so at
such a size nothing comes of a capture -- unless the window has the same size. Then no thumbnail is
made of the capture: it is taken as it is, and nobody looks at the size.

Main statements: **at a size out of limits, a forced computation stores nothing and answers that there is
no thumbnail, except for a capture in a window of just that size, which it stores and answers**
(`compute_unfit`); **in a run of calls too, whatever is stored at a size out of limits is such a capture**
(`written_unfit`). The exception happens (`unfit_stored`).
-/

namespace Vignette

/-! ## 1. Making no thumbnail -/

/-- What is wrong with a size out of limits. -/
def Size.fault (s : Size) : PictureFailure := if s.isDegenerate then .degenerate s else .oversized s

/-- **No thumbnail is made at a size out of limits, whatever the capture.** -/
theorem Thumbnail.make_of_unfit {window thumb : Size} (h : ¬ thumb.InLimits) (decode : Decoder)
    (capture : ByteArray) (format : Format) (crop : Bool) :
    Thumbnail.make decode capture window thumb format crop = ([], .error thumb.fault) := by
  unfold make Size.fault
  by_cases hzero : thumb.isDegenerate
  · rw [if_pos hzero, if_pos hzero]
  · have hlarge : thumb.isOversized = true := by
      by_contra hsmall
      exact h (Size.inLimits_iff.mpr ⟨by simpa using hzero, by simpa using hsmall⟩)
    rw [if_neg hzero, if_neg hzero, if_pos hlarge]

/-! ## 2. Productions -/

section Produced

variable {s : Snapshot} {identity : Identity} {key : Key} {window thumb : Size} {a : Account}
  {r : Except StoreFailure (Option ByteArray)}

/-- The one capture of a production. -/
theorem Produced.exists_capture (h : Produced s identity key window thumb a r) :
    ∃ answer, a.captures = [(s.shot identity window, answer)] := by
  cases h with
  | fruitless answer => exact ⟨answer, rfl⟩
  | written data => exact ⟨.ok data, rfl⟩

/-- At a size out of limits, in a window of another size, something comes of no capture. -/
theorem fruitless_of_unfit (hthumb : ¬ thumb.InLimits) (hne : window ≠ thumb) {data : ByteArray}
    (hdata : data.isEmpty = false) : Fruitless s window thumb (.ok data) (.transform thumb.fault) :=
  .unmade data hdata hne thumb.fault (by rw [Thumbnail.make_of_unfit hthumb])

/-- **What comes of a capture at a size out of limits**: nothing, and this is blamed on the size if the
    capture is none to blame; or the window has the same size, and it is the capture. -/
theorem Produced.of_unfit (h : Produced s identity key window thumb a r) (hthumb : ¬ thumb.InLimits)
    {answer : Except CaptureFailure ByteArray}
    (hcapture : a.captures = [(s.shot identity window, answer)]) :
    (r = .ok none ∧ a.writes = [] ∧
      ∀ data, answer = .ok data → data.isEmpty = false →
        window ≠ thumb ∧ a.warnings = [.pictureFailed key thumb.fault]) ∨
    (∃ data reply, answer = .ok data ∧ data.isEmpty = false ∧ window = thumb ∧
      a.writes = [(key, data, reply)] ∧ r = reply.map fun _ => some data) := by
  cases h with
  | fruitless given e hf =>
    cases hcapture
    refine .inl ⟨rfl, rfl, ?_⟩
    rintro data rfl hdata
    cases hf with
    | blank _ hblank => exact absurd (hdata.symm.trans hblank) Bool.false_ne_true
    | unmade _ _ hne e he =>
      rw [Thumbnail.make_of_unfit hthumb] at he
      cases he
      exact ⟨hne, rfl⟩
  | written data payload hy reply =>
    cases hcapture
    by_cases hs : window = thumb
    · obtain rfl := hy.verbatim hs
      exact .inr ⟨payload, reply, rfl, hy.captured, hs, rfl, rfl⟩
    · exact absurd (fruitless_of_unfit hthumb hs hy.captured) hy.not_fruitless

end Produced

/-! ## 3. Computing -/

section Compute

variable {σ : Type} {env : Surroundings σ}

/-- A run that writes nothing leaves the store as it was. -/
theorem Passage.keeps_of_writes_eq_nil {α : Type} {p : SnapshotProgram α} {w : World σ} {es : List Event}
    (h : Passage p env w es) (hw : (Account.of es).writes = []) {entries : σ → Entries}
    (hk : env.Keeps entries) : entries (p.runIn env w).2.state = entries w.state := by
  rw [(h.leads entries hk).eq_written, hw]
  rfl

/-- **At a size out of limits a forced computation stores nothing, unless the page is captured in a window
    of just that size.** It answers that there is no thumbnail, the store is as before, and if there is a
    capture, then the size is blamed. A capture in a window of just that size is stored and answered as
    it is, if the store takes it. -/
theorem compute_unfit (env : Surroundings σ) (state : σ) (s : Snapshot) (identity : Identity)
    (window thumb : Option Size) (hthumb : ¬ (s.thumbOf thumb).InLimits) :
    let run := (s.compute identity window thumb true).runIn env (.start state)
    let a := Account.of run.2.events
    ∃ answer, a.captures = [(s.shot identity (s.windowOf window), answer)] ∧
      ((s.windowOf window ≠ s.thumbOf thumb ∨ ∀ data, answer = .ok data → data.isEmpty = true) →
        run.1 = .ok none ∧ a.writes = [] ∧
          (∀ entries, env.Keeps entries → entries run.2.state = entries state) ∧
          ∀ data, answer = .ok data → data.isEmpty = false →
            a.warnings = [.pictureFailed (s.key window thumb) (s.thumbOf thumb).fault]) ∧
      ∀ data, answer = .ok data → data.isEmpty = false → s.windowOf window = s.thumbOf thumb →
        env.Steady → run.1 = .ok (some data) ∧ ∀ entries, env.Keeps entries →
          entries run.2.state = Function.update (entries state) (s.key window thumb) (some data) := by
  intro run a
  have hp : Passage (s.compute identity window thumb true) env (.start state) run.2.events :=
    SnapshotProgram.passage_start _ state
  have hproduced : Produced s identity (s.key window thumb) (s.windowOf window) (s.thumbOf thumb) a run.1 := by
    cases hp.course.compute with
    | forced _ _ h => exact h.account
  obtain ⟨answer, hcapture⟩ := hproduced.exists_capture
  refine ⟨answer, hcapture, fun hother => ?_, fun data hdata hne hsame hsteady => ?_⟩
  · obtain ⟨hr, hw, hblame⟩ | ⟨data, _, hdata, hne, hsame, -⟩ := hproduced.of_unfit hthumb hcapture
    · exact ⟨hr, hw, fun entries hk => hp.keeps_of_writes_eq_nil hw hk,
        fun data hdata hne => (hblame data hdata hne).2⟩
    · rcases hother with hother | hblank
      · exact absurd hsame hother
      · exact absurd (hne.symm.trans (hblank data hdata)) Bool.false_ne_true
  · obtain ⟨-, -, hblame⟩ | ⟨_, reply, rfl, -, -, hw, hr⟩ := hproduced.of_unfit hthumb hcapture
    · exact absurd hsame (hblame data hdata hne).1
    · cases hdata
      cases reply with
      | error e =>
        have hmem : (s.key window thumb, data, .error e) ∈ a.writes := by
          rw [hw]
          exact List.mem_cons_self
        exact absurd hmem ((hp.unrefused hsteady).writes _ data e)
      | ok _ =>
        refine ⟨hr, fun entries hk => ?_⟩
        rw [(hp.leads entries hk).eq_written, hw]
        rfl

/-- With a thumbnail size of 0 by 300, in a window of 800 by 600, a capture is given up. -/
theorem compute_unfit_usual :
    let s : Snapshot :=
      ⟨⟨.chart, "http://localhost/chart/1", "c0ffee", ⟨800, 600⟩, ⟨800, 600⟩⟩, Decoder.builtIn, .png, true⟩
    let env := (Fates.steady fun (_ : Shot) (u : Unit) => (.ok ⟨#[0x89]⟩, u)).surroundings
    let run := (s.compute .anonymous none (some ⟨0, 300⟩) true).runIn env (.start ⟨Store.empty, ()⟩)
    ¬ (⟨0, 300⟩ : Size).InLimits ∧ run.1 = .ok none ∧ run.2.state.store.get? = Store.empty.get? := by
  intro s env run
  have hthumb : ¬ (⟨0, 300⟩ : Size).InLimits := fun h => absurd h.width_pos (by decide)
  have hwindow : s.windowOf none ≠ s.thumbOf (some ⟨0, 300⟩) := by decide
  obtain ⟨answer, -, habsorbed, -⟩ :=
    compute_unfit env ⟨Store.empty, ()⟩ s .anonymous none (some ⟨0, 300⟩) hthumb
  obtain ⟨hr, -, hkept, -⟩ := habsorbed (.inl hwindow)
  exact ⟨hthumb, hr, hkept _ (Fates.keeps _)⟩

/-- A window and a thumbnail of 9000 by 9000: what the browser captures is stored and answered, whatever
    it is. -/
theorem unfit_stored :
    let s : Snapshot :=
      ⟨⟨.chart, "http://localhost/chart/1", "c0ffee", ⟨800, 600⟩, ⟨800, 600⟩⟩, Decoder.builtIn, .png, true⟩
    let env := (Fates.steady fun (_ : Shot) (u : Unit) => (.ok ⟨#[0x89]⟩, u)).surroundings
    let size : Size := ⟨9000, 9000⟩
    let run := (s.compute .anonymous (some size) (some size) true).runIn env (.start ⟨Store.empty, ()⟩)
    size.isOversized = true ∧ env.Steady ∧ run.1 = .ok (some ⟨#[0x89]⟩) ∧
      run.2.state.store.get? (s.key (some size) (some size)) = some ⟨#[0x89]⟩ ∧
      Store.empty.get? (s.key (some size) (some size)) = none := by
  intro s env size run
  have hstore : run.2.state.store = Store.empty.put (s.key (some size) (some size)) ⟨#[0x89]⟩ := rfl
  refine ⟨rfl, Fates.steady_surroundings _, rfl, ?_, rfl⟩
  rw [hstore, Store.get?_put_self]

end Compute

/-! ## 4. Runs of calls -/

/-- **Whatever is stored at a size out of limits in a run of calls is the capture itself, in a window of
    just that size.** -/
theorem written_unfit {σ : Type} (env : Surroundings σ) (calls : List (Snapshot × Call)) (w : World σ) :
    ∀ v ∈ (serve env calls w).1, ∀ key payload reply, (key, payload, reply) ∈ v.account.writes →
      ∃ o, v.call.order? = some o ∧ (¬ (o.thumbFor v.snapshot.request).InLimits →
        o.windowFor v.snapshot.request = o.thumbFor v.snapshot.request ∧
        ∃ shot, v.account.captures = [(shot, .ok payload)]) := by
  intro v hv key payload reply hw
  obtain ⟨o, ho⟩ := (called_of_mem_serve hv).provenance hw
  refine ⟨o, ho.ordered, fun hthumb => ?_⟩
  obtain ⟨data, hcapture, hsame, hother⟩ := ho.rendered
  by_cases hs : o.windowFor v.snapshot.request = o.thumbFor v.snapshot.request
  · exact ⟨hs, _, hsame hs ▸ hcapture⟩
  · have hmade := (hother hs).1
    rw [Thumbnail.make_of_unfit hthumb] at hmade
    cases hmade

end Vignette
