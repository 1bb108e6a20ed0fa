import Vignette.Proofs.Snapshot.Bound
import Vignette.Proofs.Snapshot.Entries

/-!
# The check of settings

Settings that pass the check can work in every respect that it looks at (`Settings.Works`), and settings
that can work pass it. Settings that do not pass are told a flaw that they have (`Settings.Has`).

The check pays off later. A rendering finds fault with a size in two places only: the window, when a
capture is cropped, and the thumbnail size, before it is made. At the sizes that are set for a kind,
settings that pass the check give it no cause to.

Main statement: **the check passes just the settings that can work, and then no rendering at the sizes of
a request fails because of a size** (`check_rules_out_sizes`).
-/

namespace Vignette

/-! ## 1. What is checked -/

namespace Settings

/-- What there is to a flaw. -/
def Has (c : Settings) : Flaw → Prop
  | .noTime => c.browser.timeout.nanoseconds = 0
  | .degenerate kind => ∃ s, (s = (c.sizes kind).window ∨ s = (c.sizes kind).thumb) ∧
      (s.width.toNat = 0 ∨ s.height.toNat = 0)
  | .oversized kind => ∃ s, (s = (c.sizes kind).window ∨ s = (c.sizes kind).thumb) ∧
      (8192 < s.width.toNat ∨ 8192 < s.height.toNat)
  | .noDirectory => c.directory = ""

/-- There is time for a capture, the sizes of every kind are within limits, and the store has a
    directory. -/
structure Works (c : Settings) : Prop where
  time : 0 < c.browser.timeout.nanoseconds
  sizes : ∀ kind, (c.sizes kind).window.InLimits ∧ (c.sizes kind).thumb.InLimits
  directory : c.directory ≠ ""

section Check

variable {c : Settings} {flaw : Flaw} {kind : Kind}

/-- **Settings that can work have no flaw.** -/
theorem Works.has_not (h : c.Works) : ¬ c.Has flaw := by
  have within {kind : Kind} {s : Size} (hs : s = (c.sizes kind).window ∨ s = (c.sizes kind).thumb) :
      s.InLimits := by
    rcases hs with rfl | rfl
    · exact (h.sizes kind).1
    · exact (h.sizes kind).2
  intro hflaw
  cases flaw with
  | noTime => exact absurd hflaw (Nat.ne_of_gt h.time)
  | degenerate kind =>
    obtain ⟨s, hs, hzero⟩ := hflaw
    obtain ⟨hw, hh, -, -⟩ := within hs
    omega
  | oversized kind =>
    obtain ⟨s, hs, hlarge⟩ := hflaw
    obtain ⟨-, -, hw, hh⟩ := within hs
    omega
  | noDirectory => exact absurd hflaw h.directory

/-- The presets of a kind are found without a flaw, or with one that they have. -/
theorem has_of_presetFlaw? (h : c.presetFlaw? kind = some flaw) : c.Has flaw := by
  unfold presetFlaw? at h
  dsimp only at h
  split at h
  · rename_i hzero
    cases h
    rw [Bool.or_eq_true, Size.isDegenerate_iff, Size.isDegenerate_iff] at hzero
    rcases hzero with hzero | hzero
    · exact ⟨_, .inl rfl, hzero⟩
    · exact ⟨_, .inr rfl, hzero⟩
  · split at h
    · rename_i hlarge
      cases h
      rw [Bool.or_eq_true, Size.isOversized_iff, Size.isOversized_iff] at hlarge
      rcases hlarge with hlarge | hlarge
      · exact ⟨_, .inl rfl, hlarge⟩
      · exact ⟨_, .inr rfl, hlarge⟩
    · cases h

theorem inLimits_of_presetFlaw? (h : c.presetFlaw? kind = none) :
    (c.sizes kind).window.InLimits ∧ (c.sizes kind).thumb.InLimits := by
  unfold presetFlaw? at h
  dsimp only at h
  split at h
  · cases h
  rename_i hzero
  split at h
  · cases h
  rename_i hlarge
  rw [Bool.not_eq_true, Bool.or_eq_false_iff] at hzero hlarge
  exact ⟨Size.inLimits_iff.mpr ⟨hzero.1, hlarge.1⟩, Size.inLimits_iff.mpr ⟨hzero.2, hlarge.2⟩⟩

/-- **A flaw that is found is there.** -/
theorem has_of_flaw? (h : c.flaw? = some flaw) : c.Has flaw := by
  unfold flaw? at h
  split at h
  · rename_i htime
    cases h
    exact Span.isZero_iff.mp htime
  split at h
  · rename_i found hfound
    cases h
    obtain ⟨kind, -, hkind⟩ := List.exists_of_findSome?_eq_some hfound
    exact has_of_presetFlaw? hkind
  · split at h
    · rename_i hempty
      cases h
      exact String.isEmpty_iff.mp hempty
    · cases h

/-- **Where none is found, the settings can work.** -/
theorem works_of_flaw? (h : c.flaw? = none) : c.Works := by
  unfold flaw? at h
  split at h
  · cases h
  rename_i htime
  split at h
  · cases h
  rename_i hall
  split at h
  · cases h
  rename_i hdirectory
  exact {
    time := Nat.pos_of_ne_zero fun hzero => htime (Span.isZero_iff.mpr hzero)
    sizes := fun kind => inLimits_of_presetFlaw? (List.findSome?_eq_none_iff.mp hall kind kind.mem_all)
    directory := fun hempty => hdirectory (String.isEmpty_iff.mpr hempty) }

/-- **The check passes just the settings that can work.** -/
theorem check_eq_ok_iff : c.check = .ok () ↔ c.Works := by
  unfold check
  cases hflaw : c.flaw? with
  | none => exact ⟨fun _ => works_of_flaw? hflaw, fun _ => rfl⟩
  | some flaw => exact ⟨nofun, fun h => absurd (has_of_flaw? hflaw) h.has_not⟩

/-- **The others are told a flaw that they have.** -/
theorem has_of_check {e : Failure} (h : c.check = .error e) :
    ∃ flaw, c.Has flaw ∧ e = .configuration flaw.message := by
  unfold check at h
  cases hflaw : c.flaw? with
  | none =>
    rw [hflaw] at h
    cases h
  | some flaw =>
    rw [hflaw] at h
    cases h
    exact ⟨flaw, has_of_flaw? hflaw, rfl⟩

/-- A request is for its kind and digest, at the sizes that are set for the kind. -/
theorem fields_of_request {address digest : String} {r : Request}
    (h : c.request kind address digest = .ok r) :
    r.kind = kind ∧ r.digest = digest ∧ r.window = (c.sizes kind).window ∧
      r.thumb = (c.sizes kind).thumb := by
  unfold request Request.make at h
  split at h
  · cases h
  · cases h
    exact ⟨rfl, rfl, rfl, rfl⟩

end Check

end Settings

/-! ## 2. What the check rules out -/

/-- The failure is about a size. -/
def PictureFailure.OfSize (e : PictureFailure) : Prop :=
  ∃ size, e = .degenerate size ∨ e = .oversized size

section Rendering

variable {window thumb : Size}

/-- Sizes within limits are not at fault. -/
theorem PictureFailure.Blames.not_ofSize {e : PictureFailure} (h : e.Blames window thumb)
    (hwindow : window.InLimits) (hthumb : thumb.InLimits) : ¬ e.OfSize := by
  rintro ⟨size, rfl | rfl⟩
  · obtain ⟨hzero, rfl | rfl⟩ := h
    · exact absurd hzero (Bool.eq_false_iff.mp (Size.inLimits_iff.mp hwindow).1)
    · exact absurd hzero (Bool.eq_false_iff.mp (Size.inLimits_iff.mp hthumb).1)
  · obtain ⟨hlarge, rfl⟩ := h
    exact absurd hlarge (Bool.eq_false_iff.mp (Size.inLimits_iff.mp hthumb).2)

/-- **At sizes within limits no rendering fails because of a size**, whatever page it is and whatever is
    captured. -/
theorem Snapshot.not_ofSize_of_render {σ : Type} {s : Snapshot} {identity : Identity}
    {env : Surroundings σ} {w : World σ} {e : PictureFailure}
    (h : ((s.render identity window thumb).runIn env w).1 = .error (.transform e))
    (hwindow : window.InLimits) (hthumb : thumb.InLimits) : ¬ e.OfSize := by
  obtain ⟨es, hp⟩ : ∃ es, Passage (s.render identity window thumb) env w es :=
    SnapshotProgram.exists_passage _ w
  have hcourse := hp.course.render
  rw [h] at hcourse
  exact hcourse.blames.not_ofSize hwindow hthumb

end Rendering

/-- **The check passes just the settings that can work, and rules out failures because of sizes.** Settings
    pass if there is time for a capture, all sizes of all kinds have from 1 to 8192 pixels each way, and
    the store has a directory; otherwise they are told a flaw that they have. If they pass, then no page
    of either kind that is rendered as they say, at the sizes of its request, fails because of a size,
    whoever asks and whatever the surroundings answer. -/
theorem check_rules_out_sizes (c : Settings) :
    (c.check = .ok () ↔ 0 < c.browser.timeout.nanoseconds ∧
      (∀ kind, (c.sizes kind).window.InLimits ∧ (c.sizes kind).thumb.InLimits) ∧ c.directory ≠ "") ∧
    (∀ e, c.check = .error e → ∃ flaw, c.Has flaw ∧ e = .configuration flaw.message) ∧
    (c.check = .ok () → ∀ kind address digest r, c.request kind address digest = .ok r →
      ∀ (decode : Decoder) (σ : Type) (env : Surroundings σ) (w : World σ) (identity : Identity)
        (e : PictureFailure),
        (((Snapshot.ofSettings decode c r).render identity r.window r.thumb).runIn env w).1 =
          .error (.transform e) →
        ∀ size, e ≠ .degenerate size ∧ e ≠ .oversized size) := by
  refine ⟨Settings.check_eq_ok_iff.trans ⟨fun h => ⟨h.time, h.sizes, h.directory⟩,
    fun ⟨time, sizes, directory⟩ => ⟨time, sizes, directory⟩⟩, fun e => Settings.has_of_check, ?_⟩
  intro hcheck kind address digest r hr decode σ env w identity e he
  obtain ⟨-, -, hwindow, hthumb⟩ := Settings.fields_of_request hr
  have hsizes := (Settings.check_eq_ok_iff.mp hcheck).sizes kind
  rw [← hwindow, ← hthumb] at hsizes
  have hother := Snapshot.not_ofSize_of_render he hsizes.1 hsizes.2
  exact fun size => ⟨fun h => hother ⟨size, .inl h⟩, fun h => hother ⟨size, .inr h⟩⟩

example : Settings.default.check = .ok () := rfl

end Vignette
