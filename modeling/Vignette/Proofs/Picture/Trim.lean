import Vignette.Proofs.Picture.Crop
import Vignette.Proofs.Picture.Making

/-!
# Cropping only takes rows

How many rows a window keeps depends on the width of the picture and on the window, and the picture's
own height caps it (`Picture.keptRows`). All that is said here rests on that: no size of a picture or
of a window is too large for it, for a product beyond 32 bits is capped like any other
(`Picture.keptRows_saturated`).

Main statement: **cropping only ever takes rows from the bottom** (`Picture.cropTo_takes_rows`).
The reading is this:

* a window without width or height is refused as such, and no other window is;
* where no row is to be kept, the failure names the picture's own size;
* what is kept stands as it stood, and cropping it once more changes nothing;
* of two pictures of one width, the taller keeps at least as many rows.
-/

namespace Vignette

namespace Picture

variable {p q : Picture} {window : Size}

/-! ## 1. The number of rows -/

theorem keptRows_le (p : Picture) (window : Size) : p.keptRows window ≤ p.height :=
  Nat.min_le_right _ _

/-- The rows at the window's proportions may be cut to 32 bits first: a picture has no more than
    that. -/
theorem keptRows_saturated (p : Picture) (window : Size) :
    min (min (proportionalRows p.width window) (2 ^ 32 - 1)) p.height = p.keptRows window := by
  have hheight : p.height < 2 ^ 32 := p.size.height.toNat_lt
  have hcap : min (2 ^ 32 - 1) p.height = p.height := by omega
  rw [keptRows, min_assoc, hcap]

/-- **A taller picture of the same width keeps at least as many rows.** -/
theorem keptRows_mono {taller : Picture} (hwidth : taller.width = p.width)
    (hheight : p.height ≤ taller.height) : p.keptRows window ≤ taller.keptRows window := by
  rw [keptRows, keptRows, hwidth]
  exact min_le_min_left _ hheight

/-- What is kept of a picture has no row too many. -/
theorem keptRows_of_isTop (h : q.IsTop p (p.keptRows window)) : q.keptRows window = q.height := by
  rw [keptRows, h.width_eq, h.height_eq, keptRows]
  exact min_eq_right (min_le_left _ _)

/-! ## 2. The rows themselves -/

/-- **A picture is the whole of its rows.** -/
theorem keepRows_height (p : Picture) : p.keepRows p.size.height = p := by
  have hall : p.data.extract 0 (p.size.height.toNat * p.rowBytes) = p.data := by
    have hsize : p.size.height.toNat * p.rowBytes = p.data.size := p.data_size_eq.symm
    rw [hsize, ByteArray.extract_zero_size]
  have hle : p.size.height.toNat ≤ p.height := le_refl _
  rw [keepRows, dif_pos hle]
  obtain ⟨size, color, data, hdata⟩ := p
  simp only [mk.injEq, true_and]
  exact hall

/-- The number of rows that are kept fits into the 32 bits of a height. -/
theorem toNat_keptRows (p : Picture) (window : Size) :
    (UInt32.ofNat (p.keptRows window)).toNat = p.keptRows window :=
  UInt32.toNat_ofNat_of_lt' ((p.keptRows_le window).trans_lt p.size.height.toNat_lt)

/-- What cropping gives, if it gives a picture. -/
theorem cropTo_eq_ok : p.cropTo window = .ok q ↔
    window.isDegenerate = false ∧ p.keptRows window ≠ 0 ∧
      p.keepRows (UInt32.ofNat (p.keptRows window)) = q := by
  unfold cropTo
  by_cases hzero : window.isDegenerate = true
  · rw [if_pos hzero]
    simp [hzero]
  · rw [if_neg hzero]
    by_cases hrows : p.keptRows window = 0
    · rw [if_pos hrows]
      simp [hrows]
    · rw [if_neg hrows]
      simp [hzero, hrows]

theorem isTop_of_cropTo (h : p.cropTo window = .ok q) : q.IsTop p (p.keptRows window) := by
  obtain ⟨-, -, rfl⟩ := cropTo_eq_ok.mp h
  have htop := p.isTop_keepRows ((p.toNat_keptRows window).trans_le (p.keptRows_le window))
  rwa [p.toNat_keptRows window] at htop

/-- **Cropping again to the same window changes nothing.** -/
theorem cropTo_again (h : p.cropTo window = .ok q) : q.cropTo window = .ok q := by
  obtain ⟨hwindow, hrows, -⟩ := cropTo_eq_ok.mp h
  have htop : q.IsTop p (p.keptRows window) := isTop_of_cropTo h
  have hkept : q.keptRows window = q.height := keptRows_of_isTop htop
  have hall : UInt32.ofNat (q.keptRows window) = q.size.height := by
    rw [hkept]
    exact UInt32.ofNat_toNat
  refine cropTo_eq_ok.mpr ⟨hwindow, ?_, ?_⟩
  · rwa [hkept, htop.height_eq]
  · rw [hall, q.keepRows_height]

/-! ## 3. Cropping -/

/-- The window is refused as such just if it has no width or no height. -/
theorem cropTo_eq_degenerate : p.cropTo window = .error (.degenerate window) ↔
    window.width = 0 ∨ window.height = 0 := by
  have hzero : window.isDegenerate = true ↔ window.width = 0 ∨ window.height = 0 := by
    simp [Size.isDegenerate, ← UInt32.toNat_inj]
  rw [cropTo_eq_error, ← hzero]
  constructor
  · rintro (⟨h, -⟩ | ⟨-, -, he⟩)
    · exact h
    · cases he
  · exact fun h => .inl ⟨h, rfl⟩

/-- **Cropping only ever takes rows from the bottom.** -/
theorem cropTo_takes_rows (p : Picture) (window : Size) :
    (p.cropTo window = .error (.degenerate window) ↔ window.width = 0 ∨ window.height = 0) ∧
    (p.cropTo window = .error (.degenerate window) ∨
      p.cropTo window = .error (.emptyCrop p.size) ∨
      ∃ q, p.cropTo window = .ok q ∧ q.IsTop p q.height ∧ 1 ≤ q.height ∧ q.height ≤ p.height ∧
        q.height = min (min (proportionalRows p.width window) (2 ^ 32 - 1)) p.height ∧
        q.cropTo window = .ok q) ∧
    ∀ taller : Picture, taller.width = p.width → p.height ≤ taller.height →
      ∀ q, p.cropTo window = .ok q →
        ∃ r, taller.cropTo window = .ok r ∧ q.height ≤ r.height := by
  refine ⟨cropTo_eq_degenerate, ?_, fun taller hwidth hheight q hq => ?_⟩
  · cases hcrop : p.cropTo window with
    | error e =>
      obtain ⟨-, rfl⟩ | ⟨-, -, rfl⟩ := cropTo_eq_error.mp hcrop
      · exact .inl rfl
      · exact .inr (.inl rfl)
    | ok q =>
      obtain ⟨-, hrows, -⟩ := cropTo_eq_ok.mp hcrop
      have htop : q.IsTop p (p.keptRows window) := isTop_of_cropTo hcrop
      have hheight : q.height = p.keptRows window := htop.height_eq
      rw [← hheight] at htop hrows
      refine .inr (.inr ⟨q, rfl, htop, Nat.one_le_iff_ne_zero.mpr hrows, ?_, ?_, cropTo_again hcrop⟩)
      · rw [hheight]
        exact p.keptRows_le window
      · rw [hheight, keptRows_saturated]
  · obtain ⟨hwindow, hrows, -⟩ := cropTo_eq_ok.mp hq
    have hmore : p.keptRows window ≤ taller.keptRows window := keptRows_mono hwidth hheight
    have hsome : taller.keptRows window ≠ 0 := by omega
    have hr : taller.cropTo window =
        .ok (taller.keepRows (UInt32.ofNat (taller.keptRows window))) :=
      cropTo_eq_ok.mpr ⟨hwindow, hsome, rfl⟩
    refine ⟨_, hr, ?_⟩
    rw [(isTop_of_cropTo hq).height_eq, (isTop_of_cropTo hr).height_eq]
    exact hmore

/-- In a window of one column and as many rows as 32 bits can count, a picture stays whole. -/
example : (blank ⟨2, 3⟩ .rgba32f).cropTo ⟨1, 4294967295⟩ = .ok (blank ⟨2, 3⟩ .rgba32f) := by
  have hrows : (blank ⟨2, 3⟩ .rgba32f).keptRows ⟨1, 4294967295⟩ = 3 := by decide +kernel
  refine cropTo_eq_ok.mpr ⟨rfl, by rw [hrows]; decide, ?_⟩
  rw [hrows]
  exact keepRows_height _

end Picture

end Vignette
