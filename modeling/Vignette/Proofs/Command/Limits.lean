import Vignette.Proofs.Command.Bound
import Vignette.Proofs.Command.Desk

/-!
# Sizes within limits

A window and a thumbnail have from 1 to 8192 pixels each way (`Size.InLimits`). Three checks see to
that: settings are checked before anything is done with them, a size on the command line is looked at
when it is read, and a capture is not made a thumbnail at a size that is at fault.

The second check lets a zero through. So it is shown how far the limits hold: a command never goes above
them, and if no size on the line has a zero it never goes below.

Main statements: **a command captures in its window and blames no size but its own**
(`Context.within_sized`); **its sizes are within limits if those on the line are above zero**
(`sizes_limited`); a zero on the line is captured, and then refused (`zero_captured`).
-/

namespace Vignette

/-! ## 1. Presets -/

/-- **The presets of settings that pass the check are within limits.** -/
theorem Settings.inLimits_of_check {c : Settings} (h : c.check = .ok ()) (kind : Kind) :
    (c.sizes kind).window.InLimits ∧ (c.sizes kind).thumb.InLimits :=
  (check_eq_ok_iff.mp h).sizes kind

/-! ## 2. Sizes on the line -/

/-- A size on the line is absent, or read from a text. -/
def Size.Given (size : Option Size) : Prop := ∀ s ∈ size, ∃ text, Size.parse text = .ok s

/-- A command on a target, with these sizes on the line. There is no switch for the window of `get`. -/
inductive Command.OnTarget (t : Target) (window thumb : Option Size) : Command → Prop where
  | get (output : Option Path) : OnTarget t window thumb (.get t thumb output)
  | warm (force : Bool) : OnTarget t window thumb (.warm t window thumb force)
  | cached (output : Option Path) : OnTarget t window thumb (.cached t window thumb output)

theorem Size.given_none : Size.Given none := nofun

theorem Size.given_of_parse {text : String} {s : Size} (h : Size.parse text = .ok s) :
    Size.Given (some s) := by
  intro size hsize
  obtain rfl := Option.some.inj hsize
  exact ⟨text, h⟩

section Limits

variable {c : Context} {t : Target} {window thumb : Option Size} {command : Command} {s : Snapshot}

/-- **A command captures in its window and blames no size but its own.** -/
theorem Context.within_sized (hcommand : command.OnTarget t window thumb) (h : c.snapshotOf t = .ok s) :
    ∃ given store key wanted, (given = none ∨ given = window) ∧ (c.carryOut command).Within
      (CommandAction.Bound store key wanted (s.windowOf given) (s.thumbOf thumb)) := by
  cases hcommand with
  | get output => exact ⟨none, _, _, _, .inl rfl, within_get h thumb output⟩
  | warm force => exact ⟨window, _, _, _, .inr rfl, within_warm h window thumb force⟩
  | cached output => exact ⟨window, _, _, _, .inr rfl, within_cached h window thumb output⟩

/-- A command on a target whose address cannot be read does nothing. -/
theorem Context.within_of_error {e : Failure} {P : CommandAction → Prop}
    (hcommand : command.OnTarget t window thumb) (h : c.snapshotOf t = .error e) :
    (c.carryOut command).Within P := by
  cases hcommand with
  | get output =>
    rw [carryOut, get, h]
    trivial
  | warm force =>
    rw [carryOut, warm, h]
    trivial
  | cached output =>
    rw [carryOut, cached, h]
    trivial

theorem Size.getD_of_forall {P : Size → Prop} {size : Option Size} {default : Size} (hdefault : P default)
    (h : ∀ s ∈ size, P s) : P (size.getD default) := by
  cases size with
  | none => exact hdefault
  | some s => exact h s rfl

section Property

variable {P : Size → Prop} (hset : P (c.settings.sizes t.kind).window ∧ P (c.settings.sizes t.kind).thumb)
  (hwindow : ∀ size ∈ window, P size) (hthumb : ∀ size ∈ thumb, P size)
include hset hwindow hthumb

/-- The sizes of a snapshot are those on the line, or those that are set. -/
theorem Context.sizes_of_snapshotOf (h : c.snapshotOf t = .ok s) :
    P (s.windowOf none) ∧ P (s.windowOf window) ∧ P (s.thumbOf thumb) := by
  obtain ⟨-, -, hw, ht⟩ := request_of_snapshotOf h
  rw [Snapshot.windowOf, Snapshot.windowOf, Snapshot.thumbOf, hw, ht]
  exact ⟨hset.1, Size.getD_of_forall hset.1 hwindow, Size.getD_of_forall hset.2 hthumb⟩

/-- **What is true of all sizes that are set or on the line is true of those that a command works with.** -/
theorem Context.sized_of_asked (hcommand : command.OnTarget t window thumb) {σ : Type} {eq : Equipment σ}
    {w : CommandWorld σ} {x : CommandAction}
    (hx : x ∈ (c.carryOut command).asked (CommandWorld.perform eq) w) :
    ∃ store key wanted win th, P win ∧ P th ∧ x.Bound store key wanted win th := by
  cases h : c.snapshotOf t with
  | error e => exact ((within_of_error (P := fun _ => False) hcommand h).of_asked hx).elim
  | ok s =>
    obtain ⟨given, store, key, wanted, hgiven, hwithin⟩ := within_sized hcommand h
    obtain ⟨hnone, hwin, hth⟩ := sizes_of_snapshotOf hset hwindow hthumb h
    refine ⟨store, key, wanted, s.windowOf given, s.thumbOf thumb, ?_, hth, hwithin.of_asked hx⟩
    rcases hgiven with rfl | rfl
    · exact hnone
    · exact hwin

/-- The windows that a command captures in. -/
theorem Context.window_of_asked (hcommand : command.OnTarget t window thumb) {σ : Type} {eq : Equipment σ}
    {w : CommandWorld σ} {browser : BrowserSettings} {shot : Shot}
    (hx : .capture browser shot ∈ (c.carryOut command).asked (CommandWorld.perform eq) w) :
    P shot.window := by
  obtain ⟨_, _, _, win, _, hwin, -, hshot⟩ := sized_of_asked hset hwindow hthumb hcommand hx
  obtain rfl : shot.window = win := hshot
  exact hwin

/-- The sizes that a command finds at fault. -/
theorem Context.blamed_of_asked (hcommand : command.OnTarget t window thumb) {σ : Type} {eq : Equipment σ}
    {w : CommandWorld σ} {key : Key} {e : PictureFailure}
    (hx : .note (.pictureFailed key e) ∈ (c.carryOut command).asked (CommandWorld.perform eq) w) :
    ∃ win th, P win ∧ P th ∧ e.Blames win th := by
  obtain ⟨_, _, _, win, th, hwin, hth, he⟩ := sized_of_asked hset hwindow hthumb hcommand hx
  exact ⟨win, th, hwin, hth, he⟩

end Property

/-- A forced computation has the page captured. -/
theorem Context.capture_asked {σ : Type} (h : c.snapshotOf t = .ok s) (eq : Equipment σ) (w : CommandWorld σ) :
    .capture c.settings.browser (s.shot c.identity (s.windowOf window)) ∈
      (c.carryOut (.warm t window thumb true)).asked (CommandWorld.perform eq) w := by
  simp only [carryOut, warm, h]
  exact Program.mem_asked_act rfl (Program.mem_asked_act rfl (Program.mem_asked_self ..))

theorem Size.Given.not_oversized {size : Option Size} (h : Size.Given size) :
    ∀ s ∈ size, s.isOversized = false := by
  intro s hs
  obtain ⟨text, htext⟩ := h s hs
  exact isOversized_of_parse htext

theorem Size.Given.inLimits {size : Option Size} (h : Size.Given size)
    (hpos : ∀ s ∈ size, s.isDegenerate = false) : ∀ s ∈ size, s.InLimits :=
  fun s hs => inLimits_iff.mpr ⟨hpos s hs, h.not_oversized s hs⟩

/-- **A command never goes above the limits, and if no size on the line has a zero it never goes below**:
    neither with a window that it captures in, nor with a thumbnail size; and no picture fails for a size
    that is out of limits. -/
theorem sizes_limited (hc : c.settings.check = .ok ()) (hwindow : Size.Given window)
    (hthumb : Size.Given thumb) (hcommand : command.OnTarget t window thumb) {σ : Type} (eq : Equipment σ)
    (w : CommandWorld σ) :
    let asked := (c.carryOut command).asked (CommandWorld.perform eq) w
    ((∀ browser shot, .capture browser shot ∈ asked → shot.window.isOversized = false) ∧
      (∀ key size, .note (.pictureFailed key (.oversized size)) ∉ asked) ∧
      ∀ s, c.snapshotOf t = .ok s → (s.thumbOf thumb).isOversized = false) ∧
    ((∀ size ∈ window, size.isDegenerate = false) → (∀ size ∈ thumb, size.isDegenerate = false) →
      (∀ browser shot, .capture browser shot ∈ asked → shot.window.InLimits) ∧
      (∀ key size, .note (.pictureFailed key (.degenerate size)) ∉ asked) ∧
      ∀ s, c.snapshotOf t = .ok s → (s.windowOf window).InLimits ∧ (s.thumbOf thumb).InLimits) := by
  intro asked
  have hset := Settings.inLimits_of_check hc t.kind
  have hle : (c.settings.sizes t.kind).window.isOversized = false ∧
      (c.settings.sizes t.kind).thumb.isOversized = false :=
    ⟨(Size.inLimits_iff.mp hset.1).2, (Size.inLimits_iff.mp hset.2).2⟩
  constructor
  · have hw := hwindow.not_oversized
    have ht := hthumb.not_oversized
    refine ⟨fun browser shot hx => ?_, fun key size hx => ?_, fun s hs => ?_⟩
    · exact Context.window_of_asked (P := (·.isOversized = false)) hle hw ht hcommand hx
    · obtain ⟨_, _, -, hth, hlarge, rfl⟩ :=
        Context.blamed_of_asked (P := (·.isOversized = false)) hle hw ht hcommand hx
      exact Bool.false_ne_true (hth.symm.trans hlarge)
    · exact (Context.sizes_of_snapshotOf (P := (·.isOversized = false)) hle hw ht hs).2.2
  · intro hwpos htpos
    have hw := hwindow.inLimits hwpos
    have ht := hthumb.inLimits htpos
    refine ⟨fun browser shot hx => Context.window_of_asked hset hw ht hcommand hx, fun key size hx => ?_,
      fun s hs => (Context.sizes_of_snapshotOf hset hw ht hs).2⟩
    obtain ⟨_, _, hwin, hth, hzero, rfl | rfl⟩ := Context.blamed_of_asked hset hw ht hcommand hx
    · exact Bool.false_ne_true ((Size.inLimits_iff.mp hwin).1.symm.trans hzero)
    · exact Bool.false_ne_true ((Size.inLimits_iff.mp hth).1.symm.trans hzero)

/-- The sizes of a command with a window on the line, which captures. -/
theorem sizes_limited_forced :
    let c : Context := ⟨Settings.default, Identity.anonymous, Decoder.builtIn⟩
    let t : Target := ⟨.dashboard, "http://[::1]/", "d1"⟩
    let eq := desk (fun _ _ f => (⟨[], some (.ok ⟨#[0x89]⟩)⟩, f)) fun (f : Unit) => (0, f)
    let w := CommandWorld.start ((⟨FileTree.empty, 0⟩, ()) : FileTree.Disk workplace × Unit)
    let asked := (c.carryOut (.warm t (some ⟨640, 480⟩) none true)).asked (CommandWorld.perform eq) w
    c.settings.check = .ok () ∧ Size.parse "640x480" = .ok ⟨640, 480⟩ ∧
      (∃ shot, .capture c.settings.browser shot ∈ asked) ∧
      ∀ browser shot, .capture browser shot ∈ asked → shot.window.InLimits := by
  intro c t eq w asked
  have hc : c.settings.check = .ok () := rfl
  have hparse : Size.parse "640x480" = .ok ⟨640, 480⟩ := rfl
  obtain ⟨s, hs⟩ := c.exists_snapshotOf (t := t) Context.parse_loopback
  refine ⟨hc, hparse, ⟨_, Context.capture_asked hs eq w⟩, ?_⟩
  have hpos : ∀ size ∈ some (⟨640, 480⟩ : Size), size.isDegenerate = false := by
    intro size hsize
    obtain rfl := Option.some.inj hsize
    rfl
  exact ((sizes_limited hc (Size.given_of_parse hparse) Size.given_none (.warm true) eq w).2 hpos nofun).1

/-! ## 3. Zeros on the line -/

/-- Whether a thumbnail size has a zero is looked at when there is a capture. -/
theorem Snapshot.finish_of_degenerate {window thumb : Size} {data : ByteArray} (hdata : data.isEmpty = false)
    (hne : window ≠ thumb) (hzero : thumb.isDegenerate = true) :
    s.finish window thumb data = .done (.error (.transform (.degenerate thumb))) := by
  simp only [finish, hdata, hne, Thumbnail.make, hzero]
  rfl

/-- **A thumbnail size with a zero is blamed for what becomes of the capture.** -/
theorem Context.zero_blamed {σ : Type} {eq : Equipment σ} (h : c.snapshotOf t = .ok s)
    (hzero : (s.thumbOf thumb).isDegenerate = true) (hne : s.windowOf window ≠ s.thumbOf thumb)
    {data : ByteArray} (hdata : data.isEmpty = false)
    (hcapture : ∀ browser shot f, (eq.capture browser shot f).1.answer = some (.ok data))
    (w : CommandWorld σ) : .note (.pictureFailed (s.key window thumb) (.degenerate (s.thumbOf thumb))) ∈
      (c.carryOut (.warm t window thumb true)).asked (CommandWorld.perform eq) w := by
  have hcompute : s.compute c.identity window thumb true =
      s.produce c.identity (s.key window thumb) (s.windowOf window) (s.thumbOf thumb) := rfl
  simp only [carryOut, warm, h, hcompute]
  generalize s.windowOf window = win, s.thumbOf thumb = th at hzero hne
  refine Program.mem_asked_act rfl (Program.mem_asked_act rfl (Program.mem_asked_act (hcapture ..) ?_))
  change _ ∈ Program.asked _ (Program.bind (Program.expand _ (Program.bind (s.finish win th data) _)) _) _
  rw [Snapshot.finish_of_degenerate hdata hne hzero]
  exact Program.mem_asked_self ..

/-- A zero on the line: the size is read, the page is captured, and then the size is refused. -/
theorem zero_captured :
    let c : Context := ⟨Settings.default, Identity.anonymous, Decoder.builtIn⟩
    let t : Target := ⟨.chart, "http://[::1]/", "d1"⟩
    let eq := desk (fun _ _ f => (⟨[], some (.ok ⟨#[0x89]⟩)⟩, f)) fun (f : Unit) => (0, f)
    let w := CommandWorld.start ((⟨FileTree.empty, 0⟩, ()) : FileTree.Disk workplace × Unit)
    let asked := (c.carryOut (.warm t none (some ⟨0, 600⟩) true)).asked (CommandWorld.perform eq) w
    c.settings.check = .ok () ∧ Size.parse "0x600" = .ok ⟨0, 600⟩ ∧ (∃ u, Url.parse t.address = .ok u) ∧
      (∃ shot, .capture c.settings.browser shot ∈ asked) ∧
      ∃ key, .note (.pictureFailed key (.degenerate ⟨0, 600⟩)) ∈ asked := by
  intro c t eq w asked
  obtain ⟨s, hs⟩ := c.exists_snapshotOf (t := t) Context.parse_loopback
  obtain ⟨-, -, hwindow, -⟩ := Context.request_of_snapshotOf hs
  refine ⟨rfl, rfl, Context.parse_loopback, ⟨_, Context.capture_asked hs eq w⟩, s.key none (some ⟨0, 600⟩), ?_⟩
  have hdata : (ByteArray.mk #[0x89]).isEmpty = false := rfl
  refine Context.zero_blamed hs rfl ?_ hdata (fun _ _ _ => rfl) w
  rw [Snapshot.windowOf, Option.getD_none, hwindow, Snapshot.thumbOf, Option.getD_some]
  decide

end Limits

end Vignette
