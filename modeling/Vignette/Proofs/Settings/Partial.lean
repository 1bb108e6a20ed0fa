import Vignette.Proofs.Json.Forms

/-!
# Settings are read from any part of their form

A settings file need not say everything. Here the members of the form of settings are named
(`Settings.Field`, and `BrowserSettings.Field` for those of the browser), so that a part of the form can
be spoken of: any of its members, each once, in any order. `Settings.part` is such an object, and
`Settings.keeping` says what it stands for: what is in it is as in the settings that it was taken from,
and all else is as when nothing is set.

A member that is there with the value `null` is in the part; it is not the same as no member.

Main statement: **every part of the form of settings is read as what it stands for, the whole form as the
settings themselves, and so are the whole forms of sizes, presets, formats, kinds, cookies and identities**
(`settings_read_back`).
-/

namespace Vignette

open Json (TakesBack Fills)

/-! ## 1. Records that may be read in part -/

section Record

variable {σ φ : Type} {l : Json.Layout σ} {member : φ → String × Json} {put : φ → σ → σ}

/-- Where no field must be there, none is missing. -/
theorem Json.Layout.missing?_of_optional (h : ∀ slot ∈ l.slots, slot.required = false)
    (seen : List String) : l.missing? seen = none := by
  refine List.find?_eq_none.mpr fun slot hslot => ?_
  simp [h slot hslot]

/-- **A record whose fields may all be missing is read from any of its members**, in any order. -/
theorem Json.takesBack_members (hfills : ∀ f, Fills l (member f) (put f))
    (hoptional : ∀ slot ∈ l.slots, slot.required = false)
    (hname : ∀ f g, (member f).1 = (member g).1 → f = g) {fs : List φ} (hfs : fs.Nodup) :
    TakesBack (Json.record l .ok) (.object (fs.map member))
      (fs.foldl (fun value f => put f value) l.start) := by
  have hall : List.Forall₂ (Fills l) (fs.map member) (fs.map put) := by
    rw [List.forall₂_map_left_iff, List.forall₂_map_right_iff, List.forall₂_same]
    exact fun f _ => hfills f
  have hnodup : ((fs.map member).map Prod.fst).Nodup := by
    rw [List.map_map]
    exact List.pairwise_map.mpr (hfs.imp fun hne h => hne (hname _ _ h))
  refine takesBack_record hall hnodup (l.missing?_of_optional hoptional _) ?_
  rw [List.foldl_map]

end Record

/-! ## 2. The settings of the browser -/

namespace BrowserSettings

/-- The members of the form of the settings of the browser. -/
inductive Field
  | program
  | timeout
  | settle
  | userAgent
  deriving DecidableEq

/-- The fields in the order of the form. -/
def Field.all : List Field := [program, timeout, settle, userAgent]

/-- The form of a span that may be missing. -/
def spanToJson : Option Span → Json
  | none => .null
  | some s => s.toJson

/-- A member of the form. -/
def member (b : BrowserSettings) : Field → String × Json
  | .program => ("chrome_path", Json.ofOption b.program)
  | .timeout => ("screenshot_timeout", b.timeout.toJson)
  | .settle => ("settle_delay", spanToJson b.settle)
  | .userAgent => ("user_agent", Json.ofOption b.userAgent)

/-- The part of the form with some of its members. -/
def part (b : BrowserSettings) (fs : List Field) : Json := .object (fs.map b.member)

/-- Settings of the browser that agree with `b` in some fields, and with `start` in the others. -/
def onto (b : BrowserSettings) (fs : List Field) (start : BrowserSettings) : BrowserSettings where
  program := if .program ∈ fs then b.program else start.program
  timeout := if .timeout ∈ fs then b.timeout else start.timeout
  settle := if .settle ∈ fs then b.settle else start.settle
  userAgent := if .userAgent ∈ fs then b.userAgent else start.userAgent

/-- Settings of the browser that agree with `b` in some fields, and are as when nothing is set in the
    others. -/
def keeping (b : BrowserSettings) (fs : List Field) : BrowserSettings := b.onto fs default

/-- One field, put into other settings. -/
def put (b : BrowserSettings) (f : Field) (start : BrowserSettings) : BrowserSettings := b.onto [f] start

/-- Is there no value in a field? There is always a timeout. -/
def Lacks (b : BrowserSettings) : Field → Prop
  | .program => b.program = none
  | .timeout => False
  | .settle => b.settle = none
  | .userAgent => b.userAgent = none

theorem toJson_eq_part (b : BrowserSettings) : b.toJson = b.part Field.all := by
  obtain ⟨_, _, _ | _, _⟩ := b <;> rfl

/-- Fields put one after the other are put together. -/
theorem foldl_put (b : BrowserSettings) : ∀ (fs : List Field) (start : BrowserSettings),
    fs.foldl (fun value f => b.put f value) start = b.onto fs start
  | [], _ => rfl
  | f :: fs, start => by
    rw [List.foldl_cons, foldl_put b fs]
    cases f <;> simp +contextual [put, onto]

theorem member_inj (b : BrowserSettings) (f g : Field) (h : (b.member f).1 = (b.member g).1) : f = g := by
  cases f <;> cases g <;> first | rfl | exact absurd h (by simp [member])

/-- Only a value that is not there has the form `null`. -/
theorem lacks_of_null {b : BrowserSettings} {f : Field} (h : (b.member f).2 = .null) : b.Lacks f := by
  obtain ⟨program, timeout, settle, userAgent⟩ := b
  cases f with
  | program => cases program <;> first | rfl | cases h
  | timeout => cases h
  | settle => cases settle <;> first | rfl | cases h
  | userAgent => cases userAgent <;> first | rfl | cases h

/-- What is kept is not there just if it was not there before, whatever the default is. -/
theorem lacks_keeping {b : BrowserSettings} {f : Field} {fs : List Field} (hf : f ∈ fs) :
    (b.keeping fs).Lacks f ↔ b.Lacks f := by
  cases f <;> simp [keeping, onto, Lacks, hf]

/-- Spans that may be missing are read back. -/
theorem takesBack_span? (s : Option Span) : TakesBack (Json.optional Span.reader) (spanToJson s) s := by
  cases s with
  | none => exact Json.takesBack_optional_none _
  | some s => exact Json.takesBack_optional_some s.takesBack nofun

/-- Every member fills the field of its name. -/
theorem fills_member (b : BrowserSettings) (f : Field) : Fills layout (b.member f) (b.put f) := by
  cases f with
  | program => exact ⟨_, rfl, (Json.takesBack_ofOption _ b.program).field "chrome_path" _⟩
  | timeout => exact ⟨_, rfl, b.timeout.takesBack.field "screenshot_timeout" _⟩
  | settle => exact ⟨_, rfl, (takesBack_span? b.settle).field "settle_delay" _⟩
  | userAgent => exact ⟨_, rfl, (Json.takesBack_ofOption _ b.userAgent).field "user_agent" _⟩

/-- **The settings of the browser are read from any part of their form.** -/
theorem takesBack_part (b : BrowserSettings) {fs : List Field} (hfs : fs.Nodup) :
    TakesBack reader (b.part fs) (b.keeping fs) := by
  have h := Json.takesBack_members b.fills_member (by simp [layout, Json.field?]) b.member_inj hfs
  rwa [foldl_put] at h

end BrowserSettings

/-! ## 3. Settings -/

namespace Settings

/-- The members of the form of settings. -/
inductive Field
  | browser
  | chart
  | dashboard
  | format
  | crop
  | directory
  deriving DecidableEq

/-- The fields in the order of the form. -/
def Field.all : List Field := [browser, chart, dashboard, format, crop, directory]

/-- A member of the form, of the settings of the browser only the part with the fields `bs`. -/
def member (c : Settings) (bs : List BrowserSettings.Field) : Field → String × Json
  | .browser => ("driver", c.browser.part bs)
  | .chart => ("chart", c.chart.toJson)
  | .dashboard => ("dashboard", c.dashboard.toJson)
  | .format => ("output_format", c.format.toJson)
  | .crop => ("crop", .bool c.crop)
  | .directory => ("cache_dir", .string c.directory)

/-- The part of the form with some of its members, and with some of those of the browser's settings. -/
def part (c : Settings) (fs : List Field) (bs : List BrowserSettings.Field) : Json :=
  .object (fs.map (c.member bs))

/-- Settings that agree with `c` in some fields, and with `start` in the others. -/
def onto (c : Settings) (fs : List Field) (start : Settings) : Settings where
  browser := if .browser ∈ fs then c.browser else start.browser
  chart := if .chart ∈ fs then c.chart else start.chart
  dashboard := if .dashboard ∈ fs then c.dashboard else start.dashboard
  format := if .format ∈ fs then c.format else start.format
  crop := if .crop ∈ fs then c.crop else start.crop
  directory := if .directory ∈ fs then c.directory else start.directory

/-- Settings that agree with `c` in some fields, in those of the browser's settings as far as they are
    among `bs`, and are as when nothing is set otherwise. -/
def keeping (c : Settings) (fs : List Field) (bs : List BrowserSettings.Field) : Settings :=
  onto { c with browser := c.browser.keeping bs } fs default

/-- One field, put into other settings. -/
def put (c : Settings) (f : Field) (start : Settings) : Settings := c.onto [f] start

theorem toJson_eq_part (c : Settings) : c.toJson = c.part Field.all BrowserSettings.Field.all := by
  rw [toJson, BrowserSettings.toJson_eq_part]
  rfl

theorem keeping_all (c : Settings) : c.keeping Field.all BrowserSettings.Field.all = c := rfl

/-- Fields put one after the other are put together. -/
theorem foldl_put (c : Settings) : ∀ (fs : List Field) (start : Settings),
    fs.foldl (fun value f => c.put f value) start = c.onto fs start
  | [], _ => rfl
  | f :: fs, start => by
    rw [List.foldl_cons, foldl_put c fs]
    cases f <;> simp +contextual [put, onto]

theorem member_inj (c : Settings) (bs : List BrowserSettings.Field) (f g : Field)
    (h : (c.member bs f).1 = (c.member bs g).1) : f = g := by
  cases f <;> cases g <;> first | rfl | exact absurd h (by simp [member])

/-- Every member fills the field of its name. -/
theorem fills_member (c : Settings) {bs : List BrowserSettings.Field} (hbs : bs.Nodup) (f : Field) :
    Fills layout (c.member bs f) (put { c with browser := c.browser.keeping bs } f) := by
  cases f with
  | browser => exact ⟨_, rfl, (c.browser.takesBack_part hbs).field "driver" _⟩
  | chart => exact ⟨_, rfl, c.chart.takesBack.field "chart" _⟩
  | dashboard => exact ⟨_, rfl, c.dashboard.takesBack.field "dashboard" _⟩
  | format => exact ⟨_, rfl, c.format.takesBack.field "output_format" _⟩
  | crop => exact ⟨_, rfl, (Json.takesBack_truth c.crop).field "crop" _⟩
  | directory => exact ⟨_, rfl, (Json.takesBack_quoted _ c.directory).field "cache_dir" _⟩

/-- **Settings are read from any part of their form.** -/
theorem takesBack_part (c : Settings) {fs : List Field} {bs : List BrowserSettings.Field}
    (hfs : fs.Nodup) (hbs : bs.Nodup) : TakesBack reader (c.part fs bs) (c.keeping fs bs) := by
  have h := Json.takesBack_members (c.fills_member hbs) (by simp [layout, Json.field?]) (c.member_inj bs) hfs
  rwa [foldl_put] at h

/-- What a text holds is what is read back from it. -/
theorem ofText_of_takesBack {v : Json} {c : Settings} (h : TakesBack reader v c) :
    ofText v.text = .ok c := by
  rw [ofText, h.whole]
  rfl

/-- The bytes of a text hold what the text holds. -/
theorem ofBytes_toUTF8 (text : String) : ofBytes text.toUTF8 = ofText text := by
  have hread : String.fromUTF8? text.toUTF8 = some text := by
    rw [String.fromUTF8?, String.toUTF8_eq_toByteArray, dif_pos text.isValidUTF8]
    rfl
  rw [ofBytes, hread]

end Settings

/-! ## 4. Reading back -/

/-- **Every part of the form of settings, its members in any order, is read as what it stands for**, from
    a text and from its bytes, and `null` is read as no value; **the whole form is read as the settings
    themselves; and so are the forms of all that is written otherwise.** -/
theorem settings_read_back :
    (∀ (c : Settings) (fs : List Settings.Field) (bs : List BrowserSettings.Field),
      fs.Nodup → bs.Nodup →
        Settings.ofText (c.part fs bs).text = .ok (c.keeping fs bs) ∧
        Settings.ofBytes (c.part fs bs).text.toUTF8 = .ok (c.keeping fs bs) ∧
        (.browser ∈ fs → ∀ f ∈ bs, (c.browser.member f).2 = .null → (c.keeping fs bs).browser.Lacks f)) ∧
    (∀ c : Settings, c.part Settings.Field.all BrowserSettings.Field.all = c.toJson ∧
      Settings.ofText c.toJson.text = .ok c) ∧
    (∀ s : Size, Json.whole Size.reader s.toJson.text = .ok s) ∧
    (∀ p : Preset, Json.whole Preset.reader p.toJson.text = .ok p) ∧
    (∀ f : Format, Json.whole Format.reader f.toJson.text = .ok f) ∧
    (∀ k : Kind, Json.whole Kind.reader k.toJson.text = .ok k) ∧
    (∀ c : Cookie, Json.whole Cookie.reader c.toJson.text = .ok c) ∧
    ∀ i : Identity, Json.whole Identity.reader i.toJson.text = .ok i := by
  refine ⟨fun c fs bs hfs hbs => ?_, fun c => ?_, fun s => s.takesBack.whole, fun p => p.takesBack.whole,
    fun f => f.takesBack.whole, fun k => k.takesBack.whole, fun c => c.takesBack.whole,
    fun i => i.takesBack.whole⟩
  · have htext : Settings.ofText (c.part fs bs).text = .ok (c.keeping fs bs) :=
      Settings.ofText_of_takesBack (c.takesBack_part hfs hbs)
    refine ⟨htext, ?_, fun hbrowser f hf hnull => ?_⟩
    · rw [Settings.ofBytes_toUTF8, htext]
    · have hkept : (c.keeping fs bs).browser = c.browser.keeping bs := if_pos hbrowser
      rw [hkept, BrowserSettings.lacks_keeping hf]
      exact BrowserSettings.lacks_of_null hnull
  · have hall : TakesBack Settings.reader (c.part Settings.Field.all BrowserSettings.Field.all)
        (c.keeping Settings.Field.all BrowserSettings.Field.all) :=
      c.takesBack_part (by decide) (by decide)
    rw [c.keeping_all, ← c.toJson_eq_part] at hall
    exact ⟨c.toJson_eq_part.symm, Settings.ofText_of_takesBack hall⟩

/-- A text with the format and without a delay: all else is as when nothing is set, and there is no
    delay. -/
theorem settings_without_delay :
    let text := "\x7b\"output_format\":\"jpeg\",\"driver\":\x7b\"settle_delay\":null\x7d\x7d"
    let fs : List Settings.Field := [.format, .browser]
    let bs : List BrowserSettings.Field := [.settle]
    fs.Nodup ∧ bs.Nodup ∧
      Settings.ofText text = .ok
        { Settings.default with
          format := .jpeg
          browser := { BrowserSettings.default with settle := none } } := by
  intro text fs bs
  let c : Settings :=
    { Settings.default with format := .jpeg, browser := { BrowserSettings.default with settle := none } }
  have hfs : fs.Nodup := by decide
  have hbs : bs.Nodup := by decide
  have htext : (c.part fs bs).text = text := by cbv
  refine ⟨hfs, hbs, ?_⟩
  rw [← htext]
  exact (settings_read_back.1 c fs bs hfs hbs).1

end Vignette
