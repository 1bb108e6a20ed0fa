import Vignette.Proofs.Json.ReadBack

/-!
# The forms of sizes, names, identities and spans are read back

Each type that has a form has a reader that takes every value back from it. A value that may be missing
has the form `null`, or its own; the two cannot be confused, since no other form begins as `null` does
(`exists_render_cons_ne`).

Main statements: `takesBack` of each type, and **a whole text that is a form is read back**
(`TakesBack.readAll`, `TakesBack.whole`).
-/

namespace Vignette

namespace Json

/-! ## 1. Whole texts -/

section Whole

variable {α : Type} {read : Reader α} {v : Json} {a : α}

/-- **The text of a value is read back as a whole.** -/
theorem TakesBack.readAll (h : TakesBack read v a) : readAll read v.text.toList = .ok a := by
  have hread := h [] (.inl rfl)
  rw [List.append_nil] at hread
  simp only [Json.readAll, text, String.toList_ofList, hread]
  rfl

/-- **The text of a value is read back**, and nothing is said to be wrong with it. -/
theorem TakesBack.whole (h : TakesBack read v a) : whole read v.text = .ok a := by
  rw [Json.whole, h.readAll]

end Whole

/-! ## 2. Truth values, and values that may be missing -/

/-- **Truth values are read back.** -/
theorem takesBack_truth (b : Bool) : TakesBack truth (.bool b) b := by
  intro rest _
  cases b <;> rfl

section Optional

variable {α : Type} {read : Reader α}

/-- A form other than `null` does not begin as `null` does. -/
theorem exists_render_cons_ne {v : Json} (hv : v ≠ .null) :
    ∃ c r, v.render = c :: r ∧ isOpening c = true ∧ c ≠ 'n' := by
  cases v with
  | null => exact absurd rfl hv
  | bool b =>
    cases b with
    | true => exact ⟨'t', _, rfl, rfl, by decide⟩
    | false => exact ⟨'f', _, rfl, rfl, by decide⟩
  | number n =>
    obtain ⟨c, r, hcr, hc⟩ := startsWithDigit_decimal n []
    rw [List.append_nil] at hcr
    exact ⟨c, r, by rw [render, hcr], by simp [isOpening, hc], by rintro rfl; cases hc⟩
  | string s => exact ⟨'"', _, rfl, rfl, by decide⟩
  | array items => exact ⟨'[', _, rfl, rfl, by decide⟩
  | object members => exact ⟨'\x7b', _, rfl, rfl, by decide⟩

/-- **Null is read back as nothing**, whatever could have stood there. -/
theorem takesBack_optional_none (read : Reader α) : TakesBack (optional read) .null none := by
  intro rest _
  rfl

/-- **A value that may be missing is read back** if it is there. -/
theorem takesBack_optional_some {v : Json} {a : α} (h : TakesBack read v a) (hv : v ≠ .null) :
    TakesBack (optional read) v (some a) := by
  intro rest hrest
  have hread := h rest hrest
  obtain ⟨c, r, hcr, hopening, hn⟩ := exists_render_cons_ne hv
  rw [hcr, List.cons_append] at hread ⊢
  have hskip : skipBlanks (c :: (r ++ rest)) = c :: (r ++ rest) := by
    simp [skipBlanks, (isOpening_ne hopening).1]
  simp only [optional, hskip]
  split
  · rename_i heq
    cases heq
    exact absurd rfl hn
  · rw [hread]

/-- **A text that may be missing is read back.** -/
theorem takesBack_ofOption (expected : String) (s : Option String) :
    TakesBack (optional (quoted expected)) (ofOption s) s := by
  cases s with
  | none => exact takesBack_optional_none _
  | some s => exact takesBack_optional_some (takesBack_quoted expected s) nofun

end Optional

/-! ## 3. Whole records -/

section Whole

variable {σ α : Type} {l : Layout σ}

/-- Of a record whose members are all there, none is missing. -/
theorem Layout.missing?_reverse_names (l : Layout σ) : l.missing? l.names.reverse = none := by
  refine List.find?_eq_none.mpr fun slot hslot => ?_
  have hmem : slot.name ∈ l.names.reverse := List.mem_reverse.mpr (List.mem_map_of_mem hslot)
  simp [hmem]

/-- **Records are read back** if all their members are there, in the order of the fields. -/
theorem takesBack_whole {finish : σ → Except Cause α} {ms : List (String × Json)}
    {puts : List (σ → σ)} {a : α} (h : List.Forall₂ (Fills l) ms puts)
    (hnames : ms.map Prod.fst = l.names) (hnodup : l.names.Nodup)
    (hfinish : finish (puts.foldl (fun v put => put v) l.start) = .ok a) :
    TakesBack (record l finish) (.object ms) a :=
  takesBack_record h (hnames ▸ hnodup) (hnames ▸ l.missing?_reverse_names) hfinish

end Whole

end Json

open Json (TakesBack Fills)

/-! ## 4. Sizes, names, identities -/

/-- **Sizes are read back.** -/
theorem Size.takesBack (s : Size) : TakesBack reader s.toJson s :=
  Json.takesBack_whole
    (.cons ⟨_, rfl, (Json.takesBack_word32 s.width).field _ _⟩
      (.cons ⟨_, rfl, (Json.takesBack_word32 s.height).field _ _⟩ .nil))
    rfl (by decide) rfl

/-- **Presets are read back.** -/
theorem Preset.takesBack (p : Preset) : TakesBack reader p.toJson p :=
  Json.takesBack_whole
    (.cons ⟨_, rfl, p.window.takesBack.field _ _⟩ (.cons ⟨_, rfl, p.thumb.takesBack.field _ _⟩ .nil))
    rfl (by decide) rfl

/-- **Formats are read back.** -/
theorem Format.takesBack (f : Format) : TakesBack reader f.toJson f := by
  refine Json.takesBack_choice ?_
  cases f <;> rfl

/-- **Kinds are read back.** -/
theorem Kind.takesBack (k : Kind) : TakesBack reader k.toJson k := by
  refine Json.takesBack_choice ?_
  cases k <;> rfl

/-- **Cookies are read back.** -/
theorem Cookie.takesBack (c : Cookie) : TakesBack reader c.toJson c :=
  Json.takesBack_whole
    (.cons ⟨_, rfl, (Json.takesBack_quoted _ c.name).field _ _⟩
      (.cons ⟨_, rfl, (Json.takesBack_quoted _ c.value).field _ _⟩ .nil))
    rfl (by decide) rfl

/-- **Identities are read back.** -/
theorem Identity.takesBack (i : Identity) : TakesBack reader i.toJson i := by
  have hcookies : List.Forall₂ (TakesBack Cookie.reader) (i.cookies.map Cookie.toJson) i.cookies := by
    rw [List.forall₂_map_left_iff, List.forall₂_same]
    exact fun c _ => c.takesBack
  exact Json.takesBack_whole
    (.cons ⟨_, rfl, (Json.takesBack_ofOption _ i.username).field "username" _⟩
      (.cons ⟨_, rfl, (Json.takesBack_list hcookies).field _ _⟩ .nil))
    rfl (by decide) rfl

/-! ## 5. Spans -/

/-- The parts of a span make the span again. -/
theorem Span.ofParts_self (s : Span) : ofParts s.seconds.toNat s.nanos.val = .ok s := by
  have hnanos : s.nanos.val / 1000000000 = 0 := Nat.div_eq_of_lt s.nanos.isLt
  have hbound : s.seconds.toNat + s.nanos.val / 1000000000 < UInt64.size := by
    rw [hnanos]
    exact s.seconds.toNat_lt
  have hseconds : (s.seconds.toNat * 1000000000 + s.nanos.val) / 1000000000 = s.seconds.toNat := by
    omega
  have hrest : (s.seconds.toNat * 1000000000 + s.nanos.val) % 1000000000 = s.nanos.val := by omega
  rw [ofParts, if_pos hbound, ofNanoseconds]
  simp only [hseconds, hrest, UInt64.ofNat_toNat, Fin.eta]

/-- **Spans are read back.** -/
theorem Span.takesBack (s : Span) : TakesBack reader s.toJson s := by
  have hnanos : s.nanos.val < UInt32.size := Nat.lt_trans s.nanos.isLt (by decide)
  exact Json.takesBack_whole
    (.cons ⟨_, rfl, (Json.takesBack_natural (by decide) _ s.seconds.toNat_lt).field _ _⟩
      (.cons ⟨_, rfl, (Json.takesBack_natural (by decide) _ hnanos).field _ _⟩ .nil))
    rfl (by decide) s.ofParts_self

end Vignette
