import Mathlib.Algebra.Group.Nat.Defs
import Vignette.Key
import Vignette.Proofs.Json.Forms

/-!
# What a key says

The text that is hashed for a key can be read again: `Source.ofText?` is a reader for it, made of the
readers that settings are read with. So the text tells the kind, the digest and both sizes, whatever
characters the digest has, also when it looks like the members behind it. Members are sorted by putting one
after the other to its place; so they stand in the order of their names, and none of these is there twice
(`Json.sorted_sortMembers`).

Main statement: **keys of different sources have different texts, and are different themselves unless
two texts have one hash** (`material_determines`).
-/

namespace Vignette

/-! ## 1. Hashes and their digits -/

namespace Digest

/-- Two messages with one hash. -/
def Collide (m n : ByteArray) : Prop := m ≠ n ∧ sha256 m = sha256 n

theorem hexDigit_inj : ∀ m n : Fin 16, Text.hexDigit m.val = Text.hexDigit n.val → m = n := by decide

/-- The half byte of a word from a place on. -/
theorem halfByte_eq {x y : UInt32} {k : Nat}
    (h : Text.hexDigit (x.toNat / Nat.pow 2 k % 16) = Text.hexDigit (y.toNat / Nat.pow 2 k % 16)) :
    x.toNat / Nat.pow 2 k % 16 = y.toNat / Nat.pow 2 k % 16 :=
  congrArg Fin.val (hexDigit_inj ⟨_, Nat.mod_lt _ (by decide)⟩ ⟨_, Nat.mod_lt _ (by decide)⟩ h)

/-- Numbers with the same lowest half bytes are the same, as far as these go. -/
theorem mod_eq_of_halfBytes {x y n : Nat} (h : ∀ k < n, x / 16 ^ k % 16 = y / 16 ^ k % 16) :
    x % 16 ^ n = y % 16 ^ n := by
  induction n with
  | zero => rw [Nat.pow_zero, Nat.mod_one, Nat.mod_one]
  | succ n ih =>
    rw [Nat.mod_pow_succ, Nat.mod_pow_succ, h n n.lt_succ_self,
      ih fun k hk => h k (Nat.lt_succ_of_lt hk)]

/-- Words with the same digits are the same. -/
theorem wordDigits_injective : Function.Injective wordDigits := by
  intro x y h
  have hplaces : ∀ k < 8, 4 * k ∈ [28, 24, 20, 16, 12, 8, 4, 0] := by decide
  have hdigit : ∀ k < 8, x.toNat / 16 ^ k % 16 = y.toNat / 16 ^ k % 16 := by
    intro k hk
    have hhalf := halfByte_eq (List.map_inj_left.mp h (4 * k) (hplaces k hk))
    rwa [Nat.pow_eq, Nat.pow_mul] at hhalf
  have hx : x.toNat < 16 ^ 8 := x.toNat_lt
  have hy : y.toNat < 16 ^ 8 := y.toNat_lt
  have hmod := mod_eq_of_halfBytes hdigit
  rw [Nat.mod_eq_of_lt hx, Nat.mod_eq_of_lt hy] at hmod
  exact UInt32.toNat.inj hmod

/-- **Hashes with the same digits are the same.** -/
theorem hexDigits_injective : Function.Injective hexDigits := by
  intro s t h
  obtain ⟨a, b, c, d, e, f, g, i⟩ := s
  obtain ⟨a', b', c', d', e', f', g', i'⟩ := t
  have hlen (x y : UInt32) : (wordDigits x).length = (wordDigits y).length := by simp
  simp only [hexDigits, List.flatMap_cons, List.flatMap_nil, List.append_nil] at h
  obtain ⟨ha, h⟩ := List.append_inj h (hlen a a')
  obtain ⟨hb, h⟩ := List.append_inj h (hlen b b')
  obtain ⟨hc, h⟩ := List.append_inj h (hlen c c')
  obtain ⟨hd, h⟩ := List.append_inj h (hlen d d')
  obtain ⟨he, h⟩ := List.append_inj h (hlen e e')
  obtain ⟨hf, h⟩ := List.append_inj h (hlen f f')
  obtain ⟨hg, hi⟩ := List.append_inj h (hlen g g')
  rw [wordDigits_injective ha, wordDigits_injective hb, wordDigits_injective hc,
    wordDigits_injective hd, wordDigits_injective he, wordDigits_injective hf,
    wordDigits_injective hg, wordDigits_injective hi]

end Digest

/-! ## 2. Members by name -/

namespace Json

section Order

variable {s t u : List Char}

theorem precedes_cons {a b : Char} : precedes (a :: s) (b :: t) = true ↔
    a.toNat < b.toNat ∨ a = b ∧ precedes s t = true := by
  rw [precedes]
  split
  · rename_i hsame
    simp [hsame]
  · rename_i hne
    simp [hne]

theorem precedes_trans (h : precedes s t = true) (h' : precedes t u = true) : precedes s u = true := by
  induction u generalizing s t with
  | nil => cases t <;> cases h'
  | cons c u ih =>
    cases s with
    | nil => rfl
    | cons a s =>
      cases t with
      | nil => cases h
      | cons b t =>
        rw [precedes_cons] at h h' ⊢
        rcases h with hlt | ⟨rfl, h⟩
        · rcases h' with hlt' | ⟨rfl, -⟩
          · exact .inl (Nat.lt_trans hlt hlt')
          · exact .inl hlt
        · exact h'.imp_right fun ⟨hsame, h'⟩ => ⟨hsame, ih h h'⟩

theorem precedes_irrefl (s : List Char) : precedes s s = false := by
  induction s with
  | nil => rfl
  | cons a s ih => rw [precedes, if_pos rfl, ih]

/-- Of two different names one comes before the other. -/
theorem precedes_of_not (h : precedes s t = false) (hne : s ≠ t) : precedes t s = true := by
  induction s generalizing t with
  | nil =>
    cases t with
    | nil => exact absurd rfl hne
    | cons b t => cases h
  | cons a s ih =>
    cases t with
    | nil => rfl
    | cons b t =>
      rw [← Bool.not_eq_true, precedes_cons, not_or] at h
      obtain ⟨hle, hrest⟩ := h
      rw [precedes_cons]
      by_cases hsame : a = b
      · subst hsame
        refine .inr ⟨rfl, ih ?_ fun hst => hne (congrArg (a :: ·) hst)⟩
        simpa using hrest
      · refine .inl (Nat.lt_of_le_of_ne (Nat.le_of_not_lt hle) fun hnat => hsame ?_)
        exact (Char.toNat_inj.mp hnat).symm

end Order

section Members

variable {name n : String} {value : Json} {ms : List (String × Json)}

/-- The members stand in the order of their names. -/
def Sorted (ms : List (String × Json)) : Prop :=
  (ms.map Prod.fst).Pairwise fun a b => precedes a.toList b.toList = true

/-- No name comes in but that of the new member. -/
theorem of_mem_insertMember (h : n ∈ (insertMember name value ms).map Prod.fst) :
    n = name ∨ n ∈ ms.map Prod.fst := by
  induction ms with
  | nil => exact .inl (List.mem_singleton.mp h)
  | cons m rest ih =>
    obtain ⟨other, v⟩ := m
    rw [insertMember] at h
    split at h
    · exact List.mem_cons.mp h
    split at h
    · exact (List.mem_cons.mp h).imp_right (List.mem_cons_of_mem other)
    · rcases List.mem_cons.mp h with rfl | hrest
      · exact .inr List.mem_cons_self
      · exact (ih hrest).imp_right (List.mem_cons_of_mem other)

/-- **A member that is put among sorted ones is put to its place.** -/
theorem Sorted.insertMember (h : Sorted ms) (name : String) (value : Json) :
    Sorted (insertMember name value ms) := by
  induction ms with
  | nil => exact List.pairwise_singleton _ _
  | cons m rest ih =>
    obtain ⟨other, v⟩ := m
    obtain ⟨hother, hrest⟩ := List.pairwise_cons.mp h
    rw [Json.insertMember]
    split
    · rename_i hbefore
      refine h.cons fun n hn => ?_
      rcases List.mem_cons.mp hn with rfl | hn
      · exact hbefore
      · exact precedes_trans hbefore (hother n hn)
    split
    · rename_i hsame
      subst hsame
      exact hrest.cons hother
    · rename_i hnot hne
      have hbehind : precedes other.toList name.toList = true :=
        precedes_of_not (eq_false_of_ne_true hnot) fun htext => hne (String.toList_inj.mp htext)
      refine (ih hrest).cons fun n hn => ?_
      rcases of_mem_insertMember hn with rfl | hn
      · exact hbehind
      · exact hother n hn

/-- **Sorted members stand in the order of their names.** -/
theorem sorted_sortMembers (ms : List (String × Json)) : Sorted (sortMembers ms) := by
  have hfold : ∀ (rest sorted : List (String × Json)), Sorted sorted →
      Sorted (rest.foldl (fun sorted m => insertMember m.1 m.2 sorted) sorted) := by
    intro rest
    induction rest with
    | nil => exact fun _ h => h
    | cons m rest ih => exact fun sorted h => ih _ (h.insertMember m.1 m.2)
  exact hfold ms [] .nil

/-- No name is there twice. -/
theorem Sorted.nodup (h : Sorted ms) : (ms.map Prod.fst).Nodup := by
  refine h.imp fun {a b} hbefore hsame => ?_
  rw [hsame, precedes_irrefl] at hbefore
  cases hbefore

end Members

end Json

namespace Key

/-- Keys of different hashes are different. -/
theorem ofHash_injective : Function.Injective ofHash := by
  intro s t h
  exact Digest.hexDigits_injective (String.ofList_injective (congrArg Key.text h))

/-! ## 3. Reading the text again -/

/-- What a key is derived from. -/
structure Source where
  kind : Kind
  digest : String
  window : Size
  thumb : Size
  deriving DecidableEq

namespace Source

/-- Reads a size that stands as a list of two numbers. -/
def readPair : Json.Reader Size := fun s =>
  match Json.list Json.word32 s with
  | .error e => .error e
  | .ok ([width, height], r) => .ok (⟨width, height⟩, r)
  | .ok (ns, r) => Json.faultAt (.wrongLength ns.length "a width and a height") r

/-- The reader's layout. -/
def layout : Json.Layout Source where
  title := "the material of a key"
  slots := [
    Json.field "digest" (Json.quoted "a string") fun d a => { a with digest := d },
    Json.field "thumb_size" readPair fun t a => { a with thumb := t },
    Json.field "thumbnail_type" Kind.reader fun k a => { a with kind := k },
    Json.field "type" (Json.choice [("thumb", ())]) fun _ a => a,
    Json.field "window_size" readPair fun w a => { a with window := w }]
  start := ⟨.chart, "", ⟨0, 0⟩, ⟨0, 0⟩⟩
  full := some "five members"
  closed := true

/-- What a text says that a key is derived from. -/
def ofText? (text : String) : Option Source :=
  (Json.readAll (Json.record layout .ok) text.toList).toOption

end Source

/-- The members of the text stand in this order. -/
theorem sortMembers_members (kind : Kind) (digest : String) (window thumb : Size) :
    Json.sortMembers (members kind digest window thumb) = [
      ("digest", .string digest),
      ("thumb_size", .array [.number thumb.width.toNat, .number thumb.height.toNat]),
      ("thumbnail_type", .string kind.name),
      ("type", .string "thumb"),
      ("window_size", .array [.number window.width.toNat, .number window.height.toNat])] := by
  simp [Json.sortMembers, members, Json.insertMember, Json.precedes]

theorem names_sortMembers (kind : Kind) (digest : String) (window thumb : Size) :
    (Json.sortMembers (members kind digest window thumb)).map Prod.fst =
      ["digest", "thumb_size", "thumbnail_type", "type", "window_size"] := by
  rw [sortMembers_members]
  rfl

open Json (TakesBack Fills)

/-- Sizes are read back from the list of their numbers. -/
theorem takesBack_readPair (size : Size) :
    TakesBack Source.readPair (.array [.number size.width.toNat, .number size.height.toNat]) size := by
  intro rest hrest
  have hlist := Json.takesBack_list
    (.cons (Json.takesBack_word32 size.width) (.cons (Json.takesBack_word32 size.height) .nil)) rest hrest
  simp only [Source.readPair, hlist]

/-- **The text is read back**: it says what the key is derived from. -/
theorem ofText?_material (kind : Kind) (digest : String) (window thumb : Size) :
    Source.ofText? (material kind digest window thumb).text = some ⟨kind, digest, window, thumb⟩ := by
  have hfills : List.Forall₂ (Fills Source.layout) (Json.sortMembers (members kind digest window thumb))
      [fun a => { a with digest := digest }, fun a => { a with thumb := thumb },
        fun a => { a with kind := kind }, fun a => a, fun a => { a with window := window }] := by
    rw [sortMembers_members]
    exact .cons ⟨_, rfl, (Json.takesBack_quoted _ digest).field _ _⟩
      (.cons ⟨_, rfl, (takesBack_readPair thumb).field _ _⟩
        (.cons ⟨_, rfl, kind.takesBack.field _ _⟩
          (.cons ⟨_, rfl, (Json.takesBack_choice rfl).field _ _⟩
            (.cons ⟨_, rfl, (takesBack_readPair window).field _ _⟩ .nil))))
  have hread : TakesBack (Json.record Source.layout .ok) (material kind digest window thumb)
      ⟨kind, digest, window, thumb⟩ :=
    Json.takesBack_record hfills (Json.sorted_sortMembers _).nodup (by rw [names_sortMembers]; rfl) rfl
  rw [Source.ofText?, hread.readAll]
  rfl

/-- Texts of different sources are different. -/
theorem text_material_inj {k₁ k₂ : Kind} {d₁ d₂ : String} {w₁ w₂ t₁ t₂ : Size}
    (h : (material k₁ d₁ w₁ t₁).text = (material k₂ d₂ w₂ t₂).text) :
    k₁ = k₂ ∧ d₁ = d₂ ∧ w₁ = w₂ ∧ t₁ = t₂ := by
  have hread := ofText?_material k₁ d₁ w₁ t₁
  rw [h, ofText?_material k₂ d₂ w₂ t₂] at hread
  cases hread
  exact ⟨rfl, rfl, rfl, rfl⟩

/-- **The text of a key says what the key is derived from, and so tells all sources apart; the keys of
    different sources are the same just if their texts have one hash. The members of the text stand in
    the order of their names.** -/
theorem material_determines (k₁ k₂ : Kind) (d₁ d₂ : String) (w₁ w₂ t₁ t₂ : Size) :
    let text₁ := (material k₁ d₁ w₁ t₁).text
    let text₂ := (material k₂ d₂ w₂ t₂).text
    Source.ofText? text₁ = some ⟨k₁, d₁, w₁, t₁⟩ ∧
    (text₁ = text₂ ↔ k₁ = k₂ ∧ d₁ = d₂ ∧ w₁ = w₂ ∧ t₁ = t₂) ∧
    (derive k₁ d₁ w₁ t₁ = derive k₂ d₂ w₂ t₂ ↔
      (k₁ = k₂ ∧ d₁ = d₂ ∧ w₁ = w₂ ∧ t₁ = t₂) ∨ Digest.Collide text₁.toUTF8 text₂.toUTF8) ∧
    ∃ ms : List (String × Json),
      text₁.toList = '\x7b' :: (Json.renderMembers ms ++ ['\x7d']) ∧
      ms.map Prod.fst = ["digest", "thumb_size", "thumbnail_type", "type", "window_size"] ∧
      (ms.map Prod.fst).Pairwise (· < ·) := by
  intro text₁ text₂
  have htexts : text₁ = text₂ ↔ k₁ = k₂ ∧ d₁ = d₂ ∧ w₁ = w₂ ∧ t₁ = t₂ := by
    refine ⟨text_material_inj, ?_⟩
    rintro ⟨rfl, rfl, rfl, rfl⟩
    rfl
  refine ⟨ofText?_material k₁ d₁ w₁ t₁, htexts, ?_,
    Json.sortMembers (members k₁ d₁ w₁ t₁), String.toList_ofList, names_sortMembers ..,
    by rw [names_sortMembers]; decide⟩
  constructor
  · intro h
    have hhash : Digest.sha256 text₁.toUTF8 = Digest.sha256 text₂.toUTF8 := ofHash_injective h
    by_cases ht : text₁ = text₂
    · exact .inl (htexts.mp ht)
    · exact .inr ⟨fun hbytes => ht (String.toByteArray_inj.mp hbytes), hhash⟩
  · rintro (hsame | ⟨-, hhash⟩)
    · obtain ⟨rfl, rfl, rfl, rfl⟩ := hsame
      rfl
    · exact congrArg ofHash hhash

end Key

end Vignette
