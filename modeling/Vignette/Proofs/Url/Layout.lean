import Mathlib.Data.List.TakeDrop
import Vignette.Url.Parser

/-!
# The parts of an address in its text

The text of a URL is cut at the first question mark and at the number sign: in front stand scheme,
user, host, port and path, behind the one stands the query, behind the other the fragment. `frontOf`,
`queryOf?` and `fragmentOf?` cut a text so, and know nothing of a URL.

That the parts found are the parts of the URL rests on what may stand where: no mark in any part in
front of the query (`Unmarked`), no number sign in the query. A URL of such parts is `Tidy`.

Main statement: **the text of a tidy URL is cut into the URL's own parts** (`Tidy.front_of`,
`Tidy.query_of`, `Tidy.fragment_of`).
-/

namespace Vignette.Url

/-! ## 1. Texts without a mark -/

/-- No character of the text is in the set. -/
def Free (set : Char → Bool) (s : List Char) : Prop := ∀ c ∈ s, set c = false

section Free

variable {set other : Char → Bool} {s t : List Char} {c : Char}

@[simp] theorem free_nil : Free set [] := nofun

@[simp] theorem free_cons : Free set (c :: s) ↔ set c = false ∧ Free set s := List.forall_mem_cons

@[simp] theorem free_append : Free set (s ++ t) ↔ Free set s ∧ Free set t := List.forall_mem_append

theorem Free.mono (h : Free set s) (hsub : ∀ c, set c = false → other c = false) : Free other s :=
  fun c hc => hsub c (h c hc)

theorem free_intercalate {sep : List Char} (hsep : Free set sep) :
    ∀ {parts : List (List Char)}, (∀ p ∈ parts, Free set p) → Free set (List.intercalate sep parts)
  | [], _ => free_nil
  | [p], h => by simpa [List.intercalate] using h p List.mem_cons_self
  | p :: q :: rest, h => by
    have htail := free_intercalate hsep fun x hx => h x (List.mem_cons_of_mem p hx)
    have hcut : List.intercalate sep (p :: q :: rest) = p ++ (sep ++ List.intercalate sep (q :: rest)) := by
      simp [List.intercalate]
    rw [hcut, free_append, free_append]
    exact ⟨h p List.mem_cons_self, hsep, htail⟩

/-- A number is written with digits only. -/
theorem free_toDigits (hdigit : ∀ k : Fin 16, set (Nat.digitChar k.val) = false) {base : Nat}
    (hone : 1 < base) (hbase : base ≤ 16) (n : Nat) : Free set (Nat.toDigits base n) := by
  induction n using Nat.strongRecOn with
  | ind n ih =>
    by_cases hn : n < base
    · rw [Nat.toDigits_of_lt_base hn]
      exact free_cons.mpr ⟨hdigit ⟨n, by omega⟩, free_nil⟩
    · have hmod : n % base < base := Nat.mod_lt n (by omega)
      rw [Nat.toDigits_of_base_le hone (Nat.le_of_not_lt hn), free_append]
      exact ⟨ih _ (Nat.div_lt_self (by omega) hone),
        free_cons.mpr ⟨hdigit ⟨n % base, by omega⟩, free_nil⟩⟩

/-- A text is cut where the first character stops. -/
theorem span_append {p : Char → Bool} (h : ∀ c ∈ s, p c = true) (ht : ∀ c ∈ t.head?, p c = false) :
    (s ++ t).span p = (s, t) := by
  have hstop : t.takeWhile p = [] ∧ t.dropWhile p = t := by
    cases t with
    | nil => exact ⟨rfl, rfl⟩
    | cons c t =>
      have hc : ¬ p c = true := by
        rw [ht c rfl]
        exact Bool.false_ne_true
      exact ⟨List.takeWhile_cons_of_neg hc, List.dropWhile_cons_of_neg hc⟩
  rw [List.span_eq_takeWhile_dropWhile, List.takeWhile_append_of_pos h, List.dropWhile_append_of_pos h,
    hstop.1, hstop.2, List.append_nil]

theorem span_of_free (h : Free set s) (ht : ∀ c ∈ t.head?, set c = true) :
    (s ++ t).span (fun c => !set c) = (s, t) :=
  span_append (fun c hc => by rw [h c hc, Bool.not_false]) fun c hc => by rw [ht c hc, Bool.not_true]

end Free

/-- The text holds neither the mark of a query nor that of a fragment. -/
def Unmarked (s : List Char) : Prop := ∀ c ∈ s, endsPath c = false

section Unmarked

variable {set : Char → Bool} {s t : List Char} {c : Char}

@[simp] theorem unmarked_nil : Unmarked [] := fun _ h => nomatch h

@[simp] theorem unmarked_cons : Unmarked (c :: s) ↔ endsPath c = false ∧ Unmarked s := List.forall_mem_cons

@[simp] theorem unmarked_append : Unmarked (s ++ t) ↔ Unmarked s ∧ Unmarked t := List.forall_mem_append

theorem Free.unmarked (h : Free set s) (hsub : ∀ c, set c = false → endsPath c = false) : Unmarked s :=
  h.mono hsub

theorem unmarked_flatMap {α : Type} {f : α → List Char} {l : List α} (h : ∀ a ∈ l, Unmarked (f a)) :
    Unmarked (l.flatMap f) := by
  intro c hc
  obtain ⟨a, ha, hca⟩ := List.mem_flatMap.mp hc
  exact h a ha c hca

theorem unmarked_intercalate {sep : List Char} (hsep : Unmarked sep) {parts : List (List Char)}
    (h : ∀ p ∈ parts, Unmarked p) : Unmarked (List.intercalate sep parts) := free_intercalate hsep h

end Unmarked

/-! ## 2. Cutting a text -/

/-- What stands in front of the query and the fragment. -/
def frontOf (s : List Char) : List Char := s.takeWhile fun c => !endsPath c

/-- The query: behind the first question mark, unless a number sign comes first, and up to one. -/
def queryOf? (s : List Char) : Option (List Char) :=
  match s.dropWhile fun c => !endsPath c with
  | '?' :: rest => some (rest.takeWhile (· != '#'))
  | _ => none

/-- The fragment: behind the first number sign. -/
def fragmentOf? (s : List Char) : Option (List Char) :=
  match s.dropWhile (· != '#') with
  | _ :: f => some f
  | [] => none

/-- The names with values in the query of a text. -/
def pairsOf (address : String) : List (String × String) := Form.parse ((queryOf? address.toList).getD [])

section Cut

variable {front query rest : List Char}

theorem Unmarked.passes (h : Unmarked front) : ∀ c ∈ front, (!endsPath c) = true :=
  fun c hc => by rw [h c hc, Bool.not_false]

theorem Unmarked.hash_passes (h : Unmarked front) : ∀ c ∈ front, (c != '#') = true := by
  intro c hc
  have hmark := h c hc
  rw [endsPath, Bool.or_eq_false_iff] at hmark
  rw [bne, hmark.2, Bool.not_false]

theorem bne_of_not_mem (h : '#' ∉ query) : ∀ c ∈ query, (c != '#') = true := by
  intro c hc
  rw [bne_iff_ne]
  rintro rfl
  exact h hc

/-- A text is cut behind a front without marks, and what follows decides the rest. -/
theorem frontOf_append (h : Unmarked front) : frontOf (front ++ rest) = front ++ frontOf rest := by
  rw [frontOf, List.takeWhile_append_of_pos h.passes, frontOf]

theorem queryOf?_append (h : Unmarked front) : queryOf? (front ++ rest) = queryOf? rest := by
  rw [queryOf?, List.dropWhile_append_of_pos h.passes, queryOf?]

theorem fragmentOf?_append (h : ∀ c ∈ front, (c != '#') = true) :
    fragmentOf? (front ++ rest) = fragmentOf? rest := by
  rw [fragmentOf?, List.dropWhile_append_of_pos h, fragmentOf?]

theorem queryOf?_mark (h : '#' ∉ query) : queryOf? ('?' :: (query ++ rest)) =
    some (query ++ rest.takeWhile (· != '#')) := by
  rw [queryOf?, List.dropWhile_cons_of_neg (by decide)]
  change some ((query ++ rest).takeWhile (· != '#')) = _
  rw [List.takeWhile_append_of_pos (bne_of_not_mem h)]

end Cut

/-! ## 3. Tidy URLs -/

/-- No segment, or no character of a plain path, is a mark. -/
def Path.Unmarked : Path → Prop
  | .plain s => Url.Unmarked s
  | .segments parts => ∀ part ∈ parts, Url.Unmarked part

/-- A URL with marks only where the text of a URL has them. -/
structure Tidy (u : Url) : Prop where
  scheme : Unmarked u.scheme
  username : Unmarked u.username
  password : Unmarked u.password
  host : ∀ h ∈ u.host, Unmarked h.text
  path : u.path.Unmarked
  query : ∀ q ∈ u.query, '#' ∉ q

/-- A number is written without marks. -/
theorem unmarked_toDigits {base : Nat} (hone : 1 < base) (hbase : base ≤ 16) (n : Nat) :
    Unmarked (Nat.toDigits base n) := free_toDigits (by decide) hone hbase n

section Tidy

variable {u : Url}

theorem unmarked_segmentsText {parts : List (List Char)} (h : ∀ part ∈ parts, Unmarked part) :
    Unmarked (segmentsText parts) :=
  unmarked_flatMap fun part hpart => unmarked_cons.mpr ⟨by decide, h part hpart⟩

theorem Tidy.pathText (h : Tidy u) : Unmarked u.pathText := by
  have hpath := h.path
  unfold Url.pathText
  split <;> rename_i heq <;> rw [heq] at hpath
  · exact hpath
  · rw [unmarked_append]
    refine ⟨?_, unmarked_segmentsText hpath⟩
    split <;> simp [endsPath]
  · exact unmarked_segmentsText hpath

theorem Tidy.authorityText (h : Tidy u) {host : Host} (hhost : u.host = some host) :
    Unmarked (u.authorityText host) := by
  have huserinfo : Unmarked (userinfoText u.username u.password) := by
    unfold userinfoText
    split
    · exact unmarked_nil
    · split <;> simp [h.username, h.password, endsPath]
  rw [Url.authorityText, unmarked_append, unmarked_append]
  refine ⟨⟨huserinfo, h.host host hhost⟩, ?_⟩
  split
  · exact unmarked_nil
  · exact unmarked_cons.mpr ⟨by decide, unmarked_toDigits (by decide) (by decide) _⟩

/-- **In front of the query of a tidy URL stands no mark.** -/
theorem Tidy.frontText (h : Tidy u) : Unmarked u.frontText := by
  rw [Url.frontText, unmarked_append, unmarked_cons, unmarked_append]
  refine ⟨h.scheme, by decide, ?_, h.pathText⟩
  split
  · exact unmarked_nil
  · rename_i host hhost
    exact unmarked_append.mpr ⟨by simp [endsPath], h.authorityText hhost⟩

/-- The text of a query with its mark. -/
def queryText (u : Url) : List Char :=
  match u.query with
  | none => []
  | some q => '?' :: q

/-- The text of a fragment with its mark. -/
def fragmentText (u : Url) : List Char :=
  match u.fragment with
  | none => []
  | some f => '#' :: f

theorem chars_eq (u : Url) : u.chars = u.frontText ++ (u.queryText ++ u.fragmentText) := by
  rw [← List.append_assoc]
  rfl

theorem frontOf_fragmentText (u : Url) : frontOf u.fragmentText = [] := by
  unfold fragmentText
  split <;> rfl

theorem queryOf?_fragmentText (u : Url) : queryOf? u.fragmentText = none := by
  unfold fragmentText
  split <;> rfl

theorem takeWhile_fragmentText (u : Url) : u.fragmentText.takeWhile (· != '#') = [] := by
  unfold fragmentText
  split <;> rfl

theorem fragmentOf?_fragmentText (u : Url) : fragmentOf? u.fragmentText = u.fragment := by
  unfold fragmentText
  split <;> rename_i hf <;> rw [hf] <;> rfl

/-- The front of a tidy URL is found in its text. -/
theorem Tidy.front_of (h : Tidy u) : frontOf u.chars = u.frontText := by
  have hrest : frontOf (u.queryText ++ u.fragmentText) = [] := by
    unfold queryText
    split
    · exact frontOf_fragmentText u
    · rfl
  rw [chars_eq, frontOf_append h.frontText, hrest, List.append_nil]

/-- The query of a tidy URL is found in its text. -/
theorem Tidy.query_of (h : Tidy u) : queryOf? u.chars = u.query := by
  rw [chars_eq, queryOf?_append h.frontText, queryText]
  split
  · rename_i hq
    rw [hq, List.nil_append, queryOf?_fragmentText]
  · rename_i q hq
    rw [hq, List.cons_append, queryOf?_mark (h.query q hq), takeWhile_fragmentText, List.append_nil]

/-- The fragment of a tidy URL is found in its text. -/
theorem Tidy.fragment_of (h : Tidy u) : fragmentOf? u.chars = u.fragment := by
  have hquery : ∀ c ∈ u.queryText, (c != '#') = true := by
    unfold queryText
    split
    · exact fun _ hc => nomatch hc
    · rename_i q hq
      exact List.forall_mem_cons.mpr ⟨by decide, bne_of_not_mem (h.query q hq)⟩
  rw [chars_eq, fragmentOf?_append h.frontText.hash_passes, fragmentOf?_append hquery,
    fragmentOf?_fragmentText]

/-- **The names with values of a tidy URL are found in its text.** -/
theorem Tidy.pairs_of (h : Tidy u) : pairsOf u.text = u.pairs := by
  rw [pairsOf, Url.text, String.toList_ofList, h.query_of, pairs]

/-- A tidy URL stays tidy when a name is given a value in its query, if the query's new text has no
    number sign. -/
theorem Tidy.with_query (h : Tidy u) {q : List Char} (hq : '#' ∉ q) : Tidy { u with query := some q } where
  scheme := h.scheme
  username := h.username
  password := h.password
  host := h.host
  path := h.path
  query := by
    intro p hp
    rw [Option.mem_some_iff] at hp
    rwa [← hp]

end Tidy

end Vignette.Url
