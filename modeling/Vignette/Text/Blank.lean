/-!
# White space, and text without it at the ends

Size texts and cookie names are read after the white space around them is taken off. White space
is the Unicode property `White_Space`; it is a set of twenty-five code points, written out here.

* `isBlank c` -- `c` has the property;
* `trimStart`, `trimEnd`, `trim` -- the text without its blank start, end, both.

The READING of a trimmed text: it is the middle part of the text, and it neither starts nor ends
with a blank (`trim_append`, `trimStart_head`).
-/

namespace Vignette.Text

/-! ## 1. The class -/

/-- The code points with the property `White_Space`. -/
def isBlank (c : Char) : Bool :=
  let n := c.toNat
  (9 ≤ n && n ≤ 13) || n == 0x20 || n == 0x85 || n == 0xA0 || n == 0x1680 ||
    (0x2000 ≤ n && n ≤ 0x200A) || n == 0x2028 || n == 0x2029 || n == 0x202F || n == 0x205F ||
    n == 0x3000

/-! ## 2. Trimming -/

/-- The text from its first character that is no blank. -/
def trimStart (s : List Char) : List Char := s.dropWhile isBlank

/-- The text up to its last character that is no blank. -/
def trimEnd (s : List Char) : List Char := (s.reverse.dropWhile isBlank).reverse

/-- The text without the blanks around it. -/
def trim (s : List Char) : List Char := trimEnd (trimStart s)

@[simp] theorem trimStart_nil : trimStart [] = [] := rfl

@[simp] theorem trimEnd_nil : trimEnd [] = [] := rfl

/-- A text that starts with a character that is no blank keeps its start. -/
theorem trimStart_cons {c : Char} (s : List Char) (h : isBlank c = false) :
    trimStart (c :: s) = c :: s := by
  simp [trimStart, List.dropWhile, h]

/-- A trimmed start is no blank. -/
theorem trimStart_head : ∀ (s : List Char) (c : Char) (r : List Char),
    trimStart s = c :: r → isBlank c = false
  | [], _, _, h => by simp at h
  | d :: s, c, r, h => by
    by_cases hd : isBlank d = true
    · have h' : trimStart s = c :: r := by simpa [trimStart, List.dropWhile, hd] using h
      exact trimStart_head s c r h'
    · have hd' : isBlank d = false := by simpa using hd
      rw [trimStart_cons s hd'] at h
      cases h
      exact hd'

/-- **Trimming loses blanks only**: the text is a blank part, the trimmed start, in this order. -/
theorem trimStart_append : ∀ (s : List Char),
    ∃ p, s = p ++ trimStart s ∧ ∀ c ∈ p, isBlank c = true
  | [] => ⟨[], rfl, by simp⟩
  | d :: s => by
    by_cases hd : isBlank d = true
    · obtain ⟨p, hp, hb⟩ := trimStart_append s
      refine ⟨d :: p, ?_, ?_⟩
      · have : trimStart (d :: s) = trimStart s := by simp [trimStart, List.dropWhile, hd]
        rw [this]
        simpa using hp
      · intro c hc
        rcases List.mem_cons.mp hc with rfl | hc
        · exact hd
        · exact hb c hc
    · have hd' : isBlank d = false := by simpa using hd
      exact ⟨[], by rw [trimStart_cons s hd']; rfl, by simp⟩

/-- The trimmed end is the trimmed start of the text read backwards. -/
theorem trimEnd_eq (s : List Char) : trimEnd s = (trimStart s.reverse).reverse := rfl

/-- **The trimmed text is the middle of the text, between two blank parts.** -/
theorem trim_append (s : List Char) :
    ∃ p q, s = p ++ trim s ++ q ∧ (∀ c ∈ p, isBlank c = true) ∧ ∀ c ∈ q, isBlank c = true := by
  obtain ⟨p, hp, hpb⟩ := trimStart_append s
  obtain ⟨q, hq, hqb⟩ := trimStart_append (trimStart s).reverse
  refine ⟨p, q.reverse, ?_, hpb, by simpa using hqb⟩
  have h : trimStart s = trim s ++ q.reverse := by
    have := congrArg List.reverse hq
    simpa [trim, trimEnd_eq] using this
  rw [List.append_assoc, ← h]
  exact hp

end Vignette.Text
