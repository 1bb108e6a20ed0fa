/-!
# Paths

A path is a text in which slashes part the names of folders and of the file in them. Empty pieces and
single dots do not count, so one place has many paths; the text is kept as it was given, since that
is how a path is shown.

Main statement: **a name that is joined to a path is its last name** (`names_join`).
-/

namespace Vignette

/-- A path, as it was given. -/
structure Path where
  text : String
  deriving DecidableEq, Repr

namespace Path

/-! ## 1. Pieces -/

/-- The pieces between slashes; there is always one. -/
def split : List Char → List (List Char)
  | [] => [[]]
  | c :: rest =>
    if c = '/' then [] :: split rest
    else
      match split rest with
      | [] => [[c]]
      | piece :: pieces => (c :: piece) :: pieces

/-- Is the piece a name? -/
def isName (piece : List Char) : Bool := piece != [] && piece != ['.']

/-- The names of a path, from left to right; two dots lead back out of a folder. -/
def names (p : Path) : List (List Char) := (split p.text.toList).filter isName

/-- Does the path begin at the root of all files? -/
def isAbsolute (p : Path) : Bool := p.text.toList.head? == some '/'

/-- Is the path's last piece one that only a folder can have? -/
def isFolder (p : Path) : Bool :=
  match (split p.text.toList).getLast? with
  | some piece => !isName piece || piece == ['.', '.']
  | none => true

/-! ## 2. Joining -/

/-- The text that a name is put behind. -/
def opening (s : List Char) : List Char :=
  if s = [] ∨ s.getLast? = some '/' then s else s ++ ['/']

/-- The path of a name in a folder. -/
def join (folder : Path) (name : String) : Path :=
  ⟨String.ofList (opening folder.text.toList) ++ name⟩

/-- Pieces with slashes between them. -/
def unsplit : List (List Char) → List Char
  | [] => []
  | [piece] => piece
  | piece :: pieces => piece ++ '/' :: unsplit pieces

/-- The path of the folder that a path's last name is in. -/
def parent (p : Path) : Path :=
  let pieces := (split p.text.toList).reverse.dropWhile fun piece => !isName piece
  ⟨String.ofList (unsplit pieces.tail.reverse)⟩

/-! ## 3. Names of a joined path -/

theorem split_ne_nil (s : List Char) : split s ≠ [] := by
  cases s with
  | nil => simp [split]
  | cons c rest =>
    unfold split
    split
    · simp
    · split <;> simp

theorem split_append_slash (s rest : List Char) :
    split (s ++ '/' :: rest) = split s ++ split rest := by
  induction s with
  | nil => simp [split]
  | cons c s ih =>
    by_cases h : c = '/'
    · simp [split, h, ih]
    · rw [List.cons_append, split, if_neg h, ih, split, if_neg h]
      cases hs : split s with
      | nil => exact absurd hs (split_ne_nil s)
      | cons piece pieces => rfl

theorem split_of_not_mem {name : List Char} (h : '/' ∉ name) : split name = [name] := by
  induction name with
  | nil => rfl
  | cons c rest ih =>
    have hc : c ≠ '/' := fun e => h (by simp [e])
    rw [split, if_neg hc, ih fun hm => h (List.mem_cons_of_mem _ hm)]

/-- The pieces in front of what is put behind a path. -/
theorem split_opening_append (s : List Char) {name : List Char} (h : '/' ∉ name) :
    ((split (opening s ++ name)).filter isName) =
      (split s).filter isName ++ [name].filter isName := by
  unfold opening
  split
  next hs =>
    rcases hs with rfl | hs
    · simp [split_of_not_mem h, split, isName]
    · obtain ⟨t, rfl⟩ : ∃ t, s = t ++ ['/'] := by
        rw [List.getLast?_eq_some_iff] at hs
        exact hs
      rw [List.append_assoc, List.singleton_append, split_append_slash, split_append_slash,
        split_of_not_mem h, List.filter_append, List.filter_append]
      simp [split, isName]
  next =>
    rw [List.append_assoc, List.singleton_append, split_append_slash, split_of_not_mem h,
      List.filter_append]

/-- **A name that is joined to a path is its last name.** -/
theorem names_join (folder : Path) {name : String} (h : '/' ∉ name.toList)
    (hn : isName name.toList = true) : (folder.join name).names = folder.names ++ [name.toList] := by
  rw [names, join, String.toList_append, String.toList_ofList, split_opening_append _ h]
  simp [names, hn]

end Path

end Vignette
