import Vignette.Key

/-!
# The store in memory

A store keeps bytes under keys; what is stored under a key replaces what was there. The keys stand in
the order in which they were first used.

Main statements: **what is put under a key is found under it** (`get?_put_self`) and **nothing
changes under other keys** (`get?_put_of_ne`).
-/

namespace Vignette

/-- Bytes under keys; no key is there twice. -/
structure Store where
  entries : List (Key × ByteArray)

namespace Store

/-- A store with nothing in it. -/
def empty : Store := ⟨[]⟩

/-- The number of keys. -/
def size (s : Store) : Nat := s.entries.length

/-- What is stored under a key. -/
def get? (s : Store) (key : Key) : Option ByteArray := s.entries.lookup key

/-- Is anything stored under a key? -/
def contains (s : Store) (key : Key) : Bool := (s.get? key).isSome

/-- `put` on the list of entries. -/
def putEntry (key : Key) (payload : ByteArray) : List (Key × ByteArray) → List (Key × ByteArray)
  | [] => [(key, payload)]
  | e :: rest => if e.1 = key then (key, payload) :: rest else e :: putEntry key payload rest

/-- The store with bytes under a key, whatever was there. -/
def put (s : Store) (key : Key) (payload : ByteArray) : Store := ⟨putEntry key payload s.entries⟩

theorem lookup_putEntry (key other : Key) (payload : ByteArray) (es : List (Key × ByteArray)) :
    (putEntry key payload es).lookup other =
      if other = key then some payload else es.lookup other := by
  induction es with
  | nil =>
    by_cases h : other = key
    · simp [putEntry, h]
    · have h1 : (other == key) = false := by simpa using h
      simp [putEntry, List.lookup_cons, h, h1]
  | cons e rest ih =>
    obtain ⟨k, old⟩ := e
    by_cases he : k = key
    · subst he
      by_cases h : other = k
      · simp [putEntry, h]
      · have h1 : (other == k) = false := by simpa using h
        simp [putEntry, List.lookup_cons, h, h1]
    · by_cases h : other = k
      · subst h
        simp [putEntry, he]
      · have h1 : (other == k) = false := by simpa using h
        simp [putEntry, he, List.lookup_cons, h1, ih]

/-- What is found after a change. -/
theorem get?_put (s : Store) (key other : Key) (payload : ByteArray) :
    (s.put key payload).get? other = if other = key then some payload else s.get? other :=
  lookup_putEntry key other payload s.entries

/-- **What is put under a key is found under it.** -/
@[simp] theorem get?_put_self (s : Store) (key : Key) (payload : ByteArray) :
    (s.put key payload).get? key = some payload := by simp [get?_put]

/-- **Nothing changes under other keys.** -/
theorem get?_put_of_ne (s : Store) {key other : Key} (payload : ByteArray) (h : other ≠ key) :
    (s.put key payload).get? other = s.get? other := by simp [get?_put, h]

end Store

end Vignette
