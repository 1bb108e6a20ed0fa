import Vignette.World

/-!
# The courses of programs

How a program of a snapshot goes on depends on the answers that it gets. A *course* is a list of
events that a program may leave, and the result that it then has (`Course`). The courses of the
programs are written down one by one, each with a name for what happens in it:

* `LookupCourse` -- the store refuses, has nothing, or has a thumbnail;
* `RenderCourse` -- the page is not captured, the capture is blank, it is taken as it is, or it is
  made a thumbnail or not;
* `ProduceCourse` -- a rendering and what follows from it, up to the write;
* `ComputeCourse`, `GetCourse` -- a lookup, if there is one, and what follows from it.

Main statements: **every course of a program is one of those** (`Course.lookup`, `Course.render`,
`Course.produce`, `Course.compute`, `Course.get`). What is shown about runs is shown about courses
first, and no proof opens a program after this.
-/

namespace Vignette

/-! ## 1. Courses -/

/-- The event that an action leaves with its answer. -/
def Event.of : (x : SnapshotAction) → x.Answer → Event
  | .read key, r => .read key r
  | .write key payload, r => .write key payload r
  | .capture shot, r => .capture shot r
  | .note n, _ => .note n
  | .count kind c, _ => .count kind c

/-- Events that a program may leave, and the result that it then has. -/
def Course {α : Type} : SnapshotProgram α → List Event → α → Prop
  | .done b, es, a => es = [] ∧ a = b
  | .act x next, es, a =>
    ∃ (answer : x.Answer) (rest : List Event), es = .of x answer :: rest ∧ Course (next answer) rest a

namespace Course

variable {α β : Type}

/-- **A course of programs put together is a course of the one and then one of the other.** -/
theorem of_bind {f : α → SnapshotProgram β} {b : β} :
    ∀ {p : SnapshotProgram α} {es : List Event}, Course (p >>= f) es b →
      ∃ first a rest, es = first ++ rest ∧ Course p first a ∧ Course (f a) rest b
  | .done a, es, h => ⟨[], a, es, rfl, ⟨rfl, rfl⟩, h⟩
  | .act x next, es, h => by
    obtain ⟨answer, rest, rfl, h⟩ := h
    obtain ⟨first, a, last, rfl, hp, hf⟩ := of_bind h
    exact ⟨.of x answer :: first, a, last, rfl, ⟨answer, first, rfl, hp⟩, hf⟩

/-- Notes are left in their order, and nothing else is done. -/
theorem of_notes {f : Unit → SnapshotProgram β} {b : β} :
    ∀ {ns : List Note} {es : List Event}, Course (SnapshotProgram.notes ns >>= f) es b →
      ∃ rest, es = ns.map .note ++ rest ∧ Course (f ()) rest b
  | [], es, h => ⟨es, rfl, h⟩
  | n :: ns, es, h => by
    obtain ⟨_, rest, rfl, h⟩ := h
    obtain ⟨last, rfl, hl⟩ := of_notes h
    exact ⟨last, rfl, hl⟩

end Course

/-! ## 2. Looking into the store -/

/-- The thumbnail in what the store answers: empty bytes are none. -/
def thumbnail? (answer : Option ByteArray) : Option ByteArray := answer.filter (!·.isEmpty)

theorem thumbnail?_of_isEmpty {t : ByteArray} (h : t.isEmpty = true) : thumbnail? (some t) = none := by
  simp [thumbnail?, h]

theorem thumbnail?_of_not_isEmpty {t : ByteArray} (h : t.isEmpty = false) :
    thumbnail? (some t) = some t := by
  simp [thumbnail?, h]

theorem thumbnail?_eq_some {answer : Option ByteArray} {t : ByteArray} :
    thumbnail? answer = some t ↔ answer = some t ∧ t.isEmpty = false := by
  simp [thumbnail?]

theorem thumbnail?_eq_none {answer : Option ByteArray} :
    thumbnail? answer = none ↔ answer = none ∨ ∃ t, answer = some t ∧ t.isEmpty = true := by
  cases answer <;> simp [thumbnail?]

/-- The courses of `Snapshot.lookup`. -/
inductive LookupCourse (key : Key) :
    List Event → Except StoreFailure (Option ByteArray) → Prop where
  | refused (e : StoreFailure) :
      LookupCourse key [.note (.lookup key), .read key (.error e)] (.error e)
  | missed (answer : Option ByteArray) (h : thumbnail? answer = none) :
      LookupCourse key [.note (.lookup key), .read key (.ok answer), .note (.missing key)] (.ok none)
  | found (t : ByteArray) (h : t.isEmpty = false) :
      LookupCourse key [.note (.lookup key), .read key (.ok (some t))] (.ok (some t))

/-- **The courses of a lookup.** -/
theorem Course.lookup {key : Key} {es : List Event} {r : Except StoreFailure (Option ByteArray)}
    (h : Course (Snapshot.lookup key) es r) : LookupCourse key es r := by
  obtain ⟨_, _, rfl, h⟩ := h
  obtain ⟨answer, _, rfl, h⟩ := h
  rcases answer with e | _ | t
  · obtain ⟨rfl, rfl⟩ := h
    exact .refused e
  · obtain ⟨_, _, rfl, h⟩ := h
    obtain ⟨rfl, rfl⟩ := h
    exact .missed none rfl
  · change Course (if t.isEmpty then _ else _) _ _ at h
    split at h
    · rename_i ht
      obtain ⟨_, _, rfl, h⟩ := h
      obtain ⟨rfl, rfl⟩ := h
      exact .missed (some t) (thumbnail?_of_isEmpty ht)
    · rename_i ht
      obtain ⟨rfl, rfl⟩ := h
      exact .found t (by simpa using ht)

/-! ## 3. Rendering -/

/-- The courses of `Snapshot.render`. -/
inductive RenderCourse (s : Snapshot) (identity : Identity) (window thumb : Size) :
    List Event → Except RenderFailure ByteArray → Prop where
  | uncaptured (e : CaptureFailure) :
      RenderCourse s identity window thumb [.capture (s.shot identity window) (.error e)]
        (.error (.capture e))
  | blank (data : ByteArray) (hd : data.isEmpty = true) :
      RenderCourse s identity window thumb [.capture (s.shot identity window) (.ok data)]
        (.error (.capture .empty))
  | verbatim (data : ByteArray) (hd : data.isEmpty = false) (hs : window = thumb) :
      RenderCourse s identity window thumb
        [.capture (s.shot identity window) (.ok data), .count s.request.kind .render] (.ok data)
  | unmade (data : ByteArray) (hd : data.isEmpty = false) (hs : window ≠ thumb) (ns : List Note)
      (e : PictureFailure)
      (hm : Thumbnail.make s.decode data window thumb s.format s.crop = (ns, .error e)) :
      RenderCourse s identity window thumb
        (.capture (s.shot identity window) (.ok data) :: ns.map .note) (.error (.transform e))
  | made (data : ByteArray) (hd : data.isEmpty = false) (hs : window ≠ thumb) (ns : List Note)
      (payload : ByteArray)
      (hm : Thumbnail.make s.decode data window thumb s.format s.crop = (ns, .ok payload)) :
      RenderCourse s identity window thumb
        (.capture (s.shot identity window) (.ok data) ::
          (ns.map .note ++ [.count s.request.kind .render])) (.ok payload)

variable {s : Snapshot} {identity : Identity} {es : List Event}

/-- What follows on a capture, in a course of a rendering. -/
theorem Course.finish {window thumb : Size} {data : ByteArray} {r : Except RenderFailure ByteArray}
    (h : Course (s.finish window thumb data) es r) :
    RenderCourse s identity window thumb (.capture (s.shot identity window) (.ok data) :: es) r := by
  unfold Snapshot.finish at h
  split at h
  · rename_i hd
    obtain ⟨rfl, rfl⟩ := h
    exact .blank data hd
  rename_i hd
  have hd : data.isEmpty = false := by simpa using hd
  split at h
  · rename_i hs
    obtain ⟨_, _, rfl, h⟩ := h
    obtain ⟨rfl, rfl⟩ := h
    exact .verbatim data hd hs
  · rename_i hs
    cases hm : Thumbnail.make s.decode data window thumb s.format s.crop with
    | mk ns result =>
      rw [hm] at h
      obtain ⟨rest, rfl, hn⟩ := of_notes h
      cases result with
      | error e =>
        obtain ⟨rfl, rfl⟩ := hn
        rw [List.append_nil]
        exact .unmade data hd hs ns e hm
      | ok payload =>
        obtain ⟨_, _, rfl, hn⟩ := hn
        obtain ⟨rfl, rfl⟩ := hn
        exact .made data hd hs ns payload hm

/-- **The courses of a rendering.** -/
theorem Course.render {window thumb : Size} {r : Except RenderFailure ByteArray}
    (h : Course (s.render identity window thumb) es r) :
    RenderCourse s identity window thumb es r := by
  obtain ⟨answer, rest, rfl, h⟩ := h
  cases answer with
  | error e =>
    obtain ⟨rfl, rfl⟩ := h
    exact .uncaptured e
  | ok data => exact h.finish

/-! ## 4. Producing -/

/-- The courses of `Snapshot.produce`. -/
inductive ProduceCourse (s : Snapshot) (identity : Identity) (key : Key) (window thumb : Size) :
    List Event → Except StoreFailure (Option ByteArray) → Prop where
  | uncaptured (es : List Event) (e : CaptureFailure)
      (hr : RenderCourse s identity window thumb es (.error (.capture e))) :
      ProduceCourse s identity key window thumb
        (.note (.processing key) :: (es ++ [.note (.captureFailed key e),
          .count s.request.kind .captureFailure])) (.ok none)
  | unmade (es : List Event) (e : PictureFailure)
      (hr : RenderCourse s identity window thumb es (.error (.transform e))) :
      ProduceCourse s identity key window thumb
        (.note (.processing key) :: (es ++ [.note (.pictureFailed key e),
          .count s.request.kind .pictureFailure])) (.ok none)
  | refused (es : List Event) (payload : ByteArray) (e : StoreFailure)
      (hr : RenderCourse s identity window thumb es (.ok payload)) :
      ProduceCourse s identity key window thumb
        (.note (.processing key) :: (es ++ [.note (.storing key), .write key payload (.error e)]))
        (.error e)
  | stored (es : List Event) (payload : ByteArray)
      (hr : RenderCourse s identity window thumb es (.ok payload)) :
      ProduceCourse s identity key window thumb
        (.note (.processing key) :: (es ++ [.note (.storing key), .write key payload (.ok ()),
          .count s.request.kind .stored, .note (.stored key)])) (.ok (some payload))

/-- **The courses of a production.** -/
theorem Course.produce {key : Key} {window thumb : Size}
    {r : Except StoreFailure (Option ByteArray)}
    (h : Course (s.produce identity key window thumb) es r) :
    ProduceCourse s identity key window thumb es r := by
  obtain ⟨_, _, rfl, h⟩ := h
  change Course (s.render identity window thumb >>= _) _ _ at h
  obtain ⟨first, rendered, rest, rfl, hr, h1⟩ := of_bind h
  replace hr := hr.render
  rcases rendered with (e | e) | payload
  · obtain ⟨_, _, rfl, h1⟩ := h1
    obtain ⟨_, _, rfl, h1⟩ := h1
    obtain ⟨rfl, rfl⟩ := h1
    exact .uncaptured first e hr
  · obtain ⟨_, _, rfl, h1⟩ := h1
    obtain ⟨_, _, rfl, h1⟩ := h1
    obtain ⟨rfl, rfl⟩ := h1
    exact .unmade first e hr
  · obtain ⟨_, _, rfl, h1⟩ := h1
    obtain ⟨answer, _, rfl, h1⟩ := h1
    cases answer with
    | error e =>
      obtain ⟨rfl, rfl⟩ := h1
      exact .refused first payload e hr
    | ok _ =>
      obtain ⟨_, _, rfl, h1⟩ := h1
      obtain ⟨_, _, rfl, h1⟩ := h1
      obtain ⟨rfl, rfl⟩ := h1
      exact .stored first payload hr

/-! ## 5. Computing and getting -/

/-- The courses of `Snapshot.compute`. -/
inductive ComputeCourse (s : Snapshot) (identity : Identity) (window thumb : Option Size) :
    Bool → List Event → Except StoreFailure (Option ByteArray) → Prop where
  | forced (es : List Event) (r : Except StoreFailure (Option ByteArray))
      (hp : ProduceCourse s identity (s.key window thumb) (s.windowOf window) (s.thumbOf thumb) es r) :
      ComputeCourse s identity window thumb true es r
  | refused (es : List Event) (e : StoreFailure)
      (hl : LookupCourse (s.key window thumb) es (.error e)) :
      ComputeCourse s identity window thumb false es (.error e)
  | skipped (es : List Event) (t : ByteArray)
      (hl : LookupCourse (s.key window thumb) es (.ok (some t))) :
      ComputeCourse s identity window thumb false
        (es ++ [.note (.skipped (s.key window thumb)), .count s.request.kind .skip]) (.ok none)
  | missed (es fs : List Event) (r : Except StoreFailure (Option ByteArray))
      (hl : LookupCourse (s.key window thumb) es (.ok none))
      (hp : ProduceCourse s identity (s.key window thumb) (s.windowOf window) (s.thumbOf thumb) fs r) :
      ComputeCourse s identity window thumb false (es ++ fs) r

/-- **The courses of a computation.** -/
theorem Course.compute {window thumb : Option Size} {force : Bool}
    {r : Except StoreFailure (Option ByteArray)}
    (h : Course (s.compute identity window thumb force) es r) :
    ComputeCourse s identity window thumb force es r := by
  cases force with
  | true => exact .forced es r h.produce
  | false =>
    obtain ⟨first, answer, rest, rfl, hl, h1⟩ := of_bind h
    replace hl := hl.lookup
    rcases answer with e | _ | t
    · obtain ⟨rfl, rfl⟩ := h1
      rw [List.append_nil]
      exact .refused first e hl
    · exact .missed first rest r hl h1.produce
    · obtain ⟨_, _, rfl, h1⟩ := h1
      obtain ⟨_, _, rfl, h1⟩ := h1
      obtain ⟨rfl, rfl⟩ := h1
      exact .skipped first t hl

/-- The courses of `Snapshot.get`. -/
inductive GetCourse (s : Snapshot) (identity : Identity) (thumb : Option Size) :
    List Event → Except StoreFailure (Option ByteArray) → Prop where
  | refused (es : List Event) (e : StoreFailure)
      (hl : LookupCourse (s.key none thumb) es (.error e)) :
      GetCourse s identity thumb es (.error e)
  | hit (es : List Event) (t : ByteArray)
      (hl : LookupCourse (s.key none thumb) es (.ok (some t))) :
      GetCourse s identity thumb
        (es ++ [.note (.loaded (s.key none thumb)), .count s.request.kind .hit]) (.ok (some t))
  | missed (es fs : List Event) (r : Except StoreFailure (Option ByteArray))
      (hl : LookupCourse (s.key none thumb) es (.ok none))
      (hp : ProduceCourse s identity (s.key none thumb) (s.windowOf none) (s.thumbOf thumb) fs r) :
      GetCourse s identity thumb (es ++ .count s.request.kind .miss :: fs) r

/-- **The courses of getting a thumbnail.** -/
theorem Course.get {thumb : Option Size} {r : Except StoreFailure (Option ByteArray)}
    (h : Course (s.get identity thumb) es r) : GetCourse s identity thumb es r := by
  obtain ⟨first, answer, rest, rfl, hl, h1⟩ := of_bind h
  replace hl := hl.lookup
  rcases answer with e | _ | t
  · obtain ⟨rfl, rfl⟩ := h1
    rw [List.append_nil]
    exact .refused first e hl
  · obtain ⟨_, rest, rfl, h1⟩ := h1
    -- what is computed here is forced, so it does not look into the store again
    have hp : ProduceCourse s identity (s.key none thumb) (s.windowOf none) (s.thumbOf thumb) rest r :=
      Course.produce h1
    exact .missed first rest r hl hp
  · obtain ⟨_, _, rfl, h1⟩ := h1
    obtain ⟨_, _, rfl, h1⟩ := h1
    obtain ⟨rfl, rfl⟩ := h1
    exact .hit first t hl

end Vignette
