import Vignette.Proofs.Picture.Encoded
import Vignette.Proofs.Snapshot.Course

/-!
# What a course comes to

An account keeps of the events of a course what was read, captured and written, what was counted, and
what was warned of (`Account`). It leaves out in which order these happened among each other, and the
notes on the way. The account of a course is short, whatever its length:

* a lookup reads once, and its answer is the thumbnail in what was read (`LookupCourse.account`);
* a rendering captures once, and is counted if something came of the capture (`RenderCourse.account`);
* a production captures once too; it either warns of a failure and counts it, or it writes what was
  rendered, once, and counts that if the store takes it (`ProduceCourse.account`).

What comes of a capture is told in advance by `Fruitless` and `Yields`, one of which holds of every
answer of a browser.
-/

namespace Vignette

/-! ## 1. Accounts -/

namespace Event

/-- The read that was made, and its answer. -/
def read? : Event → Option (Key × Except StoreFailure (Option ByteArray))
  | read key answer => some (key, answer)
  | _ => none

/-- The warning that was left. -/
def warning? : Event → Option Note
  | note n => if n.level = .warn then some n else none
  | _ => none

end Event

/-- What was read, captured and written, what was counted, and what was warned of. -/
@[ext] structure Account where
  reads : List (Key × Except StoreFailure (Option ByteArray)) := []
  captures : List (Shot × Except CaptureFailure ByteArray) := []
  writes : List (Key × ByteArray × Except StoreFailure Unit) := []
  counts : Tally := []
  warnings : List Note := []

namespace Account

/-- What events come to. -/
def of (es : List Event) : Account where
  reads := es.filterMap Event.read?
  captures := es.filterMap Event.capture?
  writes := es.filterMap Event.write?
  counts := es.filterMap Event.count?
  warnings := es.filterMap Event.warning?

instance : Append Account where
  append a b :=
    ⟨a.reads ++ b.reads, a.captures ++ b.captures, a.writes ++ b.writes, a.counts ++ b.counts,
      a.warnings ++ b.warnings⟩

@[simp] theorem reads_append (a b : Account) : (a ++ b).reads = a.reads ++ b.reads := rfl

@[simp] theorem captures_append (a b : Account) : (a ++ b).captures = a.captures ++ b.captures := rfl

@[simp] theorem writes_append (a b : Account) : (a ++ b).writes = a.writes ++ b.writes := rfl

@[simp] theorem counts_append (a b : Account) : (a ++ b).counts = a.counts ++ b.counts := rfl

@[simp] theorem warnings_append (a b : Account) : (a ++ b).warnings = a.warnings ++ b.warnings := rfl

@[simp] theorem empty_append (a : Account) : {} ++ a = a := rfl

/-- **What happens in two parts comes to what the parts come to.** -/
theorem of_append (es fs : List Event) : of (es ++ fs) = of es ++ of fs := by
  ext1 <;> exact List.filterMap_append

theorem of_cons (e : Event) (es : List Event) : of (e :: es) = of [e] ++ of es := of_append [e] es

/-- Notes that warn of nothing come to nothing. -/
theorem of_notes {ns : List Note} (h : ∀ n ∈ ns, n.level ≠ .warn) : of (ns.map .note) = {} := by
  induction ns with
  | nil => rfl
  | cons n ns ih =>
    have hn : of [.note n] = {} := by
      ext1 <;> try rfl
      show [Event.note n].filterMap Event.warning? = []
      simp [Event.warning?, h n List.mem_cons_self]
    rw [List.map_cons, of_cons, hn, ih fun m hm => h m (List.mem_cons_of_mem n hm)]
    rfl

end Account

/-! ## 2. Lookups -/

/-- **A lookup reads once, and its answer is the thumbnail in what was read.** -/
theorem LookupCourse.account {key : Key} {es : List Event} {r : Except StoreFailure (Option ByteArray)}
    (h : LookupCourse key es r) :
    ∃ answer, Account.of es = { reads := [(key, answer)] } ∧ r = answer.map thumbnail? := by
  cases h with
  | refused e => exact ⟨.error e, rfl, rfl⟩
  | missed answer h => exact ⟨.ok answer, rfl, congrArg Except.ok h.symm⟩
  | found t h => exact ⟨.ok (some t), rfl, congrArg Except.ok (thumbnail?_of_not_isEmpty h).symm⟩

/-! ## 3. Renderings -/

/-- Nothing comes of what the browser answers, and why: it captured nothing, it captured a blank, or the
    capture cannot be made a thumbnail. -/
inductive Fruitless (s : Snapshot) (window thumb : Size) :
    Except CaptureFailure ByteArray → RenderFailure → Prop where
  | uncaptured (e : CaptureFailure) : Fruitless s window thumb (.error e) (.capture e)
  | blank (data : ByteArray) (hd : data.isEmpty = true) :
      Fruitless s window thumb (.ok data) (.capture .empty)
  | unmade (data : ByteArray) (hd : data.isEmpty = false) (hs : window ≠ thumb) (e : PictureFailure)
      (hm : (Thumbnail.make s.decode data window thumb s.format s.crop).2 = .error e) :
      Fruitless s window thumb (.ok data) (.transform e)

/-- What comes of a capture: itself, if it has the right size already, or else a thumbnail of it. -/
structure Yields (s : Snapshot) (window thumb : Size) (data payload : ByteArray) : Prop where
  captured : data.isEmpty = false
  not_empty : payload.isEmpty = false
  verbatim : window = thumb → payload = data
  made : window ≠ thumb →
    ∃ ns, Thumbnail.make s.decode data window thumb s.format s.crop = (ns, .ok payload)

section Render

variable {s : Snapshot} {identity : Identity} {window thumb : Size} {es : List Event}

/-- **Nothing comes of an answer that something comes of.** -/
theorem Yields.not_fruitless {data payload : ByteArray} {e : RenderFailure}
    (h : Yields s window thumb data payload) : ¬ Fruitless s window thumb (.ok data) e := by
  intro hf
  cases hf with
  | blank _ hd => exact absurd (h.captured.symm.trans hd) Bool.false_ne_true
  | unmade _ _ hs e hm =>
    obtain ⟨ns, hns⟩ := h.made hs
    rw [hns] at hm
    cases hm

/-- What a rendering may come to. -/
inductive Rendered (s : Snapshot) (identity : Identity) (window thumb : Size) :
    Account → Except RenderFailure ByteArray → Prop where
  | fruitless (answer : Except CaptureFailure ByteArray) (e : RenderFailure)
      (hf : Fruitless s window thumb answer e) :
      Rendered s identity window thumb { captures := [(s.shot identity window, answer)] } (.error e)
  | yielded (data payload : ByteArray) (hy : Yields s window thumb data payload) :
      Rendered s identity window thumb
        { captures := [(s.shot identity window, .ok data)], counts := [(s.request.kind, .render)] }
        (.ok payload)

/-- **A rendering captures once, and is counted if something came of the capture.** -/
theorem RenderCourse.account {r : Except RenderFailure ByteArray}
    (h : RenderCourse s identity window thumb es r) :
    Rendered s identity window thumb (Account.of es) r := by
  -- the notes on the way to a thumbnail are for those who look closely
  have quiet {data : ByteArray} {ns : List Note} {result : Except PictureFailure ByteArray}
      (hm : Thumbnail.make s.decode data window thumb s.format s.crop = (ns, result)) :
      Account.of (ns.map .note) = {} := by
    refine Account.of_notes fun n hn hw => ?_
    rw [Thumbnail.level_of_mem_make (by rw [hm]; exact hn)] at hw
    cases hw
  cases h with
  | uncaptured e => exact .fruitless (.error e) _ (.uncaptured e)
  | blank data hd => exact .fruitless (.ok data) _ (.blank data hd)
  | verbatim data hd hs => exact .yielded data data ⟨hd, hd, fun _ => rfl, fun hne => absurd hs hne⟩
  | unmade data hd hs ns e hm =>
    rw [Account.of_cons, quiet hm]
    exact .fruitless (.ok data) _ (.unmade data hd hs e (by rw [hm]))
  | made data hd hs ns payload hm =>
    rw [Account.of_cons, Account.of_append, quiet hm]
    have hne : payload.isEmpty = false := (Thumbnail.depicts_of_make hm).not_isEmpty
    exact .yielded data payload ⟨hd, hne, fun he => absurd he hs, fun _ => ⟨ns, hm⟩⟩

end Render

/-! ## 4. Productions -/

/-- What a failed rendering is counted as. -/
def RenderFailure.counter : RenderFailure → Counter
  | capture _ => .captureFailure
  | transform _ => .pictureFailure

/-- What is warned of when a rendering for a key fails. -/
def RenderFailure.warning (key : Key) : RenderFailure → Note
  | capture e => .captureFailed key e
  | transform e => .pictureFailed key e

/-- What counts of a write, by its answer. -/
def storedCounts (kind : Kind) : Except StoreFailure Unit → Tally
  | .ok _ => [(kind, .stored)]
  | .error _ => []

section Produce

variable {s : Snapshot} {identity : Identity} {key : Key} {window thumb : Size} {es : List Event}
  {r : Except StoreFailure (Option ByteArray)}

/-- What a production may come to. -/
inductive Produced (s : Snapshot) (identity : Identity) (key : Key) (window thumb : Size) :
    Account → Except StoreFailure (Option ByteArray) → Prop where
  | fruitless (answer : Except CaptureFailure ByteArray) (e : RenderFailure)
      (hf : Fruitless s window thumb answer e) :
      Produced s identity key window thumb
        { captures := [(s.shot identity window, answer)], counts := [(s.request.kind, e.counter)],
          warnings := [e.warning key] } (.ok none)
  | written (data payload : ByteArray) (hy : Yields s window thumb data payload)
      (reply : Except StoreFailure Unit) :
      Produced s identity key window thumb
        { captures := [(s.shot identity window, .ok data)], writes := [(key, payload, reply)],
          counts := (s.request.kind, .render) :: storedCounts s.request.kind reply }
        (reply.map fun _ => some payload)

/-- What a production comes to is what its rendering and what happens after that come to. -/
theorem Account.of_processing (key : Key) (es fs : List Event) :
    of (.note (.processing key) :: (es ++ fs)) = of es ++ of fs := of_append es fs

/-- **A production captures once; it either warns of a failure and counts it, or it writes what was
    rendered, and counts that if the store takes it.** -/
theorem ProduceCourse.account (h : ProduceCourse s identity key window thumb es r) :
    Produced s identity key window thumb (Account.of es) r := by
  cases h with
  | uncaptured fs e hr =>
    have ha := hr.account
    rw [Account.of_processing]
    generalize Account.of fs = a at ha ⊢
    cases ha with
    | fruitless answer _ hf => exact .fruitless answer _ hf
  | unmade fs e hr =>
    have ha := hr.account
    rw [Account.of_processing]
    generalize Account.of fs = a at ha ⊢
    cases ha with
    | fruitless answer _ hf => exact .fruitless answer _ hf
  | refused fs payload e hr =>
    have ha := hr.account
    rw [Account.of_processing]
    generalize Account.of fs = a at ha ⊢
    cases ha with
    | yielded data _ hy => exact .written data payload hy (.error e)
  | stored fs payload hr =>
    have ha := hr.account
    rw [Account.of_processing]
    generalize Account.of fs = a at ha ⊢
    cases ha with
    | yielded data _ hy => exact .written data payload hy (.ok ())

/-- A production reads nothing. -/
theorem Produced.reads {a : Account} (h : Produced s identity key window thumb a r) : a.reads = [] := by
  cases h <;> rfl

/-- **What a production writes came of its capture, and is written under its key.** -/
theorem Produced.of_write {a : Account} {k : Key} {payload : ByteArray} {reply : Except StoreFailure Unit}
    (h : Produced s identity key window thumb a r) (hw : (k, payload, reply) ∈ a.writes) :
    k = key ∧ ∃ data, a.captures = [(s.shot identity window, .ok data)] ∧
      Yields s window thumb data payload := by
  cases h with
  | fruitless => cases hw
  | written data made hy answer =>
    cases List.mem_singleton.mp hw
    exact ⟨rfl, data, rfl, hy⟩

end Produce

end Vignette
