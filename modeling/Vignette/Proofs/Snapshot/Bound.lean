import Vignette.Proofs.Program.Within
import Vignette.Proofs.Snapshot.Call

/-!
# What snapshots may do

Every program of a snapshot keeps within narrow bounds, whatever it is answered: it reads and writes
under one key only, it captures in one window, and if it finds fault with a size then that size is its
window or its thumbnail size and deserves it (`SnapshotAction.Bound`). A rendering reads and writes
nothing.

Main statement: **every call keeps within the bounds of its key and its sizes** (`Call.within`).
-/

namespace Vignette

/-! ## 1. Faults of sizes -/

/-- If the failure is about a size, then the size is at fault: it is the window or the thumbnail size and
    has a zero dimension, or it is the thumbnail size and too large. -/
def PictureFailure.Blames (window thumb : Size) : PictureFailure → Prop
  | degenerate size => size.isDegenerate = true ∧ (size = window ∨ size = thumb)
  | oversized size => size.isOversized = true ∧ size = thumb
  | _ => True

section Blames

variable {window thumb : Size} {e : PictureFailure}

theorem Picture.blames_of_cropTo {p : Picture} (h : p.cropTo window = .error e) : e.Blames window thumb := by
  unfold Picture.cropTo at h
  split at h
  · rename_i hd
    cases h
    exact ⟨hd, .inl rfl⟩
  · split at h
    · cases h
      trivial
    · cases h

theorem Format.blames_of_encode {f : Format} {p : Picture} (h : f.encode p = .error e) :
    e.Blames window thumb := by
  unfold Format.encode at h
  split at h
  · cases h
  · cases h
  · split at h
    · cases h
    · cases h
      trivial

/-- **A capture that does not become a thumbnail for its size has a size that is at fault.** -/
theorem Thumbnail.blames_of_make {decode : Decoder} {capture : ByteArray} {format : Format} {crop : Bool}
    {ns : List Note} (h : make decode capture window thumb format crop = (ns, .error e)) : e.Blames window thumb := by
  unfold make at h
  split at h
  · rename_i hd
    cases h
    exact ⟨hd, .inr rfl⟩
  split at h
  · rename_i ho
    cases h
    exact ⟨ho, rfl⟩
  split at h
  · cases h
    trivial
  unfold ofPicture cropped at h
  split at h
  · rename_i hcrop
    rw [Prod.mk.injEq] at h
    exact Format.blames_of_encode h.2
  · rename_i hcrop
    cases h
    split at hcrop
    · split at hcrop
      · cases hcrop
      · rename_i he
        cases hcrop
        exact Picture.blames_of_cropTo he
    · cases hcrop

end Blames

/-! ## 2. Bounds -/

/-- What is done for a key, if there is one, and with a window and a thumbnail size. -/
def SnapshotAction.Bound (key : Option Key) (window thumb : Size) : SnapshotAction → Prop
  | read k => k ∈ key
  | write k _ => k ∈ key
  | capture shot => shot.window = window
  | note (.pictureFailed _ e) => e.Blames window thumb
  | _ => True

/-- The action that left the event. -/
def Event.action : Event → SnapshotAction
  | read key _ => .read key
  | write key payload _ => .write key payload
  | capture shot _ => .capture shot
  | note n => .note n
  | count kind c => .count kind c

/-- All that happened has a property. -/
def Event.All (P : SnapshotAction → Prop) (es : List Event) : Prop := ∀ e ∈ es, P e.action

section All

variable {P : SnapshotAction → Prop} {e : Event} {es fs : List Event}

@[simp] theorem Event.all_nil : Event.All P [] := fun _ h => nomatch h

@[simp] theorem Event.all_cons : Event.All P (e :: es) ↔ P e.action ∧ Event.All P es := List.forall_mem_cons

@[simp] theorem Event.all_append : Event.All P (es ++ fs) ↔ Event.All P es ∧ Event.All P fs :=
  List.forall_mem_append

@[simp] theorem Event.action_of (x : SnapshotAction) (answer : x.Answer) : (Event.of x answer).action = x := by
  cases x <;> rfl

end All

/-- Every action can be answered. -/
theorem SnapshotAction.nonempty_answer (x : SnapshotAction) : Nonempty x.Answer := by
  cases x with
  | read _ => exact ⟨.ok none⟩
  | write _ _ => exact ⟨.ok ()⟩
  | capture _ => exact ⟨.error .empty⟩
  | note _ => exact ⟨()⟩
  | count _ _ => exact ⟨()⟩

/-- A program has a course. -/
theorem Course.exists_course {α : Type} : ∀ p : SnapshotProgram α, ∃ es a, Course p es a
  | .done a => ⟨[], a, rfl, rfl⟩
  | .act x next => by
    obtain ⟨answer⟩ := x.nonempty_answer
    obtain ⟨es, a, h⟩ := exists_course (next answer)
    exact ⟨_, a, answer, es, rfl, h⟩

/-- **What is true of all courses of a program is a bound on the program**, since whatever it does can be
    carried on to its end. -/
theorem Course.within {α : Type} {P : SnapshotAction → Prop} : ∀ {p : SnapshotProgram α},
    (∀ es a, Course p es a → Event.All P es) → p.Within P
  | .done _, _ => trivial
  | .act x next, h => by
    constructor
    · obtain ⟨answer⟩ := x.nonempty_answer
      obtain ⟨es, a, hc⟩ := exists_course (next answer)
      have hall := h _ a ⟨answer, es, rfl, hc⟩
      rw [Event.all_cons, Event.action_of] at hall
      exact hall.1
    · exact fun answer => within fun es a hc =>
        (Event.all_cons.mp (h _ a ⟨answer, es, rfl, hc⟩)).2

/-! ## 3. What snapshots are bound to -/

section Bound

variable {s : Snapshot} {identity : Identity} {key : Key} {window thumb : Size} {es : List Event}

/-- Notes of pictures that fail are warnings. -/
theorem SnapshotAction.bound_note {key : Option Key} {n : Note} (h : n.level ≠ .warn) :
    (note n).Bound key window thumb := by
  cases n <;> trivial

theorem LookupCourse.bound {r : Except StoreFailure (Option ByteArray)} (h : LookupCourse key es r) :
    Event.All (SnapshotAction.Bound (some key) window thumb) es := by
  cases h <;> simp [Event.action, SnapshotAction.Bound]

theorem RenderCourse.bound {key : Option Key} {r : Except RenderFailure ByteArray}
    (h : RenderCourse s identity window thumb es r) :
    Event.All (SnapshotAction.Bound key window thumb) es := by
  have quiet {data : ByteArray} {ns : List Note} {result : Except PictureFailure ByteArray}
      (hm : Thumbnail.make s.decode data window thumb s.format s.crop = (ns, result)) :
      Event.All (SnapshotAction.Bound key window thumb) (ns.map .note) := by
    intro e he
    obtain ⟨n, hn, rfl⟩ := List.mem_map.mp he
    refine SnapshotAction.bound_note fun hw => ?_
    rw [Thumbnail.level_of_mem_make (by rw [hm]; exact hn)] at hw
    cases hw
  cases h with
  | uncaptured e => simp [Event.action, SnapshotAction.Bound, Snapshot.shot]
  | blank data hd => simp [Event.action, SnapshotAction.Bound, Snapshot.shot]
  | verbatim data hd hs => simp [Event.action, SnapshotAction.Bound, Snapshot.shot]
  | unmade data hd hs ns e hm => exact Event.all_cons.mpr ⟨rfl, quiet hm⟩
  | made data hd hs ns payload hm =>
    exact Event.all_cons.mpr ⟨rfl, Event.all_append.mpr ⟨quiet hm, Event.all_cons.mpr ⟨trivial, Event.all_nil⟩⟩⟩

/-- A rendering that fails with a size at fault. -/
theorem RenderCourse.blames {e : PictureFailure}
    (h : RenderCourse s identity window thumb es (.error (.transform e))) : e.Blames window thumb := by
  cases h with
  | unmade _ _ _ _ _ hm => exact Thumbnail.blames_of_make hm

theorem ProduceCourse.bound {r : Except StoreFailure (Option ByteArray)}
    (h : ProduceCourse s identity key window thumb es r) :
    Event.All (SnapshotAction.Bound (some key) window thumb) es := by
  cases h with
  | uncaptured fs e hr => simp [hr.bound, Event.action, SnapshotAction.Bound]
  | unmade fs e hr => simp [hr.bound, hr.blames, Event.action, SnapshotAction.Bound]
  | refused fs payload e hr => simp [hr.bound, Event.action, SnapshotAction.Bound]
  | stored fs payload hr => simp [hr.bound, Event.action, SnapshotAction.Bound]

theorem ComputeCourse.bound {window thumb : Option Size} {force : Bool}
    {r : Except StoreFailure (Option ByteArray)} (h : ComputeCourse s identity window thumb force es r) :
    Event.All (SnapshotAction.Bound (some (s.key window thumb)) (s.windowOf window) (s.thumbOf thumb)) es := by
  cases h with
  | forced _ _ hp => exact hp.bound
  | refused _ e hl => exact hl.bound
  | skipped fs t hl => simp [hl.bound, Event.action, SnapshotAction.Bound]
  | missed fs gs _ hl hp => simp [hl.bound, hp.bound]

theorem GetCourse.bound {thumb : Option Size} {r : Except StoreFailure (Option ByteArray)}
    (h : GetCourse s identity thumb es r) :
    Event.All (SnapshotAction.Bound (some (s.key none thumb)) (s.windowOf none) (s.thumbOf thumb)) es := by
  cases h with
  | refused _ e hl => exact hl.bound
  | hit fs t hl => simp [hl.bound, Event.action, SnapshotAction.Bound]
  | missed fs gs _ hl hp => simp [hl.bound, hp.bound, Event.action, SnapshotAction.Bound]

end Bound

namespace Snapshot

variable (s : Snapshot) (identity : Identity) (window thumb : Option Size)

theorem within_lookup (key : Key) (window thumb : Size) :
    (lookup key).Within (SnapshotAction.Bound (some key) window thumb) :=
  Course.within fun _ _ h => h.lookup.bound

theorem within_cached : (s.cached window thumb).Within
    (SnapshotAction.Bound (some (s.key window thumb)) (s.windowOf window) (s.thumbOf thumb)) :=
  within_lookup _ _ _

theorem within_compute (force : Bool) : (s.compute identity window thumb force).Within
    (SnapshotAction.Bound (some (s.key window thumb)) (s.windowOf window) (s.thumbOf thumb)) :=
  Course.within fun _ _ h => h.compute.bound

theorem within_get : (s.get identity thumb).Within
    (SnapshotAction.Bound (some (s.key none thumb)) (s.windowOf none) (s.thumbOf thumb)) :=
  Course.within fun _ _ h => h.get.bound

theorem within_render (key : Option Key) (window thumb : Size) :
    (s.render identity window thumb).Within (SnapshotAction.Bound key window thumb) :=
  Course.within fun _ _ h => h.render.bound

end Snapshot

namespace Call

/-- The window of a call. -/
def windowFor (s : Snapshot) : Call → Size
  | get .. | lookup _ => s.windowOf none
  | cached window _ => s.windowOf window
  | compute _ window _ _ => s.windowOf window
  | render _ window _ => window

/-- The thumbnail size of a call. -/
def thumbFor (s : Snapshot) : Call → Size
  | get _ thumb => s.thumbOf thumb
  | lookup _ => s.thumbOf none
  | cached _ thumb => s.thumbOf thumb
  | compute _ _ thumb _ => s.thumbOf thumb
  | render _ _ thumb => thumb

/-- **Every call keeps within the bounds of its key and its sizes.** -/
theorem within (s : Snapshot) (c : Call) :
    (c.program s).Within (SnapshotAction.Bound (c.key? s) (c.windowFor s) (c.thumbFor s)) := by
  cases c with
  | get identity thumb => exact (s.within_get identity thumb).bind fun _ => trivial
  | cached window thumb => exact (s.within_cached window thumb).bind fun _ => trivial
  | lookup key => exact (Snapshot.within_lookup key _ _).bind fun _ => trivial
  | compute identity window thumb force =>
    exact (s.within_compute identity window thumb force).bind fun _ => trivial
  | render identity window thumb => exact (s.within_render identity none window thumb).bind fun _ => trivial

end Call

end Vignette
