import Mathlib.Data.List.Basic
import Mathlib.Data.List.Flatten
import Vignette.Proofs.Browser.Plan

/-!
# Sessions close what they open

What a session opened is closed on every way out. Its course tells which steps are taken for it: those
that succeeded are undone, from the last one on (`Outcomes.course_eq`), no step is taken twice
(`Outcomes.nodup_course`), and what comes of it depends on the steps of the plan only
(`Outcomes.verdict_congr`). What is there at a time is followed through the steps (`Outcomes.remains`).

Main statement: **a session whose steps are all answered follows its course and reports the first
failure of the plan, or else the picture; if a step is not answered, it reports that the time is over;
and nothing is left behind in either case** (`session_closes`).
-/

namespace Vignette

/-! ## 1. The course of a session -/

namespace Outcomes

variable {o : Outcomes} {x y : BrowserStep} {steps : List BrowserStep}

/-- The steps of a plan before the first that does not succeed. -/
def opened (o : Outcomes) (steps : List BrowserStep) : List BrowserStep := steps.takeWhile o.succeeds

/-- The first step of a plan that does not succeed, if there is one. -/
def stopped (o : Outcomes) (steps : List BrowserStep) : List BrowserStep :=
  (steps.dropWhile o.succeeds).take 1


/-- **The steps that succeed, the one that does not, and what closes the former, from the last on.** -/
theorem course_eq (o : Outcomes) (steps : List BrowserStep) :
    o.course steps = o.opened steps ++ o.stopped steps ++ (o.opened steps).reverse.flatMap o.undo := by
  induction steps with
  | nil => rfl
  | cons x rest ih =>
    cases hx : o.succeeds x with
    | true => simp [course_of_succeeds hx, ih, opened, stopped, hx]
    | false => simp [course_of_fails hx, opened, stopped, hx]

/-- The steps that are taken toward the picture are steps of the plan, in its order. -/
theorem opened_append_stopped_sublist :
    (o.opened steps ++ o.stopped steps).Sublist steps := by
  have h := (List.Sublist.refl (o.opened steps)).append (List.take_sublist 1 (steps.dropWhile o.succeeds))
  rwa [opened, List.takeWhile_append_dropWhile] at h

/-- What is no step of the plan is taken just to close something. -/
theorem mem_course_iff (h : y ∉ steps) :
    y ∈ o.course steps ↔ ∃ x ∈ o.opened steps, y ∈ o.undo x := by
  have htaken : y ∉ o.opened steps ++ o.stopped steps :=
    fun hy => h (opened_append_stopped_sublist.mem hy)
  rw [course_eq, List.mem_append, or_iff_right htaken]
  simp only [List.mem_flatMap, List.mem_reverse]

theorem note_of_mem_complaint (h : y ∈ o.complaint) : ∃ n, y = .note n := by
  rw [complaint] at h
  split at h
  · exact ⟨_, List.mem_singleton.mp h⟩
  · cases h

theorem not_mem_complaint (h : ∀ n, y ≠ .note n) : y ∉ o.complaint := fun hy =>
  have ⟨n, hn⟩ := note_of_mem_complaint hy
  h n hn

theorem closePage_mem_undo_iff : .closePage ∈ o.undo x ↔ x = .openPage := by
  cases x <;> simp [undo, not_mem_complaint]

theorem removeProfile_mem_undo_iff : .removeProfile ∈ o.undo x ↔ x = .makeProfile := by
  cases x <;> simp [undo, not_mem_complaint]

theorem mem_undo_iff_launch (hy : y ∈ [BrowserStep.closeBrowser, .awaitExit, .disconnect]) :
    y ∈ o.undo x ↔ ∃ arguments, x = .launch arguments := by
  simp only [List.mem_cons, List.not_mem_nil, or_false] at hy
  rcases hy with rfl | rfl | rfl <;> cases x <;> simp [undo]

theorem not_mem_plan (hy : y ∈ [BrowserStep.closePage, .closeBrowser, .awaitExit, .disconnect,
    .removeProfile]) (o : Outcomes) (b : BrowserSettings) (shot : Shot) : y ∉ o.plan b shot := by
  simp only [List.mem_cons, List.not_mem_nil, or_false] at hy
  rw [plan, loading]
  rcases hy with rfl | rfl | rfl | rfl | rfl <;> split <;> simp

/-- **No step is taken twice.** -/
theorem nodup_course (o : Outcomes) (b : BrowserSettings) (shot : Shot) :
    (o.course (o.plan b shot)).Nodup := by
  have hopened : (o.opened (o.plan b shot)).reverse.Sublist (o.plan b shot).reverse :=
    (List.takeWhile_sublist _).reverse
  rw [course_eq]
  refine (opened_append_stopped_sublist.append (hopened.flatMap o.undo)).nodup ?_
  -- A plan has one of four shapes, and there may be a complaint or not.
  simp only [plan, loading]
  cases shot.identity.cookies.isEmpty <;> cases b.settle <;>
    simp [undo, complaint] <;> split <;> simp

/-! ## 2. What comes of a session -/

/-- Is every one of the steps answered? -/
def InTime (o : Outcomes) (steps : List BrowserStep) : Prop := ∀ x ∈ steps, (o.answer x).isSome

instance (o : Outcomes) (steps : List BrowserStep) : Decidable (o.InTime steps) :=
  inferInstanceAs (Decidable (∀ x ∈ steps, (o.answer x).isSome))

theorem succeeds_of_answered (hx : (o.answer x).isSome) (h : o.failure? x = none) :
    o.succeeds x = true := by
  rw [succeeds, hx, h]
  rfl

/-- Where nothing fails and everything is answered, the whole plan is in the course. -/
theorem subset_course (htime : o.InTime (o.course steps)) (h : ∀ x ∈ steps, o.failure? x = none) :
    ∀ x ∈ steps, x ∈ o.course steps := by
  induction steps with
  | nil => exact nofun
  | cons x rest ih =>
    have hanswered : (o.answer x).isSome := by
      refine htime x ?_
      rw [course]
      split <;> exact List.mem_cons_self
    have hx := succeeds_of_answered hanswered (h x List.mem_cons_self)
    rw [course_of_succeeds hx] at htime ⊢
    have hrest := ih (fun y hy => htime y (List.mem_cons_of_mem x (List.mem_append_left _ hy)))
      fun y hy => h y (List.mem_cons_of_mem x hy)
    rintro y (_ | ⟨_, hy⟩)
    · exact List.mem_cons_self
    · exact List.mem_cons_of_mem x (List.mem_append_left _ (hrest y hy))

theorem picture_mem_plan (o : Outcomes) (b : BrowserSettings) (shot : Shot) :
    .picture ∈ o.plan b shot := by
  simp [plan, loading]

theorem makeProfile_mem_plan (o : Outcomes) (b : BrowserSettings) (shot : Shot) :
    .makeProfile ∈ o.plan b shot := List.mem_cons_self

/-- A picture that did not fail is the image. -/
theorem answer_picture (hx : (o.answer .picture).isSome) (h : o.failure? .picture = none) :
    o.answer .picture = some (.ok o.image) := by
  rw [image]
  rw [failure?] at h
  rcases hanswer : o.answer .picture with _ | (e | data)
  · rw [hanswer] at hx
    cases hx
  · rw [hanswer] at h
    cases h
  · rfl

theorem verdict_eq_ok_iff {b : BrowserSettings} {shot : Shot} {data : ByteArray}
    (htime : o.InTime (o.course (o.plan b shot))) :
    o.verdict (o.plan b shot) = .ok data ↔
      (∀ x ∈ o.plan b shot, o.failure? x = none) ∧ o.answer .picture = some (.ok data) := by
  rw [verdict]
  constructor
  · intro h
    split at h
    · cases h
    · rename_i hnone
      cases h
      have hall := List.findSome?_eq_none_iff.mp hnone
      have hpicture := picture_mem_plan o b shot
      exact ⟨hall, answer_picture (htime _ (subset_course htime hall _ hpicture)) (hall _ hpicture)⟩
  · rintro ⟨hall, hdata⟩
    rw [List.findSome?_eq_none_iff.mpr hall, image, hdata]

theorem verdict_eq_error_iff {e : CaptureFailure} :
    o.verdict steps = .error e ↔
      ∃ before x after, steps = before ++ x :: after ∧ o.failure? x = some e ∧
        ∀ y ∈ before, o.failure? y = none := by
  rw [verdict, ← List.findSome?_eq_some_iff]
  split
  · rename_i hsome
    simp [hsome]
  · rename_i hnone
    simp [hnone]

/-- **Only the answers to the plan matter to what comes of it.** -/
theorem verdict_congr {o' : Outcomes} {b : BrowserSettings} {shot : Shot}
    (h : ∀ x ∈ o.plan b shot, o'.answer x = o.answer x) :
    o'.verdict (o'.plan b shot) = o.verdict (o.plan b shot) := by
  have hprofile : o'.profile = o.profile := by
    rw [profile, profile, h _ (makeProfile_mem_plan o b shot)]
  have himage : o'.image = o.image := by
    rw [image, image, h _ (picture_mem_plan o b shot)]
  have hplan : o'.plan b shot = o.plan b shot := by rw [plan, plan, hprofile]
  have hfailure : (o.plan b shot).findSome? o'.failure? = (o.plan b shot).findSome? o.failure? := by
    rw [← List.head?_filterMap, ← List.head?_filterMap]
    exact congrArg _ (List.filterMap_congr fun x hx => by rw [failure?, failure?, h x hx])
  rw [verdict, verdict, hplan, hfailure, himage]

end Outcomes

/-! ## 3. What is left behind -/

/-- What a session may leave behind. A page goes with its browser. -/
inductive Resource
  | profile
  | browser
  | connection

namespace Resource

/-- Does it come from such a step? -/
def isOpenedBy : Resource → BrowserStep → Bool
  | profile, .makeProfile => true
  | browser, .launch _ | connection, .launch _ => true
  | _, _ => false

/-- Is it over after such a step? -/
def isEndedBy : Resource → BrowserStep → Bool
  | profile, .removeProfile => true
  | browser, .awaitExit | browser, .abandon => true
  | connection, .disconnect | connection, .abandon => true
  | _, _ => false

end Resource

namespace Outcomes

variable {o : Outcomes} {x y : BrowserStep} {steps : List BrowserStep} {r : Resource}

/-- Is it there after a step, if it was there before or was not? A start that is not answered may have
    come far enough, and an end that is not answered may not. -/
def stays (o : Outcomes) (r : Resource) (was : Bool) (x : BrowserStep) : Bool :=
  if r.isEndedBy x then was && (o.answer x).isNone
  else was || (r.isOpenedBy x && (o.failure? x).isNone)

/-- Is it there after some steps, if it was not there before? -/
def remains (o : Outcomes) (r : Resource) (taken : List BrowserStep) : Bool :=
  taken.foldl (o.stays r) false

theorem blame?_of_isEndedBy (h : r.isEndedBy x = true) (answer : x.Answer) : x.blame? answer = none := by
  cases r <;> cases x <;> first | rfl | cases h

/-- A step that fails leaves nothing behind. -/
theorem stays_of_failure {e : CaptureFailure} (h : o.failure? x = some e) (was : Bool) :
    o.stays r was x = was := by
  have hends : r.isEndedBy x ≠ true := by
    intro hends
    obtain ⟨answer, -, hblame⟩ := Option.bind_eq_some_iff.mp h
    rw [blame?_of_isEndedBy hends] at hblame
    cases hblame
  rw [stays, if_neg hends, h, Option.isNone_some, Bool.and_false, Bool.or_false]

/-- What is there after steps that it does not come from was there before, and its end was not among
    them, unless that was not answered. -/
theorem of_foldl_stays : ∀ {steps : List BrowserStep} {was : Bool},
    (∀ x ∈ steps, r.isOpenedBy x = false) → steps.foldl (o.stays r) was = true →
      was = true ∧ ∀ x ∈ steps, r.isEndedBy x = true → (o.answer x).isNone
  | [], _, _, h => ⟨h, nofun⟩
  | x :: rest, was, hopens, h => by
    obtain ⟨hstays, hrest⟩ := of_foldl_stays (fun y hy => hopens y (List.mem_cons_of_mem x hy)) h
    rw [stays, hopens x List.mem_cons_self, Bool.false_and, Bool.or_false] at hstays
    split at hstays
    · obtain ⟨hwas, hx⟩ := Bool.and_eq_true_iff.mp hstays
      refine ⟨hwas, ?_⟩
      rintro y (_ | ⟨_, hy⟩) hends
      · exact hx
      · exact hrest y hy hends
    · rename_i hnot
      refine ⟨hstays, ?_⟩
      rintro y (_ | ⟨_, hy⟩) hends
      · exact absurd hends hnot
      · exact hrest y hy hends

/-- Where nothing opens it, and it is ended in time, it is over. -/
theorem foldl_stays_of_end (hopens : ∀ x ∈ steps, r.isOpenedBy x = false) (htime : o.InTime steps)
    (hend : ∃ x ∈ steps, r.isEndedBy x = true) (was : Bool) : steps.foldl (o.stays r) was = false := by
  by_contra hstays
  obtain ⟨x, hx, hends⟩ := hend
  have hsilent := (of_foldl_stays hopens (Bool.not_eq_false _ |>.mp hstays)).2 x hx hends
  have hanswered := htime x hx
  rw [Option.isNone_iff_eq_none.mp hsilent] at hanswered
  cases hanswered

/-- What a step opens is ended when it is undone. -/
theorem exists_end_of_isOpenedBy (o : Outcomes) (h : r.isOpenedBy x = true) :
    ∃ y ∈ o.undo x, r.isEndedBy y = true := by
  cases r with
  | profile =>
    cases x with
    | makeProfile => exact ⟨.removeProfile, List.mem_cons_self, rfl⟩
    | _ => cases h
  | browser =>
    cases x with
    | launch _ => exact ⟨.awaitExit, by simp [undo], rfl⟩
    | _ => cases h
  | connection =>
    cases x with
    | launch _ => exact ⟨.disconnect, by simp [undo], rfl⟩
    | _ => cases h

/-- Undoing opens nothing. -/
theorem isOpenedBy_of_mem_undo (hy : y ∈ o.undo x) : r.isOpenedBy y = false := by
  cases x with
  | makeProfile =>
    cases List.mem_singleton.mp hy
    cases r <;> rfl
  | launch _ =>
    simp only [undo, List.mem_cons, List.mem_append, List.not_mem_nil, or_false] at hy
    rcases hy with rfl | hy | rfl | rfl
    · cases r <;> rfl
    · obtain ⟨_, rfl⟩ := note_of_mem_complaint hy
      cases r <;> rfl
    · cases r <;> rfl
    · cases r <;> rfl
  | openPage =>
    cases List.mem_singleton.mp hy
    cases r <;> rfl
  | _ => cases hy

/-- What a step opened is over when it was undone. -/
theorem of_foldl_stays_undo {middle was : Bool} (htime : o.InTime (o.undo x))
    (hmiddle : middle = true → o.stays r was x = true)
    (h : (o.undo x).foldl (o.stays r) middle = true) : was = true := by
  have hundo : ∀ y ∈ o.undo x, r.isOpenedBy y = false := fun y hy => isOpenedBy_of_mem_undo hy
  cases hopens : r.isOpenedBy x with
  | true =>
    rw [foldl_stays_of_end hundo htime (o.exists_end_of_isOpenedBy hopens)] at h
    cases h
  | false =>
    have hstays := hmiddle (of_foldl_stays hundo h).1
    rw [stays, hopens, Bool.false_and, Bool.or_false] at hstays
    split at hstays
    · exact (Bool.and_eq_true_iff.mp hstays).1
    · exact hstays

/-- **What is there after the course of a plan was there before it.** -/
theorem stays_course {steps : List BrowserStep} : ∀ {was : Bool}, o.InTime (o.course steps) →
    (o.course steps).foldl (o.stays r) was = true → was = true := by
  induction steps with
  | nil => exact fun _ h => h
  | cons x rest ih =>
    intro was htime h
    cases hx : o.succeeds x with
    | true =>
      rw [course_of_succeeds hx] at htime h
      rw [List.foldl_cons, List.foldl_append] at h
      refine of_foldl_stays_undo (x := x) (fun y hy => htime y ?_) (ih fun y hy => htime y ?_) h
      · exact List.mem_cons_of_mem x (List.mem_append_right _ hy)
      · exact List.mem_cons_of_mem x (List.mem_append_left _ hy)
    | false =>
      rw [course_of_fails hx] at htime h
      have hanswered := htime x List.mem_cons_self
      cases hfailure : o.failure? x with
      | some e => rwa [List.foldl_cons, stays_of_failure hfailure] at h
      | none =>
        rw [succeeds_of_answered hanswered hfailure] at hx
        cases hx

theorem inTime_let_go (o : Outcomes) : o.InTime [.abandon, .removeProfile] := by
  rintro x (_ | ⟨_, _ | ⟨_, ⟨⟩⟩⟩)
  · exact o.prompt .abandon trivial
  · exact o.prompt .removeProfile trivial

theorem remains_course (r : Resource) (h : o.InTime (o.course steps)) :
    o.remains r (o.course steps) = false := by
  by_contra hstays
  exact absurd (stays_course h (Bool.not_eq_false _ |>.mp hstays)) Bool.false_ne_true

/-- **Nothing remains when everything is let go.** -/
theorem remains_let_go (o : Outcomes) (r : Resource) (taken : List BrowserStep) :
    o.remains r (taken ++ [.abandon, .removeProfile]) = false := by
  rw [remains, List.foldl_append]
  refine foldl_stays_of_end ?_ o.inTime_let_go ?_ _
  · cases r <;> simp [Resource.isOpenedBy]
  · cases r <;> simp [Resource.isEndedBy]

end Outcomes

/-! ## 4. Sessions -/

/-- The result and the steps of a session in which everything is answered: the steps of the plan up to
    the first that does not succeed, and then what closes those before it. -/
structure Outcomes.Orderly (o : Outcomes) (b : BrowserSettings) (shot : Shot)
    (result : Except CaptureFailure ByteArray) (taken : List BrowserStep) : Prop where
  taken_eq : taken = o.opened (o.plan b shot) ++ o.stopped (o.plan b shot) ++
    (o.opened (o.plan b shot)).reverse.flatMap o.undo
  nodup : taken.Nodup
  ok_iff : ∀ data, result = .ok data ↔
    (∀ x ∈ o.plan b shot, o.failure? x = none) ∧ o.answer .picture = some (.ok data)
  error_iff : ∀ e, result = .error e ↔ ∃ before x after, o.plan b shot = before ++ x :: after ∧
    o.failure? x = some e ∧ ∀ y ∈ before, o.failure? y = none
  page : .closePage ∈ taken ↔ .openPage ∈ o.opened (o.plan b shot)
  browser : ∀ y ∈ [BrowserStep.closeBrowser, .awaitExit, .disconnect],
    (y ∈ taken ↔ ∃ arguments, .launch arguments ∈ o.opened (o.plan b shot))
  profile : .removeProfile ∈ taken ↔ .makeProfile ∈ o.opened (o.plan b shot)

/-- Where not everything is answered, there is a first step that is not. -/
theorem Outcomes.exists_split {o : Outcomes} {steps : List BrowserStep} (h : ¬ o.InTime steps) :
    ∃ before x after, steps = before ++ x :: after ∧ o.InTime before ∧ o.answer x = none := by
  cases hfind : steps.find? fun x => (o.answer x).isNone with
  | none =>
    refine absurd (fun x hx => ?_) h
    simpa [Option.isSome_iff_ne_none] using List.find?_eq_none.mp hfind x hx
  | some x =>
    obtain ⟨hx, before, after, hsplit, hbefore⟩ := List.find?_eq_some_iff_append.mp hfind
    refine ⟨before, x, after, hsplit, fun y hy => ?_, Option.isNone_iff_eq_none.mp hx⟩
    simpa using hbefore y hy

namespace Session

variable {o : Outcomes} {b : BrowserSettings} {shot : Shot} {x : BrowserStep}
  {steps before after : List BrowserStep}

/-- Steps that are all answered are all taken. -/
theorem runUntil_performAll : ∀ {steps : List BrowserStep}, o.InTime steps → ∀ taken,
    (Program.performAll steps : BrowserProgram Unit).runUntil o.record taken =
      (some (), taken ++ steps)
  | [], _, taken => by rw [List.append_nil]; rfl
  | x :: rest, h, taken => by
    obtain ⟨answer, hx⟩ := Option.isSome_iff_exists.mp (h x List.mem_cons_self)
    have hrest := runUntil_performAll (fun y hy => h y (List.mem_cons_of_mem x hy)) (taken ++ [x])
    simp only [Program.performAll, Program.runUntil, Outcomes.record, hx]
    rw [hrest, List.append_assoc]
    rfl

/-- The first step that is not answered is the last. -/
theorem runUntil_performAll_stopped (hbefore : o.InTime before) (hx : o.answer x = none)
    (taken : List BrowserStep) :
    (Program.performAll (before ++ x :: after) : BrowserProgram Unit).runUntil o.record taken =
      (none, taken ++ before ++ [x]) := by
  rw [Program.performAll_append, Program.runUntil_bind, runUntil_performAll hbefore]
  simp only [Program.performAll, Program.runUntil, Outcomes.record, hx]

/-- **A session that is in time follows its course.** -/
theorem run_inTime (h : o.InTime (o.course (o.plan b shot))) :
    run o.record b shot [] = (o.verdict (o.plan b shot), o.course (o.plan b shot)) := by
  rw [run, follows_capture, Program.runUntil_bind, runUntil_performAll h]
  rfl

/-- **A session whose time is over lets go of everything.** -/
theorem run_stopped (hsplit : o.course (o.plan b shot) = before ++ x :: after)
    (hbefore : o.InTime before) (hx : o.answer x = none) :
    run o.record b shot [] =
      (.error (.timeout b.timeout), before ++ [x, .abandon, .removeProfile]) := by
  have hclosing : (doStep .abandon >>= fun _ => doStep .removeProfile).runUntil o.record
      (before ++ [x]) = (some (), before ++ [x] ++ [.abandon, .removeProfile]) :=
    runUntil_performAll o.inTime_let_go (before ++ [x])
  rw [run, follows_capture, Program.runUntil_bind, hsplit, runUntil_performAll_stopped hbefore hx]
  simp [hclosing]

/-- A session that is in time is in order. -/
theorem orderly_course (h : o.InTime (o.course (o.plan b shot))) :
    o.Orderly b shot (o.verdict (o.plan b shot)) (o.course (o.plan b shot)) where
  taken_eq := o.course_eq _
  nodup := o.nodup_course b shot
  ok_iff _ := Outcomes.verdict_eq_ok_iff h
  error_iff _ := Outcomes.verdict_eq_error_iff
  page := by
    rw [Outcomes.mem_course_iff (Outcomes.not_mem_plan (by simp) o b shot)]
    simp only [Outcomes.closePage_mem_undo_iff, exists_eq_right]
  browser y hy := by
    rw [Outcomes.mem_course_iff (Outcomes.not_mem_plan (by simp at hy ⊢; tauto) o b shot)]
    simp only [Outcomes.mem_undo_iff_launch hy]
    constructor
    · rintro ⟨_, hx, arguments, rfl⟩
      exact ⟨arguments, hx⟩
    · rintro ⟨arguments, hx⟩
      exact ⟨_, hx, arguments, rfl⟩
  profile := by
    rw [Outcomes.mem_course_iff (Outcomes.not_mem_plan (by simp) o b shot)]
    simp only [Outcomes.removeProfile_mem_undo_iff, exists_eq_right]

end Session

/-- **A session reports its first failure and closes what it opened.** If all its steps are answered, it
    takes the steps of its plan up to the first that does not succeed, and then closes the page, the
    browser, the connection and the profile, each just if it was opened; it reports the first failure,
    and the picture if there is none, and how the closing turns out makes no difference. At the first
    step that is not answered it lets go of everything and reports that the time is over. Neither the
    profile nor the browser nor the connection is there afterwards in any case. -/
theorem session_closes (o : Outcomes) (b : BrowserSettings) (shot : Shot) :
    (o.InTime (o.course (o.plan b shot)) →
      o.Orderly b shot (Session.run o.record b shot []).1 (Session.run o.record b shot []).2 ∧
      ∀ o' : Outcomes, (∀ x ∈ o.plan b shot, o'.answer x = o.answer x) →
        o'.InTime (o'.course (o'.plan b shot)) →
        (Session.run o'.record b shot []).1 = (Session.run o.record b shot []).1) ∧
    (∀ before x after, o.course (o.plan b shot) = before ++ x :: after → o.InTime before →
      o.answer x = none →
      Session.run o.record b shot [] =
        (.error (.timeout b.timeout), before ++ [x, .abandon, .removeProfile])) ∧
    ∀ r, o.remains r (Session.run o.record b shot []).2 = false := by
  refine ⟨fun htime => ⟨?_, fun o' hsame htime' => ?_⟩,
    fun before x after hsplit hbefore hx => Session.run_stopped hsplit hbefore hx, fun r => ?_⟩
  · rw [Session.run_inTime htime]
    exact Session.orderly_course htime
  · rw [Session.run_inTime htime, Session.run_inTime htime']
    exact Outcomes.verdict_congr hsame
  · by_cases htime : o.InTime (o.course (o.plan b shot))
    · rw [Session.run_inTime htime]
      exact Outcomes.remains_course r htime
    · obtain ⟨before, x, after, hsplit, hbefore, hx⟩ := Outcomes.exists_split htime
      rw [Session.run_stopped hsplit hbefore hx]
      have hend : before ++ [x, .abandon, .removeProfile] =
          (before ++ [x]) ++ [.abandon, .removeProfile] := by simp
      rw [hend]
      exact o.remains_let_go r (before ++ [x])

/-- A page that is or is not loaded and that has no such element, in a browser that does not close when
    it is asked to. -/
def Outcomes.missing (loaded : Option (Except String Unit)) : Outcomes where
  answer
    | .makeProfile => some (.ok "/tmp/thumbnail-cache-profile-1")
    | .goTo _ => loaded
    | .find _ => some (.error "no such node")
    | .picture => some (.ok ByteArray.empty)
    | .closeBrowser => some (.error "the connection is lost")
    | .note _ | .settle _ | .awaitExit | .disconnect | .abandon | .removeProfile => some ()
    | .configure _ | .launch _ | .openPage | .emulate _ | .setCookies _ _ | .awaitLoaded
    | .closePage => some (.ok ())
  prompt x h := by cases x <;> first | rfl | cases h

/-- The element is missing, and everything is closed; or the page never comes, and everything is let
    go. -/
theorem session_closes_missing :
    let shot : Shot := ⟨"http://localhost/", "#chart", .anonymous, ⟨800, 600⟩⟩
    let start : List BrowserStep := [.makeProfile, .configure none,
      .launch (BrowserSettings.default.arguments ⟨800, 600⟩ "/tmp/thumbnail-cache-profile-1"), .openPage,
      .emulate ⟨800, 600⟩, .note (.loading "http://localhost/" none), .goTo "http://localhost/"]
    Session.run (Outcomes.missing (some (.ok ()))).record .default shot [] =
      (.error (.element "#chart: no such node"),
        start ++ [.awaitLoaded, .settle (Span.ofSeconds 2), .find "#chart"] ++
          [.closePage, .closeBrowser, .note (.notClosed "the connection is lost"), .awaitExit,
            .disconnect, .removeProfile]) ∧
    Session.run (Outcomes.missing none).record .default shot [] =
      (.error (.timeout (Span.ofSeconds 60)), start ++ [.abandon, .removeProfile]) := by
  intro shot start
  constructor
  · have htime : (Outcomes.missing (some (.ok ()))).InTime
        ((Outcomes.missing (some (.ok ()))).course
          ((Outcomes.missing (some (.ok ()))).plan .default shot)) :=
      fun x _ => by cases x <;> rfl
    have horderly := ((session_closes (Outcomes.missing (some (.ok ()))) .default shot).1 htime).1
    refine Prod.ext ((horderly.error_iff _).mpr ?_) (horderly.taken_eq.trans rfl)
    exact ⟨start ++ [.awaitLoaded, .settle (Span.ofSeconds 2)], .find "#chart", [.picture], rfl, rfl,
      by decide⟩
  · have hbefore : (Outcomes.missing none).InTime start.dropLast := by decide
    exact (session_closes (Outcomes.missing none) .default shot).2.1 start.dropLast
      (.goTo "http://localhost/") _ rfl hbefore rfl

end Vignette
