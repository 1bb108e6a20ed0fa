import Vignette.Browser.Session

/-!
# Sessions follow a plan

A session is written as programs within programs: each opens something, has it used, and closes it
again (`Session.capture`, `Session.useProfile`, `Session.useBrowser`). Here it is told without them. The
steps to the picture stand in one list (`Outcomes.plan`), each failure is blamed on the step it comes
from (`BrowserStep.blame?`), and each step that opened something is undone by a few others
(`Outcomes.undo`). The session takes the steps of the plan up to the first that fails, and then undoes
those before it, the last one first (`Outcomes.course`).

How the steps turn out is arbitrary (`Outcomes`); only those that nobody has to wait for always have an
answer.

Main statement: **a capture takes the steps of its course, until one is not answered, and comes to the
verdict on its plan** (`Session.follows_capture`). It is put together from the parts of the session as
the session is from its parts: one rule says how a step of a plan is followed (`Session.follows_act`).
-/

namespace Vignette

/-! ## 1. What a step means -/

namespace BrowserStep

/-- Nobody has to wait for such a step: the time of a session is never over in it. -/
def IsPrompt : BrowserStep → Prop
  | makeProfile | configure _ | note _ | disconnect | abandon | removeProfile => True
  | _ => False

/-- The failure of the session that an answer means. The failures of closing mean none. -/
def blame? : (x : BrowserStep) → x.Answer → Option CaptureFailure
  | makeProfile, .error e => some (.launch (Session.noProfile ++ e))
  | configure _, .error e => some (.launch e)
  | launch _, .error e => some (.launch e)
  | openPage, .error e => some (.navigation e)
  | emulate _, .error e => some (.picture e)
  | setCookies _ _, .error e => some (.identity e)
  | goTo _, .error e => some (.navigation e)
  | awaitLoaded, .error e => some (.navigation e)
  | find selector, .error e => some (.element (selector ++ ": " ++ e))
  | picture, .error e => some (.picture e)
  | _, _ => none

end BrowserStep

/-- How the steps of a session turn out; a step without an answer takes more than the time there is. -/
structure Outcomes where
  answer : (x : BrowserStep) → Option x.Answer
  prompt : ∀ x, x.IsPrompt → (answer x).isSome

namespace Outcomes

/-- A step answered, and written down. -/
def record (o : Outcomes) (x : BrowserStep) (taken : List BrowserStep) :
    Option x.Answer × List BrowserStep :=
  (o.answer x, taken ++ [x])

/-- The failure that a step ends the session with. -/
def failure? (o : Outcomes) (x : BrowserStep) : Option CaptureFailure := (o.answer x).bind x.blame?

/-- Is a step answered, and not by a failure? -/
def succeeds (o : Outcomes) (x : BrowserStep) : Bool := (o.answer x).isSome && (o.failure? x).isNone

/-- The profile directory, if there is one. -/
def profile (o : Outcomes) : String :=
  match o.answer .makeProfile with
  | some (.ok profile) => profile
  | _ => ""

/-- The picture, if there is one. -/
def image (o : Outcomes) : ByteArray :=
  match o.answer .picture with
  | some (.ok data) => data
  | _ => ByteArray.empty

/-- The note that the browser did not close. -/
def complaint (o : Outcomes) : List BrowserStep :=
  match o.answer .closeBrowser with
  | some (.error e) => [.note (.notClosed e)]
  | _ => []

/-! ## 2. Plan and course -/

/-- The steps to the picture on a page that has its window and cookies. -/
def loading (b : BrowserSettings) (shot : Shot) : List BrowserStep :=
  [.note (.loading shot.address (Session.visitor shot.identity)), .goTo shot.address, .awaitLoaded] ++
    ((b.settle.map BrowserStep.settle).toList ++ [.find shot.selector, .picture])

/-- The steps to the picture. -/
def plan (o : Outcomes) (b : BrowserSettings) (shot : Shot) : List BrowserStep :=
  [.makeProfile, .configure b.program, .launch (b.arguments shot.window o.profile), .openPage,
    .emulate shot.window] ++
  ((if shot.identity.cookies.isEmpty then []
    else [.setCookies shot.identity.cookies shot.address]) ++ loading b shot)

/-- The steps that close what a step opened. -/
def undo (o : Outcomes) : BrowserStep → List BrowserStep
  | .makeProfile => [.removeProfile]
  | .launch _ => .closeBrowser :: (o.complaint ++ [.awaitExit, .disconnect])
  | .openPage => [.closePage]
  | _ => []

/-- The steps that are taken on a plan: after one that succeeds the rest is followed and it is undone;
    one that does not succeed is the last. -/
def course (o : Outcomes) : List BrowserStep → List BrowserStep
  | [] => []
  | x :: rest => if o.succeeds x then x :: (o.course rest ++ o.undo x) else [x]

/-- What comes of a plan: its first failure, or the picture. -/
def verdict (o : Outcomes) (steps : List BrowserStep) : Except CaptureFailure ByteArray :=
  match steps.findSome? o.failure? with
  | some e => .error e
  | none => .ok o.image

section Steps

variable {o : Outcomes} {x : BrowserStep} {steps rest : List BrowserStep}

theorem course_of_succeeds (h : o.succeeds x = true) :
    o.course (x :: rest) = x :: (o.course rest ++ o.undo x) := by
  rw [course, if_pos h]

theorem course_of_fails (h : o.succeeds x = false) : o.course (x :: rest) = [x] := by
  rw [course, h]
  rfl

theorem succeeds_of_failure {e : CaptureFailure} (h : o.failure? x = some e) :
    o.succeeds x = false := by
  rw [succeeds, h]
  exact Bool.and_false _

theorem verdict_of_failure {e : CaptureFailure} (h : o.failure? x = some e) :
    o.verdict (x :: rest) = .error e := by
  rw [verdict, List.findSome?_cons, h]

theorem verdict_of_no_failure (h : o.failure? x = none) :
    o.verdict (x :: rest) = o.verdict rest := by
  rw [verdict, List.findSome?_cons, h]
  rfl

end Steps

end Outcomes

/-! ## 3. Programs that take steps -/

namespace Session

variable {o : Outcomes} {α β : Type} {a : α} {c : β} {p : BrowserProgram α} {x : BrowserStep}
  {steps others rest : List BrowserStep}

/-- The program takes the steps, whatever their answers, and comes to a value; it stops when one is not
    answered. -/
def Takes (o : Outcomes) (p : BrowserProgram α) (steps : List BrowserStep) (a : α) : Prop :=
  ∀ taken, p.runUntil o.record taken =
    (Program.performAll steps >>= fun _ => .done a).runUntil o.record taken

theorem takes_done (a : α) : Takes o (.done a) [] a := fun _ => rfl

theorem takes_act {next : x.Answer → BrowserProgram α}
    (h : ∀ answer, o.answer x = some answer → Takes o (next answer) rest a) :
    Takes o (.act x next) (x :: rest) a := by
  intro taken
  show (Program.act x next).runUntil o.record taken =
    (Program.act x fun _ => Program.performAll rest >>= fun _ => .done a).runUntil o.record taken
  simp only [Program.runUntil, Outcomes.record]
  cases hx : o.answer x with
  | none => rfl
  | some answer => exact h answer hx (taken ++ [x])

/-- A step whose answer does not matter is only taken. -/
theorem takes_doStep {next : Unit → BrowserProgram α} (h : Takes o (next ()) rest a) :
    Takes o (doStep x >>= next) (x :: rest) a :=
  takes_act fun _ _ => h

/-- **The parts of a program take their steps one after the other.** -/
theorem Takes.bind {f : α → BrowserProgram β} (hp : Takes o p steps a)
    (hf : Takes o (f a) others c) : Takes o (p >>= f) (steps ++ others) c := by
  intro taken
  have hall : ((Program.performAll (steps ++ others) : BrowserProgram Unit) >>= fun _ =>
      (.done c : BrowserProgram β)) =
      Program.performAll steps >>= fun _ => Program.performAll others >>= fun _ => .done c := by
    rw [Program.performAll_append]
    exact Program.bind_assoc _ _ _
  rw [hall, Program.runUntil_bind, Program.runUntil_bind, hp, Program.runUntil_bind]
  rcases (Program.performAll steps : BrowserProgram Unit).runUntil o.record taken with ⟨_ | _, reached⟩
  · rfl
  · exact hf reached

/-! ## 4. The plan is followed -/

/-- The program follows the steps of a plan. -/
def Follows (o : Outcomes) (p : BrowserProgram (Except CaptureFailure ByteArray))
    (steps : List BrowserStep) : Prop :=
  Takes o p (o.course steps) (o.verdict steps)

/-- **A step is followed by the rest of the plan and then undone, or it fails and is the last.** -/
theorem follows_act {next : x.Answer → BrowserProgram (Except CaptureFailure ByteArray)}
    (hfail : ∀ answer e, x.blame? answer = some e → next answer = .done (.error e))
    (hpass : ∀ answer, o.answer x = some answer → x.blame? answer = none →
      Takes o (next answer) (o.course rest ++ o.undo x) (o.verdict rest)) :
    Follows o (.act x next) (x :: rest) := by
  cases hx : o.answer x with
  | none =>
    have hlast : o.succeeds x = false := by rw [Outcomes.succeeds, hx]; rfl
    rw [Follows, Outcomes.course_of_fails hlast]
    exact takes_act fun answer h => by rw [hx] at h; cases h
  | some answer =>
    cases hblame : x.blame? answer with
    | some e =>
      have hfailure : o.failure? x = some e := by rw [Outcomes.failure?, hx]; exact hblame
      rw [Follows, Outcomes.course_of_fails (Outcomes.succeeds_of_failure hfailure),
        Outcomes.verdict_of_failure hfailure]
      refine takes_act fun reply h => ?_
      obtain rfl : answer = reply := Option.some.inj (hx.symm.trans h)
      rw [hfail answer e hblame]
      exact takes_done _
    | none =>
      have hfailure : o.failure? x = none := by rw [Outcomes.failure?, hx]; exact hblame
      have hpassed : o.succeeds x = true := by rw [Outcomes.succeeds, hx, hfailure]; rfl
      rw [Follows, Outcomes.course_of_succeeds hpassed, Outcomes.verdict_of_no_failure hfailure]
      refine takes_act fun reply h => ?_
      obtain rfl : answer = reply := Option.some.inj (hx.symm.trans h)
      exact hpass answer hx hblame

/-- The same for a step that may fail: its failure is the one that the program names. -/
theorem follows_opening {h : x.Answer = Except String α} {cause : String → CaptureFailure}
    {next : Except CaptureFailure α → BrowserProgram (Except CaptureFailure ByteArray)}
    (hblame : ∀ answer, x.blame? answer = match cast h answer with
      | .error e => some (cause e)
      | .ok _ => none)
    (hfail : ∀ e, next (.error e) = .done (.error e))
    (hpass : ∀ answer value, o.answer x = some answer → cast h answer = .ok value →
      Takes o (next (.ok value)) (o.course rest ++ o.undo x) (o.verdict rest)) :
    Follows o (attempt x h cause >>= next) (x :: rest) := by
  refine follows_act (fun answer e hb => ?_) fun answer hx hb => ?_
  · show next ((cast h answer).mapError cause) = _
    rw [hblame] at hb
    cases hc : cast h answer with
    | error words =>
      rw [hc] at hb
      cases hb
      exact hfail _
    | ok value => rw [hc] at hb; cases hb
  · show Takes o (next ((cast h answer).mapError cause)) _ _
    rw [hblame] at hb
    cases hc : cast h answer with
    | error words => rw [hc] at hb; cases hb
    | ok value => exact hpass answer value hx hc

/-- A step whose answer does not matter, and that opens nothing. -/
theorem follows_doStep {next : Unit → BrowserProgram (Except CaptureFailure ByteArray)}
    (hblame : ∀ answer, x.blame? answer = none) (hundo : o.undo x = [])
    (hpass : Follows o (next ()) rest) : Follows o (doStep x >>= next) (x :: rest) := by
  refine follows_act (fun answer e hb => ?_) fun answer _ _ => ?_
  · rw [hblame] at hb
    cases hb
  · rw [hundo, List.append_nil]
    exact hpass

theorem follows_attempt {h : x.Answer = Except String α} {cause : String → CaptureFailure}
    {next : Except CaptureFailure α → BrowserProgram (Except CaptureFailure ByteArray)}
    (hblame : ∀ answer, x.blame? answer = match cast h answer with
      | .error e => some (cause e)
      | .ok _ => none)
    (hundo : o.undo x = []) (hfail : ∀ e, next (.error e) = .done (.error e))
    (hpass : ∀ answer value, o.answer x = some answer → cast h answer = .ok value →
      Follows o (next (.ok value)) rest) :
    Follows o (attempt x h cause >>= next) (x :: rest) := by
  refine follows_opening hblame hfail fun answer value hx hvalue => ?_
  rw [hundo, List.append_nil]
  exact hpass answer value hx hvalue

variable {b : BrowserSettings} {shot : Shot}

/-- The end of every plan: the element, and its picture. -/
theorem follows_photograph (selector : String) :
    Follows o (photograph selector) [.find selector, .picture] := by
  refine follows_attempt (by rintro (e | _) <;> rfl) rfl (fun _ => rfl) fun _ _ _ _ => ?_
  show Follows o (attempt .picture rfl CaptureFailure.picture >>= .done) [.picture]
  refine follows_attempt (by rintro (e | _) <;> rfl) rfl (fun _ => rfl) fun answer data hx hdata => ?_
  have himage : o.image = data := by
    rw [Outcomes.image, hx]
    cases hdata
    rfl
  rw [← himage]
  exact takes_done _

theorem follows_load : Follows o (load b shot) (Outcomes.loading b shot) := by
  refine follows_doStep (fun _ => rfl) rfl ?_
  refine follows_attempt (by rintro (e | _) <;> rfl) rfl (fun _ => rfl) fun _ _ _ _ => ?_
  refine follows_attempt (by rintro (e | _) <;> rfl) rfl (fun _ => rfl) fun _ _ _ _ => ?_
  cases b.settle with
  | none => exact follows_photograph shot.selector
  | some time => exact follows_doStep (fun _ => rfl) rfl (follows_photograph shot.selector)

theorem follows_usePage : Follows o (usePage b shot) (.emulate shot.window ::
    ((if shot.identity.cookies.isEmpty then []
      else [.setCookies shot.identity.cookies shot.address]) ++ Outcomes.loading b shot)) := by
  refine follows_attempt (by rintro (e | _) <;> rfl) rfl (fun _ => rfl) fun _ _ _ _ => ?_
  show Follows o (if shot.identity.cookies.isEmpty then load b shot else _) _
  split
  · exact follows_load
  · exact follows_attempt (by rintro (e | _) <;> rfl) rfl (fun _ => rfl) fun _ _ _ _ => follows_load

/-- The page that was opened is closed, whatever came of it. -/
theorem follows_useBrowser (h : Follows o (usePage b shot) rest) :
    Follows o (useBrowser b shot) (.openPage :: rest) := by
  refine follows_opening (by rintro (e | _) <;> rfl) (fun _ => rfl) fun _ _ _ _ => ?_
  exact Takes.bind h (takes_doStep (takes_done _))

theorem takes_quit : Takes o quit (.closeBrowser :: (o.complaint ++ [.awaitExit])) () := by
  refine takes_act fun answer hx => ?_
  rcases answer with e | _
  · have hcomplaint : o.complaint = [.note (.notClosed e)] := by rw [Outcomes.complaint, hx]
    rw [hcomplaint]
    exact takes_doStep (takes_act fun _ _ => takes_done ())
  · have hcomplaint : o.complaint = [] := by rw [Outcomes.complaint, hx]
    rw [hcomplaint]
    exact takes_act fun _ _ => takes_done ()

/-- The browser that was started is ended, whatever came of it. -/
theorem follows_useProfile {profile : String} (h : Follows o (useBrowser b shot) rest) :
    Follows o (useProfile b profile shot)
      (.configure b.program :: .launch (b.arguments shot.window profile) :: rest) := by
  refine follows_attempt (by rintro (e | _) <;> rfl) rfl (fun _ => rfl) fun _ _ _ _ => ?_
  refine follows_opening (by rintro (e | _) <;> rfl) (fun _ => rfl) fun _ _ _ _ => ?_
  have hundo : o.undo (.launch (b.arguments shot.window profile)) =
      .closeBrowser :: (o.complaint ++ [.awaitExit]) ++ [.disconnect] := by
    simp [Outcomes.undo]
  rw [hundo]
  exact Takes.bind h (Takes.bind takes_quit (takes_doStep (takes_done _)))

/-- **A capture follows its plan.** -/
theorem follows_capture : Follows o (capture b shot) (o.plan b shot) := by
  refine follows_opening (by rintro (e | _) <;> rfl) (fun _ => rfl) fun answer profile hx hprofile => ?_
  have h : o.profile = profile := by
    rw [Outcomes.profile, hx]
    cases hprofile
    rfl
  rw [h]
  exact Takes.bind (follows_useProfile (follows_useBrowser follows_usePage))
    (takes_doStep (takes_done _))

end Session

end Vignette
