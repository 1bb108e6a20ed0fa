/-!
# Programs of actions

A `Program` is a finite plan that acts on its surroundings: it is done with a result, or it takes an
action and goes on with the answer. What actions there are, and what answers each can have, is told
by a family `Answer`. A program says nothing about how actions are answered:

* `run` answers them from a state that each action may change,
* `runUntil` does so too and gives up at the first action that is never answered,
* `runIn` has them done by a monad,
* `expand` replaces each by a program of other actions.

**Running a program that is put together runs its parts one after the other** (`run_bind`,
`runUntil_bind`), and they are expanded one after the other (`expand_bind`).
-/

namespace Vignette

/-- A finite plan of actions with a result. -/
inductive Program {Action : Type} (Answer : Action → Type) (α : Type) : Type
  | done (result : α)
  | act (action : Action) (next : Answer action → Program Answer α)

namespace Program

variable {Action Other : Type} {Answer : Action → Type} {Reply : Other → Type} {α β σ : Type}

/-! ## 1. Putting programs together -/

/-- One program, and then another that depends on its result. -/
def bind : Program Answer α → (α → Program Answer β) → Program Answer β
  | done a, f => f a
  | act x next, f => act x fun answer => (next answer).bind f

instance : Monad (Program Answer) where
  pure := done
  bind := bind

/-- A single action. -/
def perform (x : Action) : Program Answer (Answer x) := act x done

/-- The actions of a list, whatever their answers. -/
def performAll : List Action → Program Answer Unit
  | [] => done ()
  | x :: rest => act x fun _ => performAll rest

@[simp] theorem pure_eq (a : α) : (pure a : Program Answer α) = done a := rfl

@[simp] theorem bind_done (a : α) (f : α → Program Answer β) : (done a >>= f) = f a := rfl

@[simp] theorem bind_act (x : Action) (next : Answer x → Program Answer α)
    (f : α → Program Answer β) : (act x next >>= f) = act x fun answer => next answer >>= f := rfl

@[simp] theorem bind_perform (x : Action) (f : Answer x → Program Answer β) :
    (perform x >>= f) = act x f := rfl

/-- Putting programs together is associative. -/
theorem bind_assoc {γ : Type} (p : Program Answer α) (f : α → Program Answer β)
    (g : β → Program Answer γ) : (p.bind f).bind g = p.bind fun a => (f a).bind g := by
  induction p with
  | done a => rfl
  | act x next ih => exact congrArg (act x) (funext ih)

/-- The actions of two lists are done one list after the other. -/
theorem performAll_append (xs ys : List Action) :
    (performAll (xs ++ ys) : Program Answer Unit) = performAll xs >>= fun _ => performAll ys := by
  induction xs with
  | nil => rfl
  | cons x xs ih => exact congrArg (act x) (funext fun _ => ih)

/-! ## 2. Running -/

/-- The result, and the state at the end, when each action is answered from the state. -/
def run (answer : (x : Action) → σ → Answer x × σ) : Program Answer α → σ → α × σ
  | done a, s => (a, s)
  | act x next, s => (next (answer x s).1).run answer (answer x s).2

/-- The same when an action may have no answer: then there is no result. -/
def runUntil (answer : (x : Action) → σ → Option (Answer x) × σ) :
    Program Answer α → σ → Option α × σ
  | done a, s => (some a, s)
  | act x next, s =>
    match answer x s with
    | (some a, s) => (next a).runUntil answer s
    | (none, s) => (none, s)

/-- The same when the actions are done by a monad. -/
def runIn {m : Type → Type} [Monad m] (answer : (x : Action) → m (Answer x)) :
    Program Answer α → m α
  | done a => pure a
  | act x next => do (next (← answer x)).runIn answer

/-- The program with a program in place of each action. -/
def expand (f : (x : Action) → Program Reply (Answer x)) : Program Answer α → Program Reply α
  | done a => done a
  | act x next => (f x).bind fun answer => (next answer).expand f

@[simp] theorem run_done (answer : (x : Action) → σ → Answer x × σ) (a : α) (s : σ) :
    (done a : Program Answer α).run answer s = (a, s) := rfl

@[simp] theorem run_act (answer : (x : Action) → σ → Answer x × σ) (x : Action)
    (next : Answer x → Program Answer α) (s : σ) :
    (act x next).run answer s = (next (answer x s).1).run answer (answer x s).2 := rfl

/-- **The parts of a program run one after the other.** -/
theorem run_bind (answer : (x : Action) → σ → Answer x × σ) (f : α → Program Answer β) :
    ∀ (p : Program Answer α) (s : σ),
      (p >>= f).run answer s = (f (p.run answer s).1).run answer (p.run answer s).2
  | done _, _ => rfl
  | act _ next, _ => run_bind answer f (next _) _

/-- **The parts of a program run one after the other, until an action has no answer.** -/
theorem runUntil_bind (answer : (x : Action) → σ → Option (Answer x) × σ)
    (f : α → Program Answer β) : ∀ (p : Program Answer α) (s : σ),
      (p >>= f).runUntil answer s =
        match p.runUntil answer s with
        | (some a, s) => (f a).runUntil answer s
        | (none, s) => (none, s)
  | done _, _ => rfl
  | act x next, s => by
    rw [bind_act]
    simp only [runUntil]
    rcases h : answer x s with ⟨a | a, t⟩
    · rfl
    · exact runUntil_bind answer f (next a) t

@[simp] theorem expand_done (f : (x : Action) → Program Reply (Answer x)) (a : α) :
    (done a : Program Answer α).expand f = done a := rfl

/-- The parts of a program are expanded one after the other. -/
theorem expand_bind (f : (x : Action) → Program Reply (Answer x)) (g : α → Program Answer β) :
    ∀ p : Program Answer α, (p >>= g).expand f = p.expand f >>= fun a => (g a).expand f
  | done _ => rfl
  | act x next => by
    have h (answer : Answer x) := expand_bind f g (next answer)
    show (f x).bind _ = ((f x).bind _).bind _
    rw [bind_assoc]
    exact congrArg _ (funext h)

end Program

end Vignette
