import Vignette.Program

/-!
# What programs may do

A bound on a program is a property of every action that the program may take, whatever it is answered
before (`Program.Within`). Bounds are put together as programs are. A run takes some of these actions
and no others: `Program.asked` lists them, the last of which may have no answer.

Main statements: **a bound on the parts is a bound on the whole** (`Within.bind`, `Within.expand`), and
**a run keeps within a bound on its program** (`Within.of_asked`).
-/

namespace Vignette.Program

variable {Action Other : Type} {Answer : Action → Type} {Reply : Other → Type} {α β σ : Type}
  {P : Action → Prop}

/-- Every action that the program may take, whatever it is answered, has a property. -/
def Within (P : Action → Prop) : Program Answer α → Prop
  | done _ => True
  | act x next => P x ∧ ∀ answer, (next answer).Within P

theorem within_perform {x : Action} (h : P x) : (perform x : Program Answer _).Within P :=
  ⟨h, fun _ => trivial⟩

theorem within_performAll : ∀ {xs : List Action}, (∀ x ∈ xs, P x) →
    (performAll xs : Program Answer Unit).Within P
  | [], _ => trivial
  | x :: _, h => ⟨h x List.mem_cons_self, fun _ =>
    within_performAll fun y hy => h y (List.mem_cons_of_mem x hy)⟩

/-- **A bound on two programs is a bound on one and then the other.** -/
theorem Within.bind {f : α → Program Answer β} : ∀ {p : Program Answer α}, p.Within P →
    (∀ a, (f a).Within P) → (p >>= f).Within P
  | done a, _, hf => hf a
  | act _ _, h, hf => ⟨h.1, fun answer => (h.2 answer).bind hf⟩

/-- **A bound on what stands in place of the actions is a bound on the expanded program.** -/
theorem Within.expand {R : Other → Prop} {f : (x : Action) → Program Reply (Answer x)} :
    ∀ {p : Program Answer α}, p.Within P → (∀ x, P x → (f x).Within R) → (p.expand f).Within R
  | done _, _, _ => trivial
  | act x _, h, hf => (hf x h.1).bind fun answer => (h.2 answer).expand hf

/-- The actions that a run takes, the first one first. The last one may have no answer. -/
def asked (answer : (x : Action) → σ → Option (Answer x) × σ) : Program Answer α → σ → List Action
  | done _, _ => []
  | act x next, s =>
    x :: match answer x s with
      | (some a, s) => (next a).asked answer s
      | (none, _) => []

theorem mem_asked_self (answer : (x : Action) → σ → Option (Answer x) × σ) (x : Action)
    (next : Answer x → Program Answer α) (s : σ) : x ∈ (act x next).asked answer s := by
  rw [asked]
  exact List.mem_cons_self

theorem mem_asked_act {answer : (x : Action) → σ → Option (Answer x) × σ} {x y : Action}
    {next : Answer x → Program Answer α} {s : σ} {a : Answer x} (h : (answer x s).1 = some a)
    (hy : y ∈ (next a).asked answer (answer x s).2) : y ∈ (act x next).asked answer s := by
  rw [asked, List.mem_cons]
  right
  rcases hx : answer x s with ⟨b, m⟩
  rw [hx] at h hy
  cases h
  exact hy

/-- **A run keeps within a bound on its program.** -/
theorem Within.of_asked {answer : (x : Action) → σ → Option (Answer x) × σ} :
    ∀ {p : Program Answer α}, p.Within P → ∀ {s : σ} {x : Action}, x ∈ p.asked answer s → P x
  | done _, _, _, _, hx => nomatch hx
  | act y _, h, s, x, hx => by
    rw [asked, List.mem_cons] at hx
    rcases hx with rfl | hx
    · exact h.1
    split at hx
    · exact (h.2 _).of_asked hx
    · cases hx

end Vignette.Program
