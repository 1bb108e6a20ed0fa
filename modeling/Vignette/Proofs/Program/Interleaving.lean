import Mathlib.Data.List.Induction
import Mathlib.Logic.Function.Basic
import Vignette.Program

/-!
# Programs carried out side by side

Several programs are carried out on one state, and each has its turns whenever it has them: it starts,
it takes one action after the other and goes on with the answers, and it returns its result. A `Scene`
is the state together with how far each program has come (`Phase`); a `Move` is what one of them does
at its turn. `Scene.Step` tells which moves lead from which scene to which, and `Scene.Runs` strings
moves together, in any order. A program that has no turn any more has stopped for good.

How a state answers an action, and what it leaves, is told by a relation, so an answer may be open.

Main statements: **what a program did in a run, in the order in which it did it, leads from its start
to where it is** (`Scene.Runs.goes`), **every move in a run stands between two scenes of it**
(`Scene.Runs.split`), and **a program may have all its turns in a row, as if there were no other**
(`Scene.runs_of_ends`).
-/

namespace Vignette

/-- An action, and its answer. -/
abbrev Exchange {Action : Type} (Answer : Action → Type) : Type := Σ x : Action, Answer x

/-! ## 1. One program -/

namespace Program

variable {Action : Type} {Answer : Action → Type} {α : Type}

/-- The program goes on to another with these actions and answers. -/
def Goes : Program Answer α → List (Exchange Answer) → Program Answer α → Prop
  | p, [], q => q = p
  | p, d :: ds, q => ∃ next, p = .act d.1 next ∧ (next d.2).Goes ds q

theorem goes_append {ds es : List (Exchange Answer)} {p q : Program Answer α} :
    p.Goes (ds ++ es) q ↔ ∃ m, p.Goes ds m ∧ m.Goes es q := by
  induction ds generalizing p with
  | nil => simp [Goes]
  | cons d ds ih =>
    constructor
    · rintro ⟨next, rfl, h⟩
      obtain ⟨m, h1, h2⟩ := ih.mp h
      exact ⟨m, ⟨next, rfl, h1⟩, h2⟩
    · rintro ⟨m, ⟨next, rfl, h1⟩, h2⟩
      exact ⟨next, rfl, ih.mpr ⟨m, h1, h2⟩⟩

/-- Where every action has an answer, a program can go on to its end. -/
theorem exists_goes_done (answer : (x : Action) → Answer x) :
    ∀ p : Program Answer α, ∃ ds r, p.Goes ds (.done r)
  | .done r => ⟨[], r, rfl⟩
  | .act x next => by
    obtain ⟨ds, r, h⟩ := exists_goes_done answer (next (answer x))
    exact ⟨⟨x, answer x⟩ :: ds, r, next, rfl, h⟩

section Ends

variable {σ τ : Type} {answers other : (x : Action) → σ → Answer x → σ → Prop}

/-- The program comes to its end with a result: what it does on the way, and the state that it leaves. -/
def Ends (answers : (x : Action) → σ → Answer x → σ → Prop) :
    Program Answer α → σ → List (Exchange Answer) → α → σ → Prop
  | .done a, s, es, b, t => es = [] ∧ b = a ∧ t = s
  | .act x next, s, es, b, t => ∃ answer m rest, es = ⟨x, answer⟩ :: rest ∧ answers x s answer m ∧
      (next answer).Ends answers m rest b t

theorem Ends.mono (hall : ∀ x s answer t, answers x s answer t → other x s answer t) {b : α} {t : σ} :
    ∀ {p : Program Answer α} {s : σ} {es : List (Exchange Answer)},
      p.Ends answers s es b t → p.Ends other s es b t
  | .done _, _, _, h => h
  | .act _ _, _, _, ⟨answer, m, rest, hes, ha, h⟩ => ⟨answer, m, rest, hes, hall _ _ _ _ ha, h.mono hall⟩

/-- **A program that is answered from a state comes to its end.** The state may tell more than what is said of
    it. -/
theorem exists_ends_of_run {answer : (x : Action) → τ → Answer x × τ} (view : τ → σ)
    (hfits : ∀ x s, answers x (view s) (answer x s).1 (view (answer x s).2)) :
    ∀ (p : Program Answer α) (s : τ), ∃ es,
      p.Ends answers (view s) es (p.run answer s).1 (view (p.run answer s).2)
  | .done _, _ => ⟨[], rfl, rfl, rfl⟩
  | .act x next, s => by
    obtain ⟨es, h⟩ := exists_ends_of_run view hfits (next (answer x s).1) (answer x s).2
    exact ⟨⟨x, (answer x s).1⟩ :: es, _, _, es, rfl, hfits x s, h⟩

end Ends

end Program

/-! ## 2. Several programs -/

/-- How far a program has come. -/
inductive Phase {Action : Type} (Answer : Action → Type) (α : Type)
  | waiting
  | running (rest : Program Answer α)
  | returned (result : α)

/-- What one of several programs does at its turn. -/
inductive Move (ι : Type) {Action : Type} (Answer : Action → Type) (α : Type)
  | start (i : ι)
  | act (i : ι) (x : Action) (answer : Answer x)
  | finish (i : ι) (result : α)

/-- A state, and how far each program has come. -/
structure Scene (ι : Type) {Action : Type} (Answer : Action → Type) (α σ : Type) where
  state : σ
  phase : ι → Phase Answer α

section Scene

variable {ι Action α σ : Type} [DecidableEq ι] {Answer : Action → Type}

/-- What a program does at a move, if the move is its own and an action. -/
def Move.exchange? (i : ι) : Move ι Answer α → Option (Exchange Answer)
  | act j x answer => if j = i then some ⟨x, answer⟩ else none
  | _ => none

/-- What a program did, in the order in which it did it. -/
def exchanges (i : ι) (ms : List (Move ι Answer α)) : List (Exchange Answer) :=
  ms.filterMap (Move.exchange? i)

theorem exchanges_concat (i : ι) (ms : List (Move ι Answer α)) (m : Move ι Answer α) :
    exchanges i (ms ++ [m]) = exchanges i ms ++ (m.exchange? i).toList := by
  rw [exchanges, exchanges, List.filterMap_append]
  cases h : m.exchange? i <;> simp [h]

theorem mem_exchanges {i : ι} {ms : List (Move ι Answer α)} {x : Action} {answer : Answer x} :
    (⟨x, answer⟩ : Exchange Answer) ∈ exchanges i ms ↔ .act i x answer ∈ ms := by
  rw [exchanges, List.mem_filterMap]
  constructor
  · rintro ⟨m, hm, he⟩
    cases m with
    | act j y a =>
      by_cases hj : j = i
      · subst hj
        obtain ⟨rfl, ha⟩ := Sigma.mk.inj (Option.some.inj ((if_pos rfl).symm.trans he))
        cases ha
        exact hm
      · cases (if_neg hj).symm.trans he
    | start j => cases he
    | finish j r => cases he
  · exact fun hm => ⟨_, hm, if_pos rfl⟩

namespace Scene

/-- The scene in which no program has started. -/
def opening (s : σ) : Scene ι Answer α σ := ⟨s, fun _ => .waiting⟩

variable (answers : (x : Action) → σ → Answer x → σ → Prop) (plan : ι → Program Answer α)

/-- The moves that lead from one scene to another. -/
inductive Step : Scene ι Answer α σ → Move ι Answer α → Scene ι Answer α σ → Prop where
  | start {v : Scene ι Answer α σ} {i : ι} (h : v.phase i = .waiting) :
      Step v (.start i) ⟨v.state, Function.update v.phase i (.running (plan i))⟩
  | act {v : Scene ι Answer α σ} {i : ι} {x : Action} {next : Answer x → Program Answer α}
      {answer : Answer x} {t : σ} (h : v.phase i = .running (.act x next))
      (ha : answers x v.state answer t) :
      Step v (.act i x answer) ⟨t, Function.update v.phase i (.running (next answer))⟩
  | finish {v : Scene ι Answer α σ} {i : ι} {r : α} (h : v.phase i = .running (.done r)) :
      Step v (.finish i r) ⟨v.state, Function.update v.phase i (.returned r)⟩

/-- Moves that lead from one scene to another, one after the other. -/
def Runs : Scene ι Answer α σ → List (Move ι Answer α) → Scene ι Answer α σ → Prop
  | v, [], w => w = v
  | v, m :: ms, w => ∃ u, Step answers plan v m u ∧ Runs u ms w

variable {answers plan}

theorem runs_append {ms ns : List (Move ι Answer α)} {v w : Scene ι Answer α σ} :
    Runs answers plan v (ms ++ ns) w ↔
      ∃ u, Runs answers plan v ms u ∧ Runs answers plan u ns w := by
  induction ms generalizing v with
  | nil => simp [Runs]
  | cons m ms ih =>
    constructor
    · rintro ⟨u, hs, h⟩
      obtain ⟨x, h1, h2⟩ := ih.mp h
      exact ⟨x, ⟨u, hs, h1⟩, h2⟩
    · rintro ⟨x, ⟨u, hs, h1⟩, h2⟩
      exact ⟨u, hs, ih.mpr ⟨x, h1, h2⟩⟩

/-- **Every move in a run stands between two scenes of it.** -/
theorem Runs.split {before after : List (Move ι Answer α)} {m : Move ι Answer α}
    {v w : Scene ι Answer α σ} (h : Runs answers plan v (before ++ m :: after) w) :
    ∃ u u', Runs answers plan v before u ∧ Step answers plan u m u' ∧
      Runs answers plan u' after w := by
  obtain ⟨u, hbefore, u', hstep, hafter⟩ := runs_append.mp h
  exact ⟨u, u', hbefore, hstep, hafter⟩

/-- **What holds at the start and is kept by every step holds throughout a run**; what is kept may
    speak of the moves so far. -/
theorem Runs.induction (keep : List (Move ι Answer α) → Scene ι Answer α σ → Prop)
    {v : Scene ι Answer α σ} (hstart : keep [] v)
    (hstep : ∀ ms u m u', keep ms u → Step answers plan u m u' → keep (ms ++ [m]) u') :
    ∀ {ms : List (Move ι Answer α)} {w : Scene ι Answer α σ}, Runs answers plan v ms w → keep ms w := by
  intro ms
  induction ms using List.reverseRecOn with
  | nil =>
    rintro w rfl
    exact hstart
  | append_singleton ms m ih =>
    intro w h
    obtain ⟨u, h1, _, hs, rfl⟩ := runs_append.mp h
    exact hstep ms u m w (ih h1) hs

/-- **A program may have all its turns in a row**, and then it does what it does by itself. -/
theorem runs_of_ends {i : ι} {t : σ} {r : α} : ∀ (v : Scene ι Answer α σ) {p : Program Answer α}
    {es : List (Exchange Answer)}, v.phase i = .running p → p.Ends answers v.state es r t →
      ∃ w, Runs answers plan v (es.map (fun x => .act i x.1 x.2) ++ [.finish i r]) w ∧ w.state = t
  | v, .done _, _, hi, ⟨hes, hr, ht⟩ => by
    subst hes hr
    exact ⟨_, ⟨_, .finish hi, rfl⟩, ht.symm⟩
  | v, .act _ next, _, hi, ⟨answer, m, _, hes, ha, hrest⟩ => by
    subst hes
    obtain ⟨w, hruns, hw⟩ :=
      runs_of_ends ⟨m, Function.update v.phase i (.running (next answer))⟩ (Function.update_self i _ _) hrest
    exact ⟨w, ⟨_, .act hi ha, hruns⟩, hw⟩

/-- The same for a program that has not started yet. -/
theorem runs_start_of_ends {v : Scene ι Answer α σ} {i : ι} {t : σ} {r : α} {es : List (Exchange Answer)}
    (hi : v.phase i = .waiting) (h : (plan i).Ends answers v.state es r t) :
    ∃ w, Runs answers plan v (.start i :: (es.map (fun x => .act i x.1 x.2) ++ [.finish i r])) w ∧
      w.state = t := by
  obtain ⟨w, hruns, hw⟩ :=
    runs_of_ends ⟨v.state, Function.update v.phase i (.running (plan i))⟩ (Function.update_self i _ _) h
  exact ⟨w, ⟨_, .start hi, hruns⟩, hw⟩

/-- How what a program did so far fits to how far it has come. -/
def Fits (plan : ι → Program Answer α) (ms : List (Move ι Answer α)) (i : ι) :
    Phase Answer α → Prop
  | .waiting => exchanges i ms = []
  | .running rest => .start i ∈ ms ∧ (plan i).Goes (exchanges i ms) rest
  | .returned r => .start i ∈ ms ∧ (plan i).Goes (exchanges i ms) (.done r)

/-- A move of another program changes nothing about a program. -/
theorem Fits.concat_of_ne {ms : List (Move ι Answer α)} {m : Move ι Answer α} {i : ι}
    {p : Phase Answer α} (h : Fits plan ms i p) (hm : m.exchange? i = none) :
    Fits plan (ms ++ [m]) i p := by
  have he : exchanges i (ms ++ [m]) = exchanges i ms := by
    rw [exchanges_concat, hm, Option.toList_none, List.append_nil]
  cases p with
  | waiting => exact he.trans h
  | running rest => exact ⟨List.mem_append_left _ h.1, by rw [he]; exact h.2⟩
  | returned r => exact ⟨List.mem_append_left _ h.1, by rw [he]; exact h.2⟩

/-- What programs did fits to how far they have come after one more move. -/
theorem Step.fits {ms : List (Move ι Answer α)} {m : Move ι Answer α} {u u' : Scene ι Answer α σ}
    (hs : Step answers plan u m u') (h : ∀ i, Fits plan ms i (u.phase i)) (i : ι) :
    Fits plan (ms ++ [m]) i (u'.phase i) := by
  cases hs with
  | @start j hj =>
    by_cases hij : i = j
    · subst hij
      have hi := h i
      rw [hj] at hi
      have hnone : exchanges i ms = [] := hi
      simp only [Function.update_self]
      refine ⟨List.mem_append_right _ List.mem_cons_self, ?_⟩
      rw [exchanges_concat, hnone]
      rfl
    · simp only [Function.update_of_ne hij]
      exact (h i).concat_of_ne rfl
  | @act j x next answer t hj ha =>
    by_cases hij : i = j
    · subst hij
      have hi := h i
      rw [hj] at hi
      simp only [Function.update_self]
      refine ⟨List.mem_append_left _ hi.1, ?_⟩
      rw [exchanges_concat]
      refine Program.goes_append.mpr ⟨_, hi.2, ?_⟩
      simp [Move.exchange?, Program.Goes]
    · simp only [Function.update_of_ne hij]
      exact (h i).concat_of_ne (if_neg fun e => hij e.symm)
  | @finish j r hj =>
    by_cases hij : i = j
    · subst hij
      have hi := h i
      rw [hj] at hi
      simp only [Function.update_self]
      have hfit : Fits plan ms i (.returned r) := hi
      exact hfit.concat_of_ne rfl
    · simp only [Function.update_of_ne hij]
      exact (h i).concat_of_ne rfl

/-- **What a program did in a run leads from its start to where it is**, and a program that goes on
    has started. -/
theorem Runs.goes {s : σ} {ms : List (Move ι Answer α)} {v : Scene ι Answer α σ}
    (h : Runs answers plan (opening s) ms v) {i : ι} {rest : Program Answer α}
    (hi : v.phase i = .running rest) : .start i ∈ ms ∧ (plan i).Goes (exchanges i ms) rest := by
  have hstart : ∀ i, Fits plan [] i ((opening s : Scene ι Answer α σ).phase i) := fun _ => rfl
  have hfits : ∀ i, Fits plan ms i (v.phase i) :=
    Runs.induction (fun ms v => ∀ i, Fits plan ms i (v.phase i)) hstart
      (fun _ _ _ _ hk hs => hs.fits hk) h
  have hi' := hfits i
  rw [hi] at hi'
  exact hi'

end Scene

end Scene

end Vignette
