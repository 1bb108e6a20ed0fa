import Vignette.Proofs.Snapshot.Service

/-!
# The counters add up

What snapshots of one kind were asked for, had done and answered can be counted from outside
(`Figures`). The counters of the kind must agree with these figures, however often and wherever the
store refuses and the browser fails (`Balanced`).

Main statement: **after every run of calls the counters of each kind are balanced, and no call bumps a
counter of a kind other than its own** (`counters_balanced`). One call is balanced by what it comes to
(`Called.balanced`), and balance is kept under addition (`Balanced.add`).
-/

namespace Vignette

/-! ## 1. Figures -/

@[simp] theorem isOk_ok {ε α : Type} (a : α) : (Except.ok a : Except ε α).isOk = true := rfl

@[simp] theorem isOk_error {ε α : Type} (e : ε) : (Except.error e : Except ε α).isOk = false := rfl

/-- Is there no thumbnail in what the store answers, without its refusing? -/
def answersNothing : Except StoreFailure (Option ByteArray) → Bool
  | .ok answer => (thumbnail? answer).isNone
  | .error _ => false

/-- Is there a thumbnail in what the store answers? -/
def answersThumbnail : Except StoreFailure (Option ByteArray) → Bool
  | .ok answer => (thumbnail? answer).isSome
  | .error _ => false

/-- What can be counted of calls from outside. -/
structure Figures where
  /-- Gets whose read was answered. -/
  answeredGets : Nat
  /-- Computations that were neither skipped nor refused when they looked into the store. -/
  computations : Nat
  /-- Computations that found a thumbnail. -/
  skips : Nat
  /-- Captures for gets and computations. -/
  captures : Nat
  /-- Writes that succeeded. -/
  stored : Nat
  /-- Writes that were refused. -/
  refusedWrites : Nat
  /-- Renderings that were asked for and succeeded. -/
  renderings : Nat
  /-- Warnings. -/
  warnings : Nat

namespace Figures

instance : Zero Figures where
  zero := ⟨0, 0, 0, 0, 0, 0, 0, 0⟩

instance : Add Figures where
  add f g :=
    ⟨f.answeredGets + g.answeredGets, f.computations + g.computations, f.skips + g.skips,
      f.captures + g.captures, f.stored + g.stored, f.refusedWrites + g.refusedWrites,
      f.renderings + g.renderings, f.warnings + g.warnings⟩

/-- The figures of a call. -/
def of (c : Call) (a : Account) (r : Reply) : Figures where
  answeredGets :=
    match c with
    | .get .. => (a.reads.any fun x => x.2.isOk).toNat
    | _ => 0
  computations :=
    match c with
    | .compute .. => (a.reads.all fun x => answersNothing x.2).toNat
    | _ => 0
  skips :=
    match c with
    | .compute .. => (a.reads.any fun x => answersThumbnail x.2).toNat
    | _ => 0
  captures :=
    match c.order? with
    | some _ => a.captures.length
    | none => 0
  stored := a.writes.countP fun x => x.2.2.isOk
  refusedWrites := a.writes.countP fun x => !x.2.2.isOk
  renderings :=
    match r with
    | .rendering (.ok _) => 1
    | _ => 0
  warnings := a.warnings.length

/-- The figures of a page that is captured for the store, without a look into it: those of a
    computation that is forced. -/
def ofProduction (a : Account) : Figures where
  answeredGets := 0
  computations := 1
  skips := 0
  captures := a.captures.length
  stored := a.writes.countP fun x => x.2.2.isOk
  refusedWrites := a.writes.countP fun x => !x.2.2.isOk
  renderings := 0
  warnings := a.warnings.length

/-- The figures of the calls that snapshots of a kind served. -/
def ofKind (kind : Kind) : List Served → Figures
  | [] => 0
  | v :: vs =>
    if v.snapshot.request.kind = kind then of v.call v.account v.reply + ofKind kind vs
    else ofKind kind vs

end Figures

/-! ## 2. Balance -/

/-- The counters of a kind agree with the figures of its calls. -/
structure Balanced (n : Counter → Nat) (f : Figures) : Prop where
  looked_up : n .hit + n .miss = f.answeredGets
  skipped : n .skip = f.skips
  captured : f.captures = n .miss + f.computations
  ended : f.captures = n .captureFailure + n .pictureFailure + n .stored + f.refusedWrites
  stored : n .stored = f.stored
  rendered : n .render = n .stored + f.refusedWrites + f.renderings
  warned : f.warnings = n .captureFailure + n .pictureFailure

theorem Balanced.zero : Balanced (fun _ => 0) 0 := by
  constructor <;> rfl

/-- **What is balanced in its parts is balanced.** -/
theorem Balanced.add {n m : Counter → Nat} {f g : Figures} (hf : Balanced n f) (hg : Balanced m g) :
    Balanced (fun c => n c + m c) (f + g) where
  looked_up := by
    have h := hf.looked_up
    have h' := hg.looked_up
    show n .hit + m .hit + (n .miss + m .miss) = f.answeredGets + g.answeredGets
    omega
  skipped := congrArg₂ (· + ·) hf.skipped hg.skipped
  captured := by
    have h := hf.captured
    have h' := hg.captured
    show f.captures + g.captures = n .miss + m .miss + (f.computations + g.computations)
    omega
  ended := by
    have h := hf.ended
    have h' := hg.ended
    show f.captures + g.captures = n .captureFailure + m .captureFailure +
      (n .pictureFailure + m .pictureFailure) + (n .stored + m .stored) +
      (f.refusedWrites + g.refusedWrites)
    omega
  stored := congrArg₂ (· + ·) hf.stored hg.stored
  rendered := by
    have h := hf.rendered
    have h' := hg.rendered
    show n .render + m .render = n .stored + m .stored + (f.refusedWrites + g.refusedWrites) +
      (f.renderings + g.renderings)
    omega
  warned := by
    have h := hf.warned
    have h' := hg.warned
    show f.warnings + g.warnings = n .captureFailure + m .captureFailure +
      (n .pictureFailure + m .pictureFailure)
    omega

/-- What is produced for a get after it missed is counted by the miss, and not as a computation. -/
theorem Balanced.of_miss {n m : Counter → Nat} {f : Figures} (h : Balanced n f)
    (hgets : f.answeredGets = 0) (hone : f.computations = 1)
    (hm : ∀ c, m c = n c + if Counter.miss = c then 1 else 0) :
    Balanced m { f with answeredGets := 1, computations := 0 } := by
  -- no other counter is bumped by the miss
  have hkeep : ∀ c, Counter.miss ≠ c → m c = n c := fun c hc => by rw [hm c, if_neg hc, Nat.add_zero]
  have hmiss : m .miss = n .miss + 1 := hm .miss
  have hlooked := h.looked_up
  have hcaptured := h.captured
  refine ⟨?_, ?_, ?_, ?_, ?_, ?_, ?_⟩
  · rw [hkeep .hit nofun, hmiss]
    show n .hit + (n .miss + 1) = 1
    omega
  · rw [hkeep .skip nofun]
    exact h.skipped
  · rw [hmiss]
    show f.captures = n .miss + 1 + 0
    omega
  · rw [hkeep .captureFailure nofun, hkeep .pictureFailure nofun, hkeep .stored nofun]
    exact h.ended
  · rw [hkeep .stored nofun]
    exact h.stored
  · rw [hkeep .render nofun, hkeep .stored nofun]
    exact h.rendered
  · rw [hkeep .captureFailure nofun, hkeep .pictureFailure nofun]
    exact h.warned

section Call

variable {s : Snapshot} {c : Call} {a : Account}

/-- What was bumped for a kind is found under it. -/
@[simp] theorem Tally.get_cons (kind : Kind) (c d : Counter) (t : Tally) :
    get ((kind, c) :: t) kind d = get t kind d + if c = d then 1 else 0 := by
  simp [get, List.count_cons]

/-- **A production is balanced.** -/
theorem Produced.balanced {identity : Identity} {key : Key} {window thumb : Size}
    {r : Except StoreFailure (Option ByteArray)} (h : Produced s identity key window thumb a r) :
    Balanced (a.counts.get s.request.kind) (Figures.ofProduction a) := by
  cases h with
  | fruitless answer e hf =>
    cases e with
    | capture e => constructor <;> simp [Figures.ofProduction, RenderFailure.counter]
    | transform e => constructor <;> simp [Figures.ofProduction, RenderFailure.counter]
  | written data payload hy reply =>
    cases reply with
    | error e => constructor <;> simp [Figures.ofProduction, storedCounts]
    | ok _ => constructor <;> simp [Figures.ofProduction, storedCounts]

/-- **Getting a thumbnail is balanced**: the captures are made for its misses. -/
theorem Filled.balanced_get {identity : Identity} {thumb : Option Size} {o : Order}
    {r : Except StoreFailure (Option ByteArray)} (h : Filled s (.get identity thumb) o a r) :
    Balanced (a.counts.get s.request.kind) (Figures.of (.get identity thumb) a (.thumbnail r)) := by
  cases h with
  | refused _ e => constructor <;> rfl
  | present _ t ht => constructor <;> simp [Figures.of, Call.foundCounter, Call.order?]
  | missed _ answer ha b r hp =>
    have hf : Figures.of (.get identity thumb)
        ({ reads := [(s.key o.window o.thumb, .ok answer)],
           counts := [(s.request.kind, .miss)] } ++ b) (.thumbnail r) =
        { Figures.ofProduction b with answeredGets := 1, computations := 0 } := by
      simp [Figures.of, Figures.ofProduction, Call.order?]
    have hb := hp.balanced.of_miss rfl rfl fun n => Tally.get_cons s.request.kind .miss n b.counts
    rw [← hf] at hb
    exact hb
  | forced hf => cases hf

/-- **A computation is balanced**: each is skipped, refused, or counted by its capture. -/
theorem Filled.balanced_compute {identity : Identity} {window thumb : Option Size} {force : Bool}
    {o : Order} {r : Except StoreFailure (Option ByteArray)}
    (h : Filled s (.compute identity window thumb force) o a r) :
    Balanced (a.counts.get s.request.kind)
      (Figures.of (.compute identity window thumb force) a (.thumbnail r)) := by
  cases h with
  | refused _ e => constructor <;> rfl
  | present _ t ht =>
    constructor <;>
      simp [Figures.of, Call.foundCounter, Call.order?, answersNothing, answersThumbnail,
        thumbnail?_of_not_isEmpty ht]
  | missed _ answer ha b r hp =>
    -- the look into the store counts for nothing, so what is left is the production
    have hf : Figures.of (.compute identity window thumb force)
        ({ reads := [(s.key o.window o.thumb, .ok answer)] } ++ b) (.thumbnail r) =
        Figures.ofProduction b := by
      simp [Figures.of, Figures.ofProduction, Call.order?, hp.reads, answersNothing,
        answersThumbnail, ha]
    have hb := hp.balanced
    rw [← hf] at hb
    exact hb
  | forced _ _ _ hp =>
    have hf : Figures.of (.compute identity window thumb force) a (.thumbnail r) =
        Figures.ofProduction a := by
      simp [Figures.of, Figures.ofProduction, Call.order?, hp.reads]
    rw [hf]
    exact hp.balanced

/-- **A call is balanced by what it comes to.** -/
theorem Called.balanced {r : Reply} (h : Called s c a r) :
    Balanced (a.counts.get s.request.kind) (Figures.of c a r) := by
  cases h with
  | filled ho h =>
    cases c with
    | get => exact h.balanced_get
    | compute => exact h.balanced_compute
    | cached => cases ho
    | lookup => cases ho
    | render => cases ho
  | looked ho hk answer =>
    cases c with
    | cached => constructor <;> rfl
    | lookup => constructor <;> rfl
    | get => cases ho
    | compute => cases ho
    | render => cases hk
  | rendered h =>
    cases h with
    | fruitless => constructor <;> rfl
    | yielded => constructor <;> simp [Figures.of, Call.order?]

/-- A production bumps counters of its own kind. -/
theorem Produced.kind_of_count {identity : Identity} {key : Key} {window thumb : Size}
    {r : Except StoreFailure (Option ByteArray)} (h : Produced s identity key window thumb a r) :
    ∀ x ∈ a.counts, x.1 = s.request.kind := by
  cases h with
  | fruitless => simp
  | written _ _ _ reply => cases reply <;> simp [storedCounts]

theorem Called.kind_of_count {r : Reply} (h : Called s c a r) :
    ∀ x ∈ a.counts, x.1 = s.request.kind := by
  cases h with
  | filled _ h =>
    cases h with
    | refused => simp
    | present => simp
    | missed _ _ _ b _ hp =>
      intro x hx
      rcases List.mem_append.mp hx with hx | hx
      · obtain ⟨n, -, rfl⟩ := List.mem_map.mp hx
        rfl
      · exact hp.kind_of_count x hx
    | forced _ _ _ hp => exact hp.kind_of_count
  | looked => simp
  | rendered h => cases h <;> simp

/-- **A call bumps no counter of another kind.** -/
theorem Called.counts_of_ne {r : Reply} (h : Called s c a r) {kind : Kind}
    (hne : s.request.kind ≠ kind) (n : Counter) : a.counts.get kind n = 0 := by
  refine List.count_eq_zero_of_not_mem fun hm => ?_
  exact hne (h.kind_of_count _ hm).symm

end Call

/-! ## 3. Runs of calls -/

section Serve

variable {σ : Type} {env : Surroundings σ}

/-- The counters after a run of calls are those before it and those of its calls. -/
theorem tally_serve (calls : List (Snapshot × Call)) (w : World σ) :
    (serve env calls w).2.tally =
      w.tally ++ (serve env calls w).1.flatMap fun v => v.account.counts := by
  unfold World.tally
  rw [events_serve, List.filterMap_append, List.filterMap_flatMap]
  rfl

/-- Calls that are each balanced are balanced together. -/
theorem balanced_of_called (kind : Kind) :
    ∀ vs : List Served, (∀ v ∈ vs, Called v.snapshot v.call v.account v.reply) →
      Balanced (Tally.get (vs.flatMap fun v => v.account.counts) kind) (Figures.ofKind kind vs)
  | [], _ => Balanced.zero
  | v :: vs, h => by
    have hv := h v List.mem_cons_self
    have hvs := balanced_of_called kind vs fun u hu => h u (List.mem_cons_of_mem v hu)
    have hget : Tally.get ((v :: vs).flatMap fun v => v.account.counts) kind = fun n =>
        v.account.counts.get kind n + Tally.get (vs.flatMap fun v => v.account.counts) kind n := by
      funext n
      rw [List.flatMap_cons, Tally.get_append]
    rw [hget]
    by_cases hkind : v.snapshot.request.kind = kind
    · rw [Figures.ofKind, if_pos hkind]
      subst hkind
      exact hv.balanced.add hvs
    · rw [Figures.ofKind, if_neg hkind]
      simp only [hv.counts_of_ne hkind, Nat.zero_add]
      exact hvs

/-- **After every run of calls the counters of each kind are balanced**, whatever the store refuses and
    whatever the browser answers, **and no call bumps a counter of a kind other than its own.** -/
theorem counters_balanced (env : Surroundings σ) (state : σ) (calls : List (Snapshot × Call))
    (kind : Kind) :
    Balanced ((serve env calls (.start state)).2.tally.get kind)
      (Figures.ofKind kind (serve env calls (.start state)).1) ∧
    ∀ (w : World σ) (s : Snapshot) (c : Call), s.request.kind ≠ kind →
      ∀ n, ((c.program s).runIn env w).2.tally.get kind n = w.tally.get kind n := by
  constructor
  · rw [tally_serve]
    exact balanced_of_called kind _ fun v hv => called_of_mem_serve hv
  · intro w s c hne n
    have hp : Passage (c.program s) env w (c.servedIn s env w).events := c.passage_servedIn s w
    have hcounts : ((c.program s).runIn env w).2.tally =
        w.tally ++ (c.servedIn s env w).account.counts := by
      unfold World.tally
      rw [hp.events, List.filterMap_append]
      rfl
    rw [hcounts, Tally.get_append, (c.called_servedIn s w).counts_of_ne hne, Nat.add_zero]

end Serve

end Vignette
