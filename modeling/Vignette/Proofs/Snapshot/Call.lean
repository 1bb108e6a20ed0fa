import Vignette.Proofs.Snapshot.Account

/-!
# Calls

A snapshot can be asked for a thumbnail in five ways (`Call`). Two of them, getting and computing, may
fill the store: these have an order (`Order`), that is, for whom and at which sizes the page is
captured if it must be. The others only look into the store, or only render.

Main statements: **the courses of calls** (`Course.call`), and **what a call comes to**
(`CallCourse.called`): the store refuses, or has a thumbnail, or the page is captured for it
(`Filled`).
-/

namespace Vignette

/-! ## 1. Calls -/

/-- What a snapshot is asked for. -/
inductive Call where
  | get (identity : Identity) (thumb : Option Size)
  | cached (window thumb : Option Size)
  | lookup (key : Key)
  | compute (identity : Identity) (window thumb : Option Size) (force : Bool)
  | render (identity : Identity) (window thumb : Size)
  deriving DecidableEq

/-- What is answered: a thumbnail from the store or for it, or a rendering. -/
inductive Reply where
  | thumbnail (result : Except StoreFailure (Option ByteArray))
  | rendering (result : Except RenderFailure ByteArray)

/-- For whom, and at which sizes, a call that may fill the store was made; sizes that were not given are
    the request's. -/
structure Order where
  identity : Identity
  window : Option Size
  thumb : Option Size
  deriving DecidableEq

namespace Order

/-- The window that the order comes to. -/
def windowFor (o : Order) (r : Request) : Size := o.window.getD r.window

/-- The thumbnail size that the order comes to. -/
def thumbFor (o : Order) (r : Request) : Size := o.thumb.getD r.thumb

end Order

namespace Call

/-- The program of a call. -/
def program (s : Snapshot) : Call → SnapshotProgram Reply
  | get identity thumb => do return .thumbnail (← s.get identity thumb)
  | cached window thumb => do return .thumbnail (← s.cached window thumb)
  | lookup key => do return .thumbnail (← Snapshot.lookup key)
  | compute identity window thumb force => do
    return .thumbnail (← s.compute identity window thumb force)
  | render identity window thumb => do return .rendering (← s.render identity window thumb)

/-- The key that a call is about; a rendering is about none. -/
def key? (s : Snapshot) : Call → Option Key
  | get _ thumb => some (s.key none thumb)
  | cached window thumb => some (s.key window thumb)
  | lookup key => some key
  | compute _ window thumb _ => some (s.key window thumb)
  | render .. => none

/-- The order of a call that may fill the store. -/
def order? : Call → Option Order
  | get identity thumb => some ⟨identity, none, thumb⟩
  | compute identity window thumb _ => some ⟨identity, window, thumb⟩
  | _ => none

/-- Is the store not looked into before the page is captured for it? -/
def isForced : Call → Bool
  | compute _ _ _ force => force
  | _ => false

/-- What a call with an order counts if there is a thumbnail in the store already. -/
def foundCounter : Call → Counter
  | get .. => .hit
  | _ => .skip

/-- What such a call counts if it looked for a thumbnail and there is none. -/
def missingCounters : Call → List Counter
  | get .. => [.miss]
  | _ => []

/-- What is answered if there is a thumbnail in the store already: a computation answers nothing. -/
def answerFound (t : ByteArray) : Call → Option ByteArray
  | compute .. => none
  | _ => some t

/-- A call with an order is about the key of the order's sizes. -/
theorem key?_of_order {s : Snapshot} {c : Call} {o : Order} (h : c.order? = some o) :
    c.key? s = some (s.key o.window o.thumb) := by
  cases c <;> cases h <;> rfl

/-- Of a thumbnail that is found, calls without an order answer it. -/
theorem answerFound_of_no_order {c : Call} (t : ByteArray) (h : c.order? = none) :
    c.answerFound t = some t := by
  cases c <;> first | rfl | cases h

end Call

/-! ## 2. The courses of calls -/

/-- The courses of a call. -/
inductive CallCourse (s : Snapshot) : Call → List Event → Reply → Prop where
  | get {identity : Identity} {thumb : Option Size} {es : List Event}
      {r : Except StoreFailure (Option ByteArray)} (h : GetCourse s identity thumb es r) :
      CallCourse s (.get identity thumb) es (.thumbnail r)
  | cached {window thumb : Option Size} {es : List Event}
      {r : Except StoreFailure (Option ByteArray)} (h : LookupCourse (s.key window thumb) es r) :
      CallCourse s (.cached window thumb) es (.thumbnail r)
  | lookup {key : Key} {es : List Event} {r : Except StoreFailure (Option ByteArray)}
      (h : LookupCourse key es r) : CallCourse s (.lookup key) es (.thumbnail r)
  | compute {identity : Identity} {window thumb : Option Size} {force : Bool} {es : List Event}
      {r : Except StoreFailure (Option ByteArray)}
      (h : ComputeCourse s identity window thumb force es r) :
      CallCourse s (.compute identity window thumb force) es (.thumbnail r)
  | render {identity : Identity} {window thumb : Size} {es : List Event}
      {r : Except RenderFailure ByteArray} (h : RenderCourse s identity window thumb es r) :
      CallCourse s (.render identity window thumb) es (.rendering r)

/-- A course of a program whose result is only put into other words. -/
theorem Course.of_map {α β : Type} {p : SnapshotProgram α} {f : α → β} {es : List Event} {b : β}
    (h : Course (p >>= fun a => Program.done (f a)) es b) : ∃ a, Course p es a ∧ b = f a := by
  obtain ⟨first, a, rest, rfl, hp, rfl, rfl⟩ := of_bind h
  rw [List.append_nil]
  exact ⟨a, hp, rfl⟩

/-- **The courses of calls.** -/
theorem Course.call {s : Snapshot} {c : Call} {es : List Event} {r : Reply}
    (h : Course (c.program s) es r) : CallCourse s c es r := by
  cases c with
  | get identity thumb =>
    obtain ⟨r, hr, rfl⟩ := of_map h
    exact .get hr.get
  | cached window thumb =>
    obtain ⟨r, hr, rfl⟩ := of_map h
    exact .cached (Course.lookup hr)
  | lookup key =>
    obtain ⟨r, hr, rfl⟩ := of_map h
    exact .lookup hr.lookup
  | compute identity window thumb force =>
    obtain ⟨r, hr, rfl⟩ := of_map h
    exact .compute hr.compute
  | render identity window thumb =>
    obtain ⟨r, hr, rfl⟩ := of_map h
    exact .render hr.render

/-! ## 3. What calls come to -/

/-- What a call with an order may come to. -/
inductive Filled (s : Snapshot) (c : Call) (o : Order) :
    Account → Except StoreFailure (Option ByteArray) → Prop where
  | refused (hf : c.isForced = false) (e : StoreFailure) :
      Filled s c o { reads := [(s.key o.window o.thumb, .error e)] } (.error e)
  | present (hf : c.isForced = false) (t : ByteArray) (ht : t.isEmpty = false) :
      Filled s c o
        { reads := [(s.key o.window o.thumb, .ok (some t))],
          counts := [(s.request.kind, c.foundCounter)] } (.ok (c.answerFound t))
  | missed (hf : c.isForced = false) (answer : Option ByteArray) (ha : thumbnail? answer = none)
      (a : Account) (r : Except StoreFailure (Option ByteArray))
      (hp : Produced s o.identity (s.key o.window o.thumb) (o.windowFor s.request)
        (o.thumbFor s.request) a r) :
      Filled s c o
        ({ reads := [(s.key o.window o.thumb, .ok answer)],
           counts := c.missingCounters.map fun n => (s.request.kind, n) } ++ a) r
  | forced (hf : c.isForced = true) (a : Account) (r : Except StoreFailure (Option ByteArray))
      (hp : Produced s o.identity (s.key o.window o.thumb) (o.windowFor s.request)
        (o.thumbFor s.request) a r) :
      Filled s c o a r

/-- What a call may come to. -/
inductive Called (s : Snapshot) : Call → Account → Reply → Prop where
  | filled {c : Call} {o : Order} {a : Account} {r : Except StoreFailure (Option ByteArray)}
      (ho : c.order? = some o) (h : Filled s c o a r) : Called s c a (.thumbnail r)
  | looked {c : Call} {key : Key} (ho : c.order? = none) (hk : c.key? s = some key)
      (answer : Except StoreFailure (Option ByteArray)) :
      Called s c { reads := [(key, answer)] } (.thumbnail (answer.map thumbnail?))
  | rendered {identity : Identity} {window thumb : Size} {a : Account}
      {r : Except RenderFailure ByteArray} (h : Rendered s identity window thumb a r) :
      Called s (.render identity window thumb) a (.rendering r)

section Called

variable {s : Snapshot} {es : List Event} {r : Except StoreFailure (Option ByteArray)}

/-- What a lookup comes to, by what it answers. -/
theorem LookupCourse.account_of_error {key : Key} {e : StoreFailure}
    (h : LookupCourse key es (.error e)) : Account.of es = { reads := [(key, .error e)] } := by
  cases h
  rfl

theorem LookupCourse.account_of_some {key : Key} {t : ByteArray}
    (h : LookupCourse key es (.ok (some t))) :
    Account.of es = { reads := [(key, .ok (some t))] } ∧ t.isEmpty = false := by
  cases h with
  | found _ ht => exact ⟨rfl, ht⟩

theorem LookupCourse.account_of_none {key : Key} (h : LookupCourse key es (.ok none)) :
    ∃ answer, Account.of es = { reads := [(key, .ok answer)] } ∧ thumbnail? answer = none := by
  cases h with
  | missed answer ha => exact ⟨answer, rfl, ha⟩

/-- **What getting a thumbnail comes to.** -/
theorem GetCourse.filled {identity : Identity} {thumb : Option Size}
    (h : GetCourse s identity thumb es r) :
    Filled s (.get identity thumb) ⟨identity, none, thumb⟩ (Account.of es) r := by
  cases h with
  | refused _ e hl =>
    rw [hl.account_of_error]
    exact .refused rfl e
  | hit ls t hl =>
    obtain ⟨ha, ht⟩ := hl.account_of_some
    rw [Account.of_append, ha]
    exact .present rfl t ht
  | missed ls fs _ hl hp =>
    obtain ⟨answer, ha, hnone⟩ := hl.account_of_none
    rw [Account.of_append, Account.of_cons, ha]
    exact .missed rfl answer hnone (Account.of fs) r hp.account

/-- **What a computation comes to.** -/
theorem ComputeCourse.filled {identity : Identity} {window thumb : Option Size} {force : Bool}
    (h : ComputeCourse s identity window thumb force es r) :
    Filled s (.compute identity window thumb force) ⟨identity, window, thumb⟩ (Account.of es) r := by
  cases h with
  | forced _ _ hp => exact .forced rfl (Account.of es) r hp.account
  | refused _ e hl =>
    rw [hl.account_of_error]
    exact .refused rfl e
  | skipped ls t hl =>
    obtain ⟨ha, ht⟩ := hl.account_of_some
    rw [Account.of_append, ha]
    exact .present rfl t ht
  | missed ls fs _ hl hp =>
    obtain ⟨answer, ha, hnone⟩ := hl.account_of_none
    rw [Account.of_append, ha]
    exact .missed rfl answer hnone (Account.of fs) r hp.account

/-- **What a call comes to.** -/
theorem CallCourse.called {c : Call} {r : Reply} (h : CallCourse s c es r) :
    Called s c (Account.of es) r := by
  cases h with
  | get h => exact .filled rfl h.filled
  | cached h =>
    obtain ⟨answer, ha, rfl⟩ := h.account
    rw [ha]
    exact .looked rfl rfl answer
  | lookup h =>
    obtain ⟨answer, ha, rfl⟩ := h.account
    rw [ha]
    exact .looked rfl rfl answer
  | compute h => exact .filled rfl h.filled
  | render h => exact .rendered h.account

/-- **What a call with an order writes came of its capture, at the sizes of the order and under their
    key.** -/
theorem Filled.of_write {c : Call} {o : Order} {a : Account} {key : Key} {payload : ByteArray}
    {reply : Except StoreFailure Unit} (h : Filled s c o a r) (hw : (key, payload, reply) ∈ a.writes) :
    key = s.key o.window o.thumb ∧
      ∃ data, a.captures = [(s.shot o.identity (o.windowFor s.request), .ok data)] ∧
        Yields s (o.windowFor s.request) (o.thumbFor s.request) data payload := by
  cases h with
  | refused => cases hw
  | present => cases hw
  | missed _ _ _ _ _ hp => exact hp.of_write hw
  | forced _ _ _ hp => exact hp.of_write hw

/-- Calls without an order write nothing. -/
theorem Called.order_of_write {c : Call} {a : Account} {answer : Reply} {key : Key} {payload : ByteArray}
    {reply : Except StoreFailure Unit} (h : Called s c a answer)
    (hw : (key, payload, reply) ∈ a.writes) : ∃ o r, c.order? = some o ∧ Filled s c o a r := by
  cases h with
  | filled ho h => exact ⟨_, _, ho, h⟩
  | looked => cases hw
  | rendered h => cases h <;> cases hw

end Called

end Vignette
