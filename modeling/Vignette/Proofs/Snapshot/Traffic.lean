import Vignette.Proofs.Program.Interleaving
import Vignette.Proofs.Snapshot.Call
import Vignette.Store

/-!
# Calls side by side

Several calls are served at the same time by one store in memory. The store does one action at a
time (`Store.Answers`), and the browser answers as it likes; between two actions of a call any other
calls may have their turns.

Main statement: **what stands under a key is what was written there last, and a call writes under its own
key alone; so a thumbnail that a call answers stood under its key while the call was served**
(`entry_is_latest_write`).
-/

namespace Vignette

open Scene (Runs Step opening)

/-! ## 1. The store between the calls -/

/-- How a store in memory answers an action, and what it leaves; what the browser answers is open. -/
def Store.Answers : (x : SnapshotAction) → Store → x.Answer → Store → Prop
  | .read key, s, answer, t => answer = .ok (s.get? key) ∧ t = s
  | .write key payload, s, answer, t => answer = .ok () ∧ t = s.put key payload
  | .capture _, s, _, t => t = s
  | .note _, s, _, t => t = s
  | .count _ _, s, _, t => t = s

section Traffic

variable {ι : Type} [DecidableEq ι]

/-- The payload that a move writes under a key, if it does. -/
def Move.put? (key : Key) : Move ι SnapshotAction.Answer Reply → Option ByteArray
  | act _ (.write k payload) _ => if key = k then some payload else none
  | _ => none

/-- The payload that was written last under a key. -/
def latest? (key : Key) (ms : List (Move ι SnapshotAction.Answer Reply)) : Option ByteArray :=
  (ms.filterMap (Move.put? key)).getLast?

omit [DecidableEq ι] in
theorem latest?_concat (key : Key) (ms : List (Move ι SnapshotAction.Answer Reply))
    (m : Move ι SnapshotAction.Answer Reply) :
    latest? key (ms ++ [m]) = (m.put? key).or (latest? key ms) := by
  rw [latest?, latest?, List.filterMap_append]
  cases h : m.put? key <;> simp [h]

/-- A move changes what stands under a key just by writing there. -/
theorem Scene.Step.get?_eq {plan : ι → SnapshotProgram Reply} {u u' : Scene ι SnapshotAction.Answer Reply Store}
    {m : Move ι SnapshotAction.Answer Reply} (h : Step Store.Answers plan u m u') (key : Key) :
    u'.state.get? key = (m.put? key).or (u.state.get? key) := by
  cases h with
  | start => rfl
  | finish => rfl
  | @act i x next answer t hi ha =>
    cases x with
    | write k payload =>
      obtain ⟨-, rfl⟩ := ha
      show (u.state.put k payload).get? key = (if key = k then some payload else none).or _
      rw [Store.get?_put]
      split <;> rfl
    | read k =>
      obtain ⟨-, rfl⟩ := ha
      rfl
    | capture shot =>
      obtain rfl : t = u.state := ha
      rfl
    | note n =>
      obtain rfl : t = u.state := ha
      rfl
    | count kind c =>
      obtain rfl : t = u.state := ha
      rfl

/-- **What stands under a key is what was written there last**, or else what stood there at the start. -/
theorem Scene.Runs.get?_eq_latest {plan : ι → SnapshotProgram Reply} {store : Store}
    {ms : List (Move ι SnapshotAction.Answer Reply)} {v : Scene ι SnapshotAction.Answer Reply Store}
    (h : Runs Store.Answers plan (opening store) ms v) (key : Key) :
    v.state.get? key = (latest? key ms).or (store.get? key) := by
  have hstart : (opening store : Scene ι SnapshotAction.Answer Reply Store).state.get? key =
      (latest? key ([] : List (Move ι SnapshotAction.Answer Reply))).or (store.get? key) := rfl
  refine Runs.induction
    (fun ms v => v.state.get? key = (latest? key ms).or (store.get? key)) hstart ?_ h
  intro ms u m u' hu hs
  rw [hs.get?_eq key, hu, latest?_concat]
  cases m.put? key <;> rfl

end Traffic

/-! ## 2. What a call does -/

/-- The event of an exchange. -/
def Event.ofExchange (d : Exchange SnapshotAction.Answer) : Event := .of d.1 d.2

/-- Going on to the end is a course. -/
theorem Course.of_goes {α : Type} {r : α} :
    ∀ {ds : List (Exchange SnapshotAction.Answer)} {p : SnapshotProgram α},
      p.Goes ds (.done r) → Course p (ds.map Event.ofExchange) r
  | [], p, h => by
    obtain rfl : p = .done r := Eq.symm h
    exact ⟨rfl, rfl⟩
  | d :: ds, p, h => by
    obtain ⟨next, rfl, h⟩ := h
    exact ⟨d.2, _, rfl, of_goes h⟩

/-- An answer to every action. -/
def SnapshotAction.someAnswer : (x : SnapshotAction) → x.Answer
  | .read _ => .ok none
  | .write _ _ => .ok ()
  | .capture _ => .error .empty
  | .note _ => ()
  | .count _ _ => ()

theorem Account.mem_writes_of_exchange {ds : List (Exchange SnapshotAction.Answer)} {key : Key}
    {payload : ByteArray} {answer : Except StoreFailure Unit}
    (h : (⟨.write key payload, answer⟩ : Exchange SnapshotAction.Answer) ∈ ds) :
    (key, payload, answer) ∈ (of (ds.map Event.ofExchange)).writes :=
  List.mem_filterMap.mpr ⟨_, List.mem_map_of_mem h, rfl⟩

/-- What was written by an account of exchanges is one of them. -/
theorem Account.exchange_of_mem_writes {ds : List (Exchange SnapshotAction.Answer)} {key : Key}
    {payload : ByteArray} {answer : Except StoreFailure Unit}
    (h : (key, payload, answer) ∈ (of (ds.map Event.ofExchange)).writes) :
    (⟨.write key payload, answer⟩ : Exchange SnapshotAction.Answer) ∈ ds := by
  obtain ⟨e, he, hw⟩ := List.mem_filterMap.mp h
  obtain ⟨⟨x, a⟩, hd, rfl⟩ := List.mem_map.mp he
  cases x <;> cases hw
  exact hd

/-- What was read by an account of exchanges is one of them. -/
theorem Account.exchange_of_mem_reads {ds : List (Exchange SnapshotAction.Answer)} {key : Key}
    {answer : Except StoreFailure (Option ByteArray)}
    (h : (key, answer) ∈ (of (ds.map Event.ofExchange)).reads) :
    (⟨.read key, answer⟩ : Exchange SnapshotAction.Answer) ∈ ds := by
  obtain ⟨e, he, hr⟩ := List.mem_filterMap.mp h
  obtain ⟨⟨x, a⟩, hd, rfl⟩ := List.mem_map.mp he
  cases x <;> cases hr
  exact hd

section Call

variable {s : Snapshot} {c : Call} {a : Account}

/-- What a production answers was written. -/
theorem Produced.written_of_some {identity : Identity} {key : Key} {window thumb : Size} {t : ByteArray}
    (h : Produced s identity key window thumb a (.ok (some t))) : (key, t, .ok ()) ∈ a.writes := by
  generalize hr : (.ok (some t) : Except StoreFailure (Option ByteArray)) = r at h
  cases h with
  | fruitless => cases hr
  | written data payload hy reply =>
    cases reply with
    | error e => cases hr
    | ok _ =>
      cases hr
      exact List.mem_cons_self

/-- **What a call answers it has read or written, under its own key.** -/
theorem Called.source {t : ByteArray} (h : Called s c a (.thumbnail (.ok (some t)))) :
    ∃ key, c.key? s = some key ∧
      ((key, .ok (some t)) ∈ a.reads ∨ (key, t, .ok ()) ∈ a.writes) := by
  generalize hr : Reply.thumbnail (.ok (some t)) = reply at h
  cases h with
  | @filled _ o _ r ho h =>
    refine ⟨_, Call.key?_of_order ho, ?_⟩
    cases hr
    generalize hr : (.ok (some t) : Except StoreFailure (Option ByteArray)) = r at h
    cases h with
    | refused => cases hr
    | present hf found hne =>
      have hfound : c.answerFound found = some t := (Except.ok.inj hr).symm
      refine .inl ?_
      cases c <;> cases hfound <;> exact List.mem_cons_self
    | missed hf answer ha b r hp =>
      subst hr
      exact .inr (List.mem_append_right _ hp.written_of_some)
    | forced hf b r hp =>
      subst hr
      exact .inr hp.written_of_some
  | @looked _ key ho hk answer =>
    refine ⟨key, hk, .inl ?_⟩
    cases answer with
    | error e => cases hr
    | ok answer =>
      have ha : thumbnail? answer = some t := (Except.ok.inj (Reply.thumbnail.inj hr)).symm
      rw [(thumbnail?_eq_some.mp ha).1]
      exact List.mem_cons_self
  | rendered h => cases hr

/-- **A call writes under its own key alone.** -/
theorem Called.key_of_write {r : Reply} (h : Called s c a r) {key : Key} {payload : ByteArray}
    {reply : Except StoreFailure Unit} (hw : (key, payload, reply) ∈ a.writes) : c.key? s = some key := by
  obtain ⟨o, r, ho, hf⟩ := h.order_of_write hw
  rw [Call.key?_of_order ho, (hf.of_write hw).1]

end Call

/-! ## 3. Calls between calls -/

section Traffic

variable {ι : Type} [DecidableEq ι]

/-- The programs of calls. -/
def Call.plans (calls : ι → Snapshot × Call) (i : ι) : SnapshotProgram Reply :=
  (calls i).2.program (calls i).1

/-- The key that a call is about. -/
def Call.ownKey? (calls : ι → Snapshot × Call) (i : ι) : Option Key := (calls i).2.key? (calls i).1

variable {calls : ι → Snapshot × Call} {store : Store}
  {ms : List (Move ι SnapshotAction.Answer Reply)} {v : Scene ι SnapshotAction.Answer Reply Store}

/-- **Whatever its turns, a call writes under its own key alone.** -/
theorem Scene.Runs.key_of_write (h : Runs Store.Answers (Call.plans calls) (opening store) ms v) {i : ι}
    {key : Key} {payload : ByteArray} {answer : Except StoreFailure Unit}
    (hm : .act i (.write key payload) answer ∈ ms) : Call.ownKey? calls i = some key := by
  obtain ⟨before, after, rfl⟩ := List.append_of_mem hm
  obtain ⟨u, u', hbefore, hstep, -⟩ := h.split
  cases hstep with
  | @act _ _ next _ _ hi _ =>
    -- the call need not have returned, but it could do so
    obtain ⟨-, hgoes⟩ := hbefore.goes hi
    obtain ⟨ds, r, hend⟩ := Program.exists_goes_done SnapshotAction.someAnswer (next answer)
    have hall : (Call.plans calls i).Goes
        (exchanges i before ++ ⟨.write key payload, answer⟩ :: ds) (.done r) :=
      Program.goes_append.mpr ⟨_, hgoes, next, rfl, hend⟩
    exact (Course.of_goes hall).call.called.key_of_write
      (Account.mem_writes_of_exchange (List.mem_append_right _ List.mem_cons_self))

/-- A thumbnail that a call is about to answer stood under its key, at some moment since it started. -/
theorem Scene.Runs.stood_of_done (h : Runs Store.Answers (Call.plans calls) (opening store) ms v) {i : ι}
    {t : ByteArray} (hi : v.phase i = .running (.done (.thumbnail (.ok (some t))))) :
    ∃ key, Call.ownKey? calls i = some key ∧ ∃ first last u, ms = first ++ last ∧ .start i ∈ first ∧
      Runs Store.Answers (Call.plans calls) (opening store) first u ∧
      Runs Store.Answers (Call.plans calls) u last v ∧ u.state.get? key = some t := by
  obtain ⟨-, hgoes⟩ := h.goes hi
  obtain ⟨key, hkey, hsource⟩ := (Course.of_goes hgoes).call.called.source
  refine ⟨key, hkey, ?_⟩
  rcases hsource with hread | hwrite
  · obtain ⟨before, after, rfl⟩ :=
      List.append_of_mem (mem_exchanges.mp (Account.exchange_of_mem_reads hread))
    obtain ⟨u, u', hbefore, hstep, hafter⟩ := h.split
    have hstored : u.state.get? key = some t := by
      cases hstep with
      | act hi ha => exact (Except.ok.inj ha.1).symm
    have hstarted : .start i ∈ before := by
      cases hstep with
      | act hi ha => exact (hbefore.goes hi).1
    exact ⟨before, _, u, rfl, hstarted, hbefore, ⟨u', hstep, hafter⟩, hstored⟩
  · obtain ⟨before, after, rfl⟩ :=
      List.append_of_mem (mem_exchanges.mp (Account.exchange_of_mem_writes hwrite))
    obtain ⟨u, u', hbefore, hstep, hafter⟩ := h.split
    have hstored : u'.state.get? key = some t := by
      rw [hstep.get?_eq key]
      simp [Move.put?]
    have hstarted : .start i ∈ before := by
      cases hstep with
      | act hi ha => exact (hbefore.goes hi).1
    refine ⟨before ++ [_], after, u', (List.append_cons _ _ _), List.mem_append_left _ hstarted,
      Scene.runs_append.mpr ⟨u, hbefore, u', hstep, rfl⟩, hafter, hstored⟩

/-- **Whatever calls are served side by side, in whatever order they have their turns, and whatever the
    browser answers: what stands under a key is what was written there last, or else what stood there at
    the start; a call writes under its own key alone; and a thumbnail that a call answers stood under
    that key at a moment between its start and its return.** -/
theorem entry_is_latest_write (calls : ι → Snapshot × Call) {store : Store}
    {ms : List (Move ι SnapshotAction.Answer Reply)} {v : Scene ι SnapshotAction.Answer Reply Store}
    (h : Runs Store.Answers (Call.plans calls) (opening store) ms v) :
    (∀ key, v.state.get? key = (latest? key ms).or (store.get? key)) ∧
    (∀ i key payload answer, .act i (.write key payload) answer ∈ ms →
      Call.ownKey? calls i = some key) ∧
    ∀ i t before after, ms = before ++ .finish i (.thumbnail (.ok (some t))) :: after →
      ∃ key, Call.ownKey? calls i = some key ∧
        ∃ first last u, before = first ++ last ∧ .start i ∈ first ∧
          Runs Store.Answers (Call.plans calls) (opening store) first u ∧
          Runs Store.Answers (Call.plans calls) u
            (last ++ .finish i (.thumbnail (.ok (some t))) :: after) v ∧
          u.state.get? key = some t := by
  refine ⟨fun key => h.get?_eq_latest key, fun i key payload answer hm => h.key_of_write hm,
    fun i t before after hms => ?_⟩
  subst hms
  obtain ⟨w, w', hbefore, hstep, hafter⟩ := h.split
  have hdone : w.phase i = .running (.done (.thumbnail (.ok (some t)))) := by
    cases hstep with
    | finish hi => exact hi
  obtain ⟨key, hkey, first, last, u, rfl, hstarted, hfirst, hlast, hstored⟩ :=
    hbefore.stood_of_done hdone
  exact ⟨key, hkey, first, last, u, rfl, hstarted, hfirst,
    Scene.runs_append.mpr ⟨w, hlast, w', hstep, hafter⟩, hstored⟩

/-- A get that found nothing is overtaken by a forced computation, which stores its own thumbnail before
    the get does: the get answers what it stored itself, and that is what stands in the end. -/
theorem overtaken_get_answers_latest :
    let s : Snapshot :=
      ⟨⟨.chart, "http://localhost/chart/1", "c0ffee", ⟨800, 600⟩, ⟨800, 600⟩⟩, Decoder.builtIn, .png, false⟩
    let calls : Bool → Snapshot × Call
      | false => (s, .get .anonymous none)
      | true => (s, .compute .anonymous none none true)
    let key := s.key none none
    let shot := s.shot .anonymous ⟨800, 600⟩
    let before : List (Move Bool SnapshotAction.Answer Reply) :=
      [.start false, .act false (.note (.lookup key)) (), .act false (.read key) (.ok none),
        .start true, .act true (.note (.processing key)) (),
        .act true (.capture shot) (.ok ⟨#[7]⟩), .act true (.count .chart .render) (),
        .act true (.note (.storing key)) (), .act true (.write key ⟨#[7]⟩) (.ok ()),
        .act false (.note (.missing key)) (), .act false (.count .chart .miss) (),
        .act false (.note (.processing key)) (), .act false (.capture shot) (.ok ⟨#[8]⟩),
        .act false (.count .chart .render) (), .act false (.note (.storing key)) (),
        .act false (.write key ⟨#[8]⟩) (.ok ()), .act false (.count .chart .stored) (),
        .act false (.note (.stored key)) ()]
    ∃ v, Runs Store.Answers (Call.plans calls) (opening Store.empty)
        (before ++ [.finish false (.thumbnail (.ok (some ⟨#[8]⟩)))]) v ∧
      v.state.get? key = some ⟨#[8]⟩ ∧
      ∃ first last u, before = first ++ last ∧ .start false ∈ first ∧
        Runs Store.Answers (Call.plans calls) (opening Store.empty) first u ∧
        u.state.get? key = some ⟨#[8]⟩ := by
  intro s calls key shot before
  have hruns : ∃ v, Runs Store.Answers (Call.plans calls) (opening Store.empty)
      (before ++ [.finish false (.thumbnail (.ok (some ⟨#[8]⟩)))]) v :=
    ⟨_, _, .start rfl, _, .act rfl rfl, _, .act rfl ⟨rfl, rfl⟩, _, .start rfl, _, .act rfl rfl,
      _, .act rfl rfl, _, .act rfl rfl, _, .act rfl rfl, _, .act rfl ⟨rfl, rfl⟩, _, .act rfl rfl,
      _, .act rfl rfl, _, .act rfl rfl, _, .act rfl rfl, _, .act rfl rfl, _, .act rfl rfl,
      _, .act rfl ⟨rfl, rfl⟩, _, .act rfl rfl, _, .act rfl rfl, _, .finish rfl, rfl⟩
  obtain ⟨v, h⟩ := hruns
  obtain ⟨hlatest, -, hanswered⟩ := entry_is_latest_write calls h
  obtain ⟨k, hk, first, last, u, hsplit, hstarted, hfirst, -, hstored⟩ :=
    hanswered false ⟨#[8]⟩ before [] rfl
  obtain rfl : key = k := Option.some.inj hk
  refine ⟨v, h, ?_, first, last, u, hsplit, hstarted, hfirst, hstored⟩
  rw [hlatest key]
  simp only [before, latest?, List.cons_append, List.nil_append, List.filterMap, Move.put?, if_true]
  rfl

end Traffic

end Vignette
