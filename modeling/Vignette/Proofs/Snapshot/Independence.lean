import Vignette.Proofs.Snapshot.Bound
import Vignette.Proofs.Snapshot.Service

/-!
# Calls about different keys

A call has to do with one key. Where the store refuses nothing and the browser's answer depends on nothing but
what it is asked for, all that a call comes to is decided by what stands under that key, and all that it
changes stands there: the call could as well be made in a store that has this one entry (`cell`).

So calls about different keys (`Apart`) do not notice each other. Main statements: **a program that is bound
to a key runs as it does with the entry of that key alone** (`World.Echoes.runIn`); **calls about different
keys come to what they come to by themselves** (`serve_apart`), **and so to the same in every order**
(`calls_commute`).
-/

namespace Vignette

/-! ## 1. One entry by itself -/

/-- A store with one entry, whatever the key is, and a browser that answers by what it is asked for. -/
def cell (answer : Shot → Except CaptureFailure ByteArray) : Surroundings (Option ByteArray) where
  read _ s := (.ok s, s)
  write _ payload _ := (.ok (), some payload)
  capture shot s := (answer shot, s)

section Alone

variable {σ α : Type} {env : Surroundings σ} {entries : σ → Entries}
  {answer : Shot → Except CaptureFailure ByteArray} {key : Option Key} {window thumb : Size}

/-- Since a world nothing has changed but the entry of one key, and that has become what a cell's entry has;
    what has happened since then has happened in the cell. -/
structure World.Echoes (entries : σ → Entries) (key : Option Key) (start w : World σ)
    (m : World (Option ByteArray)) : Prop where
  own : ∀ k ∈ key, entries w.state k = m.state
  rest : ∀ k ∉ key, entries w.state k = entries start.state k
  events : w.events = start.events ++ m.events

variable (hk : env.Keeps entries) (hs : env.Steady) (hcapture : ∀ shot s, (env.capture shot s).1 = answer shot)
include hk hs hcapture

/-- An action has the answer that it has in the cell. -/
theorem World.Echoes.answer_eq {start w : World σ} {m : World (Option ByteArray)}
    (h : World.Echoes entries key start w m) {x : SnapshotAction} (hx : x.Bound key window thumb) :
    (w.perform env x).1 = (m.perform (cell answer) x).1 := by
  cases x with
  | read k =>
    show (env.read k w.state).1 = .ok m.state
    cases hread : (env.read k w.state).1 with
    | error e => exact absurd hread (hs.read_ok k w.state e)
    | ok found => rw [hk.read_answer k w.state found hread, h.own k hx]
  | write k payload =>
    show (env.write k payload w.state).1 = .ok ()
    cases hwrite : (env.write k payload w.state).1 with
    | error e => exact absurd hwrite (hs.write_ok k payload w.state e)
    | ok _ => rfl
  | capture shot => exact hcapture shot w.state
  | note n => rfl
  | count kind c => rfl

/-- **An action that is bound to the key does what it does in the cell.** -/
theorem World.Echoes.perform {start w : World σ} {m : World (Option ByteArray)}
    (h : World.Echoes entries key start w m) {x : SnapshotAction} (hx : x.Bound key window thumb) :
    World.Echoes entries key start (w.perform env x).2 (m.perform (cell answer) x).2 := by
  have hanswer := h.answer_eq hk hs hcapture hx
  have hleads : entries (w.perform env x).2.state =
      (Event.of x (m.perform (cell answer) x).1).put (entries w.state) := by
    rw [← hanswer]
    exact (World.leads_perform hk x w).2
  have hevents : (w.perform env x).2.events = start.events ++ (m.perform (cell answer) x).2.events := by
    rw [World.events_perform, World.events_perform, hanswer, h.events, List.append_assoc]
  cases x with
  | write k payload =>
    have hput : entries (w.perform env (.write k payload)).2.state =
        Function.update (entries w.state) k (some payload) := hleads
    refine ⟨fun k' hk' => ?_, fun k' hk' => ?_, hevents⟩
    · obtain rfl : k' = k := Option.mem_unique hk' hx
      rw [hput, Function.update_self]
      rfl
    · have hne : k' ≠ k := by
        rintro rfl
        exact hk' hx
      rw [hput, Function.update_of_ne hne, h.rest k' hk']
  | _ => exact ⟨fun k' hk' => (congrFun hleads k').trans (h.own k' hk'),
      fun k' hk' => (congrFun hleads k').trans (h.rest k' hk'), hevents⟩

/-- **A program that is bound to a key runs as it does with the entry of that key alone.** -/
theorem World.Echoes.runIn : ∀ {p : SnapshotProgram α}, p.Within (SnapshotAction.Bound key window thumb) →
    ∀ {start w : World σ} {m : World (Option ByteArray)}, World.Echoes entries key start w m →
      (p.runIn env w).1 = (p.runIn (cell answer) m).1 ∧
        World.Echoes entries key start (p.runIn env w).2 (p.runIn (cell answer) m).2
  | .done _, _, _, _, _, h => ⟨rfl, h⟩
  | .act x next, hp, start, w, m, h => by
    have hrun := World.Echoes.runIn (hp.2 (m.perform (cell answer) x).1) (h.perform hk hs hcapture hp.1)
    have hanswer := h.answer_eq hk hs hcapture hp.1
    rw [SnapshotProgram.runIn, SnapshotProgram.runIn, Program.run_act, Program.run_act, hanswer]
    exact hrun

end Alone

/-! ## 2. Calls by themselves -/

namespace Call

variable (answer : Shot → Except CaptureFailure ByteArray) (s : Snapshot) (c : Call)

/-- The call, run with one entry. -/
def inCell (entries : Entries) : Reply × World (Option ByteArray) :=
  (c.program s).runIn (cell answer) (World.start ((c.key? s).bind entries))

/-- What the call comes to with one entry. -/
def alone (entries : Entries) : Served := ⟨s, c, (c.inCell answer s entries).1, (c.inCell answer s entries).2.events⟩

/-- What the call leaves in the one entry. -/
def leaves (entries : Entries) : Option ByteArray := (c.inCell answer s entries).2.state

/-- The call has to do with no entry but that of its key. -/
theorem inCell_congr {entries other : Entries} (h : ∀ k ∈ c.key? s, entries k = other k) :
    c.inCell answer s entries = c.inCell answer s other := by
  have hbind : (c.key? s).bind entries = (c.key? s).bind other := by
    cases hkey : c.key? s with
    | none => rfl
    | some k => exact h k hkey
  rw [inCell, inCell, hbind]

theorem alone_congr {entries other : Entries} (h : ∀ k ∈ c.key? s, entries k = other k) :
    c.alone answer s entries = c.alone answer s other := by
  rw [alone, alone, inCell_congr answer s c h]

theorem leaves_congr {entries other : Entries} (h : ∀ k ∈ c.key? s, entries k = other k) :
    c.leaves answer s entries = c.leaves answer s other := by
  rw [leaves, leaves, inCell_congr answer s c h]

end Call

/-- Two calls that are not about one key. -/
def Apart (x y : Snapshot × Call) : Prop := ∀ k ∈ x.2.key? x.1, k ∉ y.2.key? y.1

theorem Apart.symm {x y : Snapshot × Call} (h : Apart x y) : Apart y x := fun k hy hx => h k hx hy

section Commute

variable {σ : Type} {env : Surroundings σ} {entries : σ → Entries}
  {answer : Shot → Except CaptureFailure ByteArray} (hk : env.Keeps entries) (hs : env.Steady)
  (hcapture : ∀ shot s, (env.capture shot s).1 = answer shot)
include hk hs hcapture

/-- **A call comes to what it comes to with its entry alone, and changes nothing else.** -/
theorem Call.servedIn_eq (s : Snapshot) (c : Call) (w : World σ) :
    c.servedIn s env w = c.alone answer s (entries w.state) ∧
    (∀ k ∈ c.key? s, entries ((c.program s).runIn env w).2.state k = c.leaves answer s (entries w.state)) ∧
    ∀ k ∉ c.key? s, entries ((c.program s).runIn env w).2.state k = entries w.state k := by
  have hstart : World.Echoes entries (c.key? s) w w (World.start ((c.key? s).bind (entries w.state))) := by
    refine ⟨fun k hkey => ?_, fun _ _ => rfl, (List.append_nil _).symm⟩
    rw [Option.mem_def.mp hkey]
    rfl
  obtain ⟨hreply, hend⟩ := hstart.runIn hk hs hcapture (c.within s)
  refine ⟨?_, hend.own, hend.rest⟩
  rw [Call.servedIn, hend.events, List.drop_left, hreply]
  rfl

/-- **Calls about different keys come to what they come to by themselves.** -/
theorem serve_apart : ∀ {calls : List (Snapshot × Call)}, calls.Pairwise Apart → ∀ w : World σ,
    (serve env calls w).1 = calls.map (fun x => x.2.alone answer x.1 (entries w.state)) ∧
    (∀ x ∈ calls, ∀ k ∈ x.2.key? x.1,
      entries (serve env calls w).2.state k = x.2.leaves answer x.1 (entries w.state)) ∧
    ∀ k, (∀ x ∈ calls, k ∉ x.2.key? x.1) → entries (serve env calls w).2.state k = entries w.state k
  | [], _, _ => ⟨rfl, fun _ hx => absurd hx List.not_mem_nil, fun _ _ => rfl⟩
  | (s, c) :: calls, h, w => by
    obtain ⟨hhead, htail⟩ := List.pairwise_cons.mp h
    obtain ⟨hserved, hown, hrest⟩ := Call.servedIn_eq hk hs hcapture s c w
    obtain ⟨ihserved, ihown, ihrest⟩ := serve_apart htail ((c.program s).runIn env w).2
    -- the calls that follow find their entries as they were
    have hfind {x : Snapshot × Call} (hx : x ∈ calls) : ∀ k ∈ x.2.key? x.1,
        entries ((c.program s).runIn env w).2.state k = entries w.state k :=
      fun k hkey => hrest k fun hc => hhead x hx k hc hkey
    rw [serve_cons]
    refine ⟨?_, ?_, fun k hnone => ?_⟩
    · rw [List.map_cons, hserved, ihserved]
      exact congrArg _ (List.map_congr_left fun x hx => Call.alone_congr answer x.1 x.2 (hfind hx))
    · intro x hx k hkey
      rcases List.mem_cons.mp hx with rfl | hx
      · rw [ihrest k fun y hy => hhead y hy k hkey]
        exact hown k hkey
      · rw [ihown x hx k hkey]
        exact Call.leaves_congr answer x.1 x.2 (hfind hx)
    · rw [ihrest k fun x hx => hnone x (List.mem_cons_of_mem _ hx)]
      exact hrest k (hnone (s, c) List.mem_cons_self)

/-- In every order each call comes to what it comes to by itself. -/
theorem serve_eq_servedIn {calls : List (Snapshot × Call)} (h : calls.Pairwise Apart) (w : World σ) :
    (serve env calls w).1 = calls.map fun x => x.2.servedIn x.1 env w := by
  rw [(serve_apart hk hs hcapture h w).1]
  exact List.map_congr_left fun x _ => (Call.servedIn_eq hk hs hcapture x.1 x.2 w).1.symm

/-- **Every order leaves the same entries.** -/
theorem entries_of_perm {calls others : List (Snapshot × Call)} (h : calls.Pairwise Apart)
    (hperm : others.Perm calls) (w : World σ) :
    entries (serve env others w).2.state = entries (serve env calls w).2.state := by
  obtain ⟨-, hown, hrest⟩ := serve_apart hk hs hcapture h w
  obtain ⟨-, hown', hrest'⟩ := serve_apart hk hs hcapture (hperm.symm.pairwise h Apart.symm) w
  funext k
  by_cases hkey : ∃ x ∈ calls, k ∈ x.2.key? x.1
  · obtain ⟨x, hx, hkey⟩ := hkey
    rw [hown x hx k hkey, hown' x (hperm.mem_iff.mpr hx) k hkey]
  · have hnone : ∀ x ∈ calls, k ∉ x.2.key? x.1 := fun x hx hk => hkey ⟨x, hx, hk⟩
    rw [hrest k hnone, hrest' k fun x hx => hnone x (hperm.mem_iff.mp hx)]

/-- **Every order leaves the same counters.** -/
theorem tally_of_perm {calls others : List (Snapshot × Call)} (h : calls.Pairwise Apart)
    (hperm : others.Perm calls) (w : World σ) (kind : Kind) (counter : Counter) :
    (serve env others w).2.tally.get kind counter = (serve env calls w).2.tally.get kind counter := by
  have hserved : (serve env others w).1.Perm (serve env calls w).1 := by
    rw [serve_eq_servedIn hk hs hcapture h w,
      serve_eq_servedIn hk hs hcapture (hperm.symm.pairwise h Apart.symm) w]
    exact hperm.map _
  have hevents : (serve env others w).2.events.Perm (serve env calls w).2.events := by
    rw [events_serve, events_serve]
    exact (hserved.flatMap_right _).append_left _
  exact (hevents.filterMap Event.count?).count_eq (kind, counter)

/-- **Calls about different keys come to the same in every order.** Two calls give the same answers, and
    leave the same entries and counters, whichever is the first. Of any number of calls, each comes to what it
    comes to by itself, in every order, and every order leaves the same entries and counters. -/
theorem calls_commute (w : World σ) :
    (∀ x y : Snapshot × Call, Apart x y →
      let one := serve env [x, y] w
      let other := serve env [y, x] w
      other.1 = one.1.reverse ∧ entries other.2.state = entries one.2.state ∧
        ∀ kind counter, other.2.tally.get kind counter = one.2.tally.get kind counter) ∧
    ∀ calls : List (Snapshot × Call), calls.Pairwise Apart → ∀ others : List (Snapshot × Call),
      others.Perm calls →
        (serve env others w).1 = others.map (fun x => x.2.servedIn x.1 env w) ∧
        entries (serve env others w).2.state = entries (serve env calls w).2.state ∧
        ∀ kind counter, (serve env others w).2.tally.get kind counter =
          (serve env calls w).2.tally.get kind counter := by
  constructor
  · intro x y hxy one other
    have hpair : [x, y].Pairwise Apart := List.pairwise_pair.mpr hxy
    have hperm : [y, x].Perm [x, y] := .swap x y []
    refine ⟨?_, entries_of_perm hk hs hcapture hpair hperm w, tally_of_perm hk hs hcapture hpair hperm w⟩
    have hone : one.1 = _ := serve_eq_servedIn hk hs hcapture hpair w
    have hother : other.1 = _ :=
      serve_eq_servedIn hk hs hcapture (hperm.symm.pairwise hpair Apart.symm) w
    rw [hone, hother]
    rfl
  · intro calls hcalls others hperm
    exact ⟨serve_eq_servedIn hk hs hcapture (hperm.symm.pairwise hcalls Apart.symm) w,
      entries_of_perm hk hs hcapture hcalls hperm w, tally_of_perm hk hs hcapture hcalls hperm w⟩

end Commute

/-- There is more than one key. -/
theorem Key.exists_ne (key : Key) : ∃ other : Key, other ≠ key := by
  have hzeros : isKeyText "0000000000000000000000000000000000000000000000000000000000000000".toList = true := by
    decide
  have hones : isKeyText "1111111111111111111111111111111111111111111111111111111111111111".toList = true := by
    decide
  have hdiffer : "1111111111111111111111111111111111111111111111111111111111111111" ≠
      "0000000000000000000000000000000000000000000000000000000000000000" := by
    decide
  by_cases h : (⟨_, hzeros⟩ : Key) = key
  · refine ⟨⟨_, hones⟩, ?_⟩
    rw [← h]
    exact fun heq => absurd (congrArg Key.text heq) hdiffer
  · exact ⟨⟨_, hzeros⟩, h⟩

/-- A store in memory with a thumbnail, which is looked up, and a page whose thumbnail is computed: each comes to
    the same whichever is the first. -/
theorem get_and_lookup_commute :
    let s : Snapshot :=
      ⟨⟨.chart, "http://localhost/chart/1", "c0ffee", ⟨800, 600⟩, ⟨800, 600⟩⟩, Decoder.builtIn, .png, false⟩
    let env := (Fates.steady fun (_ : Shot) (u : Unit) => (.ok ⟨#[7]⟩, u)).surroundings
    ∃ other ≠ s.key none none,
      let w : World (Shelf Unit) := .start ⟨Store.empty.put other ⟨#[1]⟩, ()⟩
      let one := serve env [(s, .get .anonymous none), (s, .lookup other)] w
      let two := serve env [(s, .lookup other), (s, .get .anonymous none)] w
      two.1 = one.1.reverse ∧ two.2.state.store.get? = one.2.state.store.get? ∧
        one.1.map Served.reply = [.thumbnail (.ok (some ⟨#[7]⟩)), .thumbnail (.ok (some ⟨#[1]⟩))] := by
  intro s env
  have hkeeps : env.Keeps fun shelf => shelf.store.get? := Fates.keeps _
  have hsteady : env.Steady := Fates.steady_surroundings _
  have hcapture (shot : Shot) (shelf : Shelf Unit) : (env.capture shot shelf).1 = .ok ⟨#[7]⟩ := rfl
  obtain ⟨other, hne⟩ := Key.exists_ne (s.key none none)
  have hget : (((Call.get .anonymous none).program s).runIn (cell fun _ => .ok ⟨#[7]⟩)
      (World.start none)).1 = .thumbnail (.ok (some ⟨#[7]⟩)) := rfl
  have hlookup : (((Call.lookup other).program s).runIn (cell fun _ => .ok ⟨#[7]⟩)
      (World.start (some ⟨#[1]⟩))).1 = .thumbnail (.ok (some ⟨#[1]⟩)) := rfl
  clear_value env s
  refine ⟨other, hne, ?_⟩
  intro w one two
  have hapart : Apart (s, .get .anonymous none) (s, .lookup other) := by
    intro k hk hk'
    exact hne ((Option.some.inj hk').trans (Option.some.inj hk).symm)
  obtain ⟨hpair, -⟩ := calls_commute hkeeps hsteady hcapture w
  obtain ⟨hserved, hentries, -⟩ := hpair _ _ hapart
  refine ⟨hserved, hentries, ?_⟩
  have hone : one.1 = _ := (serve_apart hkeeps hsteady hcapture (List.pairwise_pair.mpr hapart) w).1
  have hmissing : ((Call.get .anonymous none).key? s).bind w.state.store.get? = none := by
    rw [Call.key?, Option.bind_some]
    exact Store.get?_put_of_ne Store.empty ⟨#[1]⟩ hne.symm
  have hpresent : ((Call.lookup other).key? s).bind w.state.store.get? = some ⟨#[1]⟩ :=
    Store.get?_put_self Store.empty other ⟨#[1]⟩
  rw [hone]
  simp only [List.map_cons, List.map_nil, Call.alone, Call.inCell, hmissing, hpresent, hget, hlookup]

end Vignette
