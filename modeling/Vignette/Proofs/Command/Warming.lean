import Vignette.Proofs.Command.Agreement

/-!
# What comes of warming

Warming a target computes its thumbnail and stores it (`Context.warm`). A computation that answers nothing
does not say why: there may be an entry already, or nothing came of the capture. So the command looks a
second time, and what it concludes from that is shown to be right.

What the browser replies is in the events of the run. A reply may never come, and then the command is
over; of a reply that came `Snapshot.fresh?` tells the thumbnail, if there is one.

Main statement: **unforced, the command succeeds just if there is an entry after it, and an entry that was
there stands as it stood; forced, it succeeds just if something came of its one capture, and that is the entry
then; and a command that does not succeed names its key and leaves the files alone** (`warm_outcome`). All of
it is read off two runs: where there is an entry and none has to be made (`Context.runIn_warm_shown`), and
where one is made (`Context.made_warm`).
-/

namespace Vignette

open CommandProgram CommandWorld
open FileTree (Disk)

/-! ## 1. What comes of a capture -/

namespace Snapshot

variable {s : Snapshot} {window thumb : Size} {payload : ByteArray}

/-- What a rendering makes of the browser's answer. -/
def rendered (s : Snapshot) (window thumb : Size) :
    Except CaptureFailure ByteArray → Except RenderFailure ByteArray
  | .error e => .error (.capture e)
  | .ok data =>
    if data.isEmpty then .error (.capture .empty)
    else if window = thumb then .ok data
    else (Thumbnail.make s.decode data window thumb s.format s.crop).2.mapError .transform

/-- The thumbnail that comes of the browser's reply, if there is a reply and one comes of it. -/
def fresh? (s : Snapshot) (window thumb : Size) (reply : Option (Except CaptureFailure ByteArray)) :
    Option ByteArray :=
  reply.bind fun answer => (s.rendered window thumb answer).toOption

section Rendered

variable {data : ByteArray}

theorem rendered_blank (hd : data.isEmpty = true) :
    s.rendered window thumb (.ok data) = .error (.capture .empty) := if_pos hd

/-- A capture of the right size is left as it is. -/
theorem rendered_same (hd : data.isEmpty = false) (hsize : window = thumb) :
    s.rendered window thumb (.ok data) = .ok data := by
  simp [rendered, hd, hsize]

theorem rendered_of_make (hd : data.isEmpty = false) (hsize : window ≠ thumb) {ns : List Note}
    {result : Except PictureFailure ByteArray}
    (hm : Thumbnail.make s.decode data window thumb s.format s.crop = (ns, result)) :
    s.rendered window thumb (.ok data) = result.mapError .transform := by
  simp [rendered, hd, hsize, hm]

theorem fresh?_of_error {answer : Except CaptureFailure ByteArray} {e : RenderFailure}
    (h : s.rendered window thumb answer = .error e) : s.fresh? window thumb (some answer) = none := by
  rw [fresh?, Option.bind_some, h]
  rfl

theorem fresh?_of_ok {answer : Except CaptureFailure ByteArray}
    (h : s.rendered window thumb answer = .ok payload) :
    s.fresh? window thumb (some answer) = some payload := by
  rw [fresh?, Option.bind_some, h]
  rfl

/-- **What is rendered is never empty.** -/
theorem isEmpty_of_rendered {answer : Except CaptureFailure ByteArray}
    (h : s.rendered window thumb answer = .ok payload) : payload.isEmpty = false := by
  rcases answer with e | data
  · cases h
  cases hd : data.isEmpty with
  | true => cases (rendered_blank hd).symm.trans h
  | false =>
    by_cases hsize : window = thumb
    · cases (rendered_same hd hsize).symm.trans h
      exact hd
    · rcases hm : Thumbnail.make s.decode data window thumb s.format s.crop with ⟨ns, e | made⟩
      · cases (rendered_of_make hd hsize hm).symm.trans h
      · cases (rendered_of_make hd hsize hm).symm.trans h
        exact (Thumbnail.depicts_of_make hm).not_isEmpty

end Rendered

end Snapshot

/-! ## 2. Renderings at a desk -/

/-- Neither a look under a key nor a write there is refused. -/
structure FolderStore.Serves (store : FolderStore) (t : FileTree here) (key : Key) : Prop where
  sight : ∀ e, store.sight t key ≠ .error e
  stores : ∀ payload n, ((store.set key payload).run FileTree.perform ⟨t, n⟩).1 = .ok ()

/-- A folder that can be used serves every key. -/
theorem FolderStore.Usable.serves {store : FolderStore} {t : FileTree here} (h : store.Usable t) (key : Key) :
    store.Serves t key where
  sight := h.sight key
  stores payload n := by
    rw [FolderStore.run_set]
    obtain ⟨-, hstored, -⟩ := FolderStore.run_program (FolderStore.isPlain_deposit key payload n) t (n + 1)
    exact (hstored (h.writable key payload n)).1

section Desk

variable {α β τ : Type} {w w' m m' : CommandWorld (Disk here × τ)} {c : Context} {t : Target} {s : Snapshot}
  {key : Key} {shot : Shot} {reply : Option (Except CaptureFailure ByteArray)}

variable (capture : BrowserSettings → Shot → τ → Sitting × τ) (clock : τ → Nat × τ)

/-- One page was captured, to which the browser replied, and the disk is the same. -/
structure CommandWorld.Sat (browser : BrowserSettings) (shot : Shot)
    (reply : Option (Except CaptureFailure ByteArray)) (w w' : CommandWorld (Disk here × τ)) : Prop where
  replied : ∃ x, reply = (capture browser shot x).1.answer
  captures : w'.captures = w.captures ++ [(shot, reply)]
  disk : w'.state.1 = w.state.1

variable {capture} in
theorem CommandWorld.Sat.idle {browser : BrowserSettings} (h : Sat capture browser shot reply w m)
    (hm : Idle m w') : Sat capture browser shot reply w w' :=
  ⟨h.replied, hm.captures.trans h.captures, hm.disk.trans h.disk⟩

variable {capture} in
theorem CommandWorld.Sat.tree {browser : BrowserSettings} (h : Sat capture browser shot reply w w') :
    w'.tree = w.tree := congrArg Disk.tree h.disk

/-- What follows on an action that is never answered does not happen. -/
theorem runIn_bind_none {σ : Type} {eq : Equipment σ} {p : CommandProgram α} {f : α → CommandProgram β}
    {w m : CommandWorld σ} (h : CommandProgram.runIn p eq w = (none, m)) :
    CommandProgram.runIn (p >>= f) eq w = (none, m) := by
  rw [CommandProgram.runIn] at h
  rw [CommandProgram.runIn, Program.runUntil_bind, h]

/-- A capture has the reply that is written down. -/
theorem runIn_capture (browser : BrowserSettings) (shot : Shot) (w : CommandWorld (Disk here × τ)) :
    ∃ reply m, (CommandProgram.capture browser shot).runIn (desk capture clock) w = (reply, m) ∧
      Sat capture browser shot reply w m := by
  refine ⟨_, _, runIn_perform _ _ w, ⟨w.state.2, rfl⟩, ?_, rfl⟩
  have hnotes (ns : List Note) : (ns.map CommandEvent.note).filterMap CommandEvent.capture? = [] := by
    simp [List.filterMap_eq_nil_iff, CommandEvent.capture?]
  show List.filterMap _ (w.events ++ (_ ++ [_])) = _
  rw [List.filterMap_append, List.filterMap_append, hnotes]
  rfl

namespace Context

theorem snapshot_bind (p : SnapshotProgram α) (f : α → SnapshotProgram β) :
    c.snapshot (p >>= f) = c.snapshot p >>= fun a => c.snapshot (f a) := Program.expand_bind ..

theorem runIn_notes (c : Context) : ∀ (ns : List Note) (w : CommandWorld (Disk here × τ)),
    ∃ m, (c.snapshot (SnapshotProgram.notes ns)).runIn (desk capture clock) w = (some (), m) ∧ Idle w m
  | [], w => ⟨w, rfl, .refl w⟩
  | n :: ns, w => by
    obtain ⟨_, m, hnote, hm⟩ := runIn_spares capture clock (x := .note n) trivial w
    obtain ⟨m', hrest, hm'⟩ := runIn_notes c ns m
    exact ⟨m', (runIn_bind hnote).trans hrest, hm.trans hm'⟩

/-- **What follows on a capture comes to what is rendered of it**, and is done without the disk. -/
theorem runIn_finish (c : Context) (s : Snapshot) (window thumb : Size) (data : ByteArray)
    (w : CommandWorld (Disk here × τ)) :
    ∃ m, (c.snapshot (s.finish window thumb data)).runIn (desk capture clock) w =
      (some (s.rendered window thumb (.ok data)), m) ∧ Idle w m := by
  cases hd : data.isEmpty with
  | true =>
    rw [Snapshot.rendered_blank hd]
    simp only [Snapshot.finish, hd, if_true]
    exact ⟨w, rfl, .refl w⟩
  | false =>
    by_cases hsize : window = thumb
    · obtain ⟨_, m, hcount, hm⟩ :=
        runIn_spares capture clock (x := .count s.request.kind .render) trivial w
      rw [Snapshot.rendered_same hd hsize]
      simp only [Snapshot.finish, hd, hsize, if_true, Bool.false_eq_true, if_false]
      exact ⟨m, runIn_bind hcount, hm⟩
    · rcases hm : Thumbnail.make s.decode data window thumb s.format s.crop with ⟨ns, result⟩
      obtain ⟨m, hnotes, hidle⟩ := runIn_notes capture clock c ns w
      rw [Snapshot.rendered_of_make hd hsize hm]
      simp only [Snapshot.finish, hd, hsize, hm, Bool.false_eq_true, if_false]
      rw [snapshot_bind, runIn_bind hnotes]
      cases result with
      | error e => exact ⟨m, rfl, hidle⟩
      | ok payload =>
        obtain ⟨_, m', hcount, hm'⟩ :=
          runIn_spares capture clock (x := .count s.request.kind .render) trivial m
        exact ⟨m', runIn_bind hcount, hidle.trans hm'⟩

/-- **A rendering captures once, and comes to what is rendered of the reply.** -/
theorem runIn_render (c : Context) (s : Snapshot) (identity : Identity) (window thumb : Size)
    (w : CommandWorld (Disk here × τ)) : ∃ reply m,
      (c.snapshot (s.render identity window thumb)).runIn (desk capture clock) w =
        (reply.map (s.rendered window thumb), m) ∧
      Sat capture c.settings.browser (s.shot identity window) reply w m := by
  obtain ⟨reply, m, hcapture, hm⟩ :=
    runIn_capture capture clock c.settings.browser (s.shot identity window) w
  refine ⟨reply, ?_⟩
  rcases reply with _ | e | data
  · exact ⟨m, runIn_bind_none hcapture, hm⟩
  · exact ⟨m, runIn_bind hcapture, hm⟩
  · obtain ⟨m', hfinish, hm'⟩ := runIn_finish capture clock c s window thumb data m
    exact ⟨m', (runIn_bind hcapture).trans hfinish, hm.idle hm'⟩

end Context

/-! ## 3. Computations that are carried out -/

/-- A page was captured, to which the browser replied. What came of the reply is the entry now; if nothing
    did, the files are as they were. -/
structure CommandWorld.Renewed (c : Context) (key : Key) (shot : Shot)
    (reply : Option (Except CaptureFailure ByteArray)) (fresh : Option ByteArray)
    (w w' : CommandWorld (Disk here × τ)) : Prop where
  replied : ∃ x, reply = (capture c.settings.browser shot x).1.answer
  captures : w'.captures = w.captures ++ [(shot, reply)]
  kept : fresh = none → w'.tree = w.tree
  shown : ∀ payload ∈ fresh, c.store.Shows w'.tree key payload

section Renewed

variable {capture} {fresh : Option ByteArray}

theorem CommandWorld.Renewed.idle (hm : Idle w m) (h : Renewed capture c key shot reply fresh m m')
    (hm' : Idle m' w') : Renewed capture c key shot reply fresh w w' where
  replied := h.replied
  captures := by rw [hm'.captures, h.captures, hm.captures]
  kept hnone := by rw [hm'.tree, h.kept hnone, hm.tree]
  shown payload hpayload := by
    rw [hm'.tree]
    exact h.shown payload hpayload

/-- Nothing came of the reply. -/
theorem CommandWorld.Sat.renewed (h : Sat capture c.settings.browser shot reply w w') :
    Renewed capture c key shot reply none w w' := ⟨h.replied, h.captures, fun _ => h.tree, nofun⟩

end Renewed

namespace Context

variable {window thumb : Size}

/-- **A write that is not refused can be seen.** -/
theorem runIn_write (c : Context) (payload : ByteArray) (hserves : c.store.Serves w.tree key) :
    ∃ m, (c.snapshotAction (.write key payload)).runIn (desk capture clock) w = (some (.ok ()), m) ∧
      c.store.sight m.tree key = .ok (some payload) ∧ m.captures = w.captures := by
  have hok : ((c.store.set key payload).run FileTree.perform w.state.1).1 = .ok () :=
    hserves.stores payload w.state.1.tokens
  obtain ⟨_, m, hnote, hm⟩ := runIn_spares capture clock
    (x := .note (.wrote payload.size (c.store.pathFor key).text)) trivial
    (w.withDisk ((c.store.set key payload).run FileTree.perform w.state.1).2)
  have hwrite : (c.snapshotAction (.write key payload)).runIn (desk capture clock) w =
      (some (.ok ()), m) := by
    rw [snapshotAction, runIn_files_bind, hok]
    exact runIn_bind hnote
  exact ⟨m, hwrite, sight_of_moves (moves_of_runIn hwrite), hm.captures⟩

/-- A failure is warned of and counted, and nothing else is done. -/
theorem runIn_warned (kind : Kind) (key : Key) (e : RenderFailure) (r : α) (w : CommandWorld (Disk here × τ)) :
    ∃ m, CommandProgram.runIn (CommandProgram.note (e.warning key) >>= fun _ =>
        CommandProgram.count kind e.counter >>= fun _ => .done r) (desk capture clock) w = (some r, m) ∧
      Idle w m := by
  obtain ⟨_, m, hnote, hm⟩ := runIn_spares capture clock (x := .note (e.warning key)) trivial w
  obtain ⟨_, m', hcount, hm'⟩ := runIn_spares capture clock (x := .count kind e.counter) trivial m
  exact ⟨m', (runIn_bind hnote).trans (runIn_bind hcount), hm.trans hm'⟩

/-- **A production captures once, and stores what comes of the reply.** -/
theorem runIn_produce (c : Context) (s : Snapshot) (identity : Identity) (window thumb : Size)
    (hserves : c.store.Serves w.tree key) : ∃ reply m,
      (c.snapshot (s.produce identity key window thumb)).runIn (desk capture clock) w =
        (reply.map fun _ => .ok (s.fresh? window thumb reply), m) ∧
      Renewed capture c key (s.shot identity window) reply (s.fresh? window thumb reply) w m := by
  obtain ⟨_, w₁, hnote, h₁⟩ := runIn_spares capture clock (x := .note (.processing key)) trivial w
  obtain ⟨reply, w₂, hrender, h₂⟩ := runIn_render capture clock c s identity window thumb w₁
  refine ⟨reply, ?_⟩
  rw [Snapshot.produce, snapshot_bind,
    runIn_bind (p := c.snapshot (SnapshotProgram.note (.processing key))) hnote, snapshot_bind]
  rcases reply with _ | answer
  · exact ⟨w₂, runIn_bind_none hrender, .idle h₁ h₂.renewed (.refl w₂)⟩
  rw [runIn_bind hrender]
  cases hr : s.rendered window thumb answer with
  | error e =>
    obtain ⟨w₃, hwarned, h₃⟩ := runIn_warned capture clock s.request.kind key e
      (.ok none : Except StoreFailure (Option ByteArray)) w₂
    rw [Snapshot.fresh?_of_error hr]
    refine ⟨w₃, ?_, .idle h₁ h₂.renewed h₃⟩
    cases e <;> exact hwarned
  | ok payload =>
    have hpayload : payload.isEmpty = false := Snapshot.isEmpty_of_rendered hr
    obtain ⟨_, w₃, hstoring, h₃⟩ := runIn_spares capture clock (x := .note (.storing key)) trivial w₂
    have htree : w₃.tree = w.tree := h₃.tree.trans (h₂.tree.trans h₁.tree)
    obtain ⟨w₄, hwrite, hsight, h₄⟩ := runIn_write capture clock c payload (htree ▸ hserves)
    obtain ⟨_, w₅, hcount, h₅⟩ :=
      runIn_spares capture clock (x := .count s.request.kind .stored) trivial w₄
    obtain ⟨_, w₆, hstored, h₆⟩ := runIn_spares capture clock (x := .note (.stored key)) trivial w₅
    rw [Snapshot.fresh?_of_ok hr]
    refine ⟨w₆, ?_, h₂.replied, ?_, nofun, ?_⟩
    · refine (runIn_bind hstoring).trans ?_
      refine (runIn_bind hwrite).trans ?_
      refine (runIn_bind hcount).trans ?_
      exact runIn_bind hstored
    · rw [h₆.captures, h₅.captures, h₄, h₃.captures, h₂.captures, h₁.captures]
    · intro found hfound
      obtain rfl : payload = found := Option.some.inj hfound
      rw [h₆.tree, h₅.tree]
      exact ⟨hsight, hpayload⟩

end Context

/-! ## 4. Warming -/

/-- Where nothing is shown under a key that is served, nothing is found there. -/
theorem FolderStore.Serves.vacant {store : FolderStore} {u : FileTree here} (h : store.Serves u key)
    (hnone : ∀ payload, ¬ store.Shows u key payload) : (store.sight u key).map thumbnail? = .ok none := by
  cases hsight : store.sight u key with
  | error e => exact absurd hsight (h.sight e)
  | ok found =>
    cases hfound : thumbnail? found with
    | none => rw [Except.map, hfound]
    | some payload =>
      refine absurd (FolderStore.shows_iff.mpr ?_) (hnone payload)
      rw [hsight, Except.map, hfound]

namespace Context

variable {window thumb : Option Size} {force : Bool}

/-- **A computation that is forced, or finds no entry, is carried out.** -/
theorem runIn_compute_fresh (c : Context) (s : Snapshot) (hserves : c.store.Serves w.tree (s.key window thumb))
    (hneeded : force = true ∨ ∀ payload, ¬ c.store.Shows w.tree (s.key window thumb) payload) :
    ∃ reply m, (c.snapshot (s.compute c.identity window thumb force)).runIn (desk capture clock) w =
        (reply.map fun _ => .ok (s.fresh? (s.windowOf window) (s.thumbOf thumb) reply), m) ∧
      Renewed capture c (s.key window thumb) (s.shot c.identity (s.windowOf window)) reply
        (s.fresh? (s.windowOf window) (s.thumbOf thumb) reply) w m := by
  cases force with
  | true => exact runIn_produce capture clock c s c.identity (s.windowOf window) (s.thumbOf thumb) hserves
  | false =>
    have hnone := hneeded.resolve_left Bool.false_ne_true
    obtain ⟨m, hlookup, hm⟩ := runIn_lookup capture clock c (s.key window thumb) w
    rw [hserves.vacant hnone] at hlookup
    obtain ⟨reply, m', hproduce, hrenewed⟩ := runIn_produce capture clock c s c.identity
      (s.windowOf window) (s.thumbOf thumb) (hm.tree ▸ hserves)
    refine ⟨reply, m', ?_, .idle hm hrenewed (.refl m')⟩
    simp only [Snapshot.compute, Bool.false_eq_true, if_false]
    rw [snapshot_bind, runIn_bind hlookup]
    exact hproduce

/-- What is concluded where nothing was computed, if it had to be. -/
theorem runIn_afterNone (c : Context) (s : Snapshot) (hserves : c.store.Serves w.tree (s.key window thumb))
    (hneeded : force = true ∨ ∀ payload, ¬ c.store.Shows w.tree (s.key window thumb) payload) :
    ∃ m, (c.afterNone s window thumb force).runIn (desk capture clock) w =
      (some (.error (.unavailable (s.key window thumb).text)), m) ∧ Idle w m := by
  cases force with
  | true =>
    obtain ⟨_, m, hnote, hm⟩ :=
      runIn_spares capture clock (x := .note (.notComputed (s.key window thumb))) trivial w
    simp only [afterNone, if_true]
    exact ⟨m, runIn_bind hnote, hm⟩
  | false =>
    have hnone := hneeded.resolve_left Bool.false_ne_true
    obtain ⟨m, hlookup, hm⟩ := runIn_lookup capture clock c (s.key window thumb) w
    rw [hserves.vacant hnone] at hlookup
    obtain ⟨_, m', hnote, hm'⟩ :=
      runIn_spares capture clock (x := .note (.notComputed (s.key window thumb))) trivial m
    simp only [afterNone, Bool.false_eq_true, if_false]
    exact ⟨m', (runIn_bind hlookup).trans (runIn_bind hnote), hm.trans hm'⟩

/-- What is concluded from the thumbnail that was computed, or was not. -/
def conclusion (key : Key) : Option ByteArray → Except Failure Unit
  | some _ => .ok ()
  | none => .error (.unavailable key.text)

/-- What a run that makes the entry of a key comes to: nothing, if its capture is never answered, and else
    what is concluded from what came of the reply. -/
structure Made (c : Context) (key : Key) (shot : Shot) (reply : Option (Except CaptureFailure ByteArray))
    (fresh : Option ByteArray) (w : CommandWorld (Disk here × τ))
    (run : Option (Except Failure Unit) × CommandWorld (Disk here × τ)) : Prop where
  result : run.1 = reply.map fun _ => conclusion key fresh
  silent : reply = none → fresh = none
  renewed : Renewed capture c key shot reply fresh w run.2

section Made

variable {capture} {fresh : Option ByteArray} {run : Option (Except Failure Unit) × CommandWorld (Disk here × τ)}

/-- **It succeeds just if something came of the reply.** -/
theorem Made.ok_iff (h : Made capture c key shot reply fresh w run) :
    run.1 = some (.ok ()) ↔ ∃ payload, fresh = some payload := by
  rw [h.result]
  rcases reply with _ | answer
  · rw [h.silent rfl]
    constructor
    · exact nofun
    · rintro ⟨payload, hpayload⟩
      cases hpayload
  · rw [Option.map_some, Option.some.injEq]
    cases fresh <;> simp [conclusion]

/-- It succeeds, or names its key, or was never answered. -/
theorem Made.result_cases (h : Made capture c key shot reply fresh w run) :
    run.1 = some (.ok ()) ∨ run.1 = some (.error (.unavailable key.text)) ∨
      run.1 = none ∧ ∃ shot, run.2.captures = w.captures ++ [(shot, none)] := by
  have hresult := h.result
  rcases reply with _ | answer
  · exact .inr (.inr ⟨hresult, shot, h.renewed.captures⟩)
  · rcases fresh with _ | payload
    · exact .inr (.inl hresult)
    · exact .inl hresult

/-- **If it does not succeed, the files are as they were.** -/
theorem Made.kept (h : Made capture c key shot reply fresh w run) (hr : run.1 ≠ some (.ok ())) :
    run.2.tree = w.tree := by
  have hnone : fresh = none := by
    by_contra hsome
    exact hr (h.ok_iff.mpr (Option.ne_none_iff_exists'.mp hsome))
  exact h.renewed.kept hnone

end Made

/-- **Where an entry has to be made, `warm` captures once and succeeds just if something came of it.** -/
theorem made_warm (h : c.snapshotOf t = .ok s) (hserves : c.store.Serves w.tree (s.key window thumb))
    (hneeded : force = true ∨ ∀ payload, ¬ c.store.Shows w.tree (s.key window thumb) payload) :
    ∃ reply, Made capture c (s.key window thumb) (s.shot c.identity (s.windowOf window)) reply
      (s.fresh? (s.windowOf window) (s.thumbOf thumb) reply) w
      ((c.warm t window thumb force).runIn (desk capture clock) w) := by
  obtain ⟨start, w₁, hstart, h₁⟩ := runIn_spares capture clock (x := .clock) trivial w
  have htree : w₁.tree = w.tree := h₁.tree
  obtain ⟨reply, w₂, hcompute, h₂⟩ :=
    runIn_compute_fresh capture clock c s (htree ▸ hserves) (htree ▸ hneeded)
  refine ⟨reply, ?_⟩
  simp only [warm, h]
  rw [runIn_bind (p := CommandProgram.clock) hstart]
  rcases reply with _ | answer
  · rw [runIn_bind_none hcompute]
    exact ⟨rfl, fun _ => rfl, .idle h₁ h₂ (.refl w₂)⟩
  rw [runIn_bind hcompute]
  cases hfresh : s.fresh? (s.windowOf window) (s.thumbOf thumb) (some answer) with
  | none =>
    rw [hfresh] at h₂
    have htree₂ : w₂.tree = w.tree := (h₂.kept rfl).trans htree
    obtain ⟨w₃, hafter, h₃⟩ :=
      runIn_afterNone capture clock c s (htree₂ ▸ hserves) (htree₂ ▸ hneeded)
    rw [hafter]
    exact ⟨rfl, fun _ => rfl, .idle h₁ h₂ h₃⟩
  | some payload =>
    rw [hfresh] at h₂
    obtain ⟨stop, w₃, hstop, h₃⟩ := runIn_spares capture clock (x := .clock) trivial w₂
    obtain ⟨_, w₄, hsay, h₄⟩ := runIn_spares capture clock (x := .say ("Cached " ++
      (s.key window thumb).text ++ " (" ++ Amount.text payload.size ++ ") in " ++
      elapsedText start stop)) trivial w₃
    dsimp only
    rw [runIn_bind (p := CommandProgram.clock) hstop, runIn_bind (p := CommandProgram.say _) hsay]
    exact ⟨rfl, fun hnone => absurd hnone (Option.some_ne_none _), .idle h₁ h₂ (h₃.trans h₄)⟩

end Context

/-- **What warming comes to.** The command succeeds, or says that the thumbnail of its key cannot be had,
    unless it is interrupted in its capture. Unforced it succeeds just if there is an entry under the key
    after it; an entry that was there before is left as it was, without a capture. Forced it captures
    once and succeeds just if a thumbnail came of the browser's reply; then that is the entry, and else
    the files are as they were. -/
theorem warm_outcome (c : Context) (t : Target) (window thumb : Option Size) (force : Bool)
    (w : CommandWorld (Disk here × τ)) (haddress : ∃ u, Url.parse t.address = .ok u)
    (hserves : c.store.Serves w.tree (c.settings.key t.kind t.digest window thumb)) :
    let key := c.settings.key t.kind t.digest window thumb
    let run := (c.carryOut (.warm t window thumb force)).runIn (desk capture clock) w
    (run.1 = some (.ok ()) ∨ run.1 = some (.error (.unavailable key.text)) ∨
      run.1 = none ∧ ∃ shot, run.2.captures = w.captures ++ [(shot, none)]) ∧
    (force = false →
      (run.1 = some (.ok ()) ↔ ∃ payload, c.store.Shows run.2.tree key payload) ∧
      ∀ payload, c.store.Shows w.tree key payload →
        run.2.tree = w.tree ∧ run.2.captures = w.captures) ∧
    (force = true → ∃ s reply, c.snapshotOf t = .ok s ∧
      (∃ x, reply = (capture c.settings.browser (s.shot c.identity (s.windowOf window)) x).1.answer) ∧
      run.2.captures = w.captures ++ [(s.shot c.identity (s.windowOf window), reply)] ∧
      (run.1 = some (.ok ()) ↔
        ∃ payload, s.fresh? (s.windowOf window) (s.thumbOf thumb) reply = some payload) ∧
      ∀ payload, s.fresh? (s.windowOf window) (s.thumbOf thumb) reply = some payload →
        c.store.Shows run.2.tree key payload) ∧
    (run.1 ≠ some (.ok ()) → run.2.tree = w.tree) := by
  intro key run
  obtain ⟨s, h⟩ := c.exists_snapshotOf haddress
  have hkey : s.key window thumb = key := Context.key_of_snapshotOf h window thumb
  by_cases hneeded : force = true ∨ ∀ payload, ¬ c.store.Shows w.tree key payload
  · -- a thumbnail has to be made
    rw [← hkey] at hneeded
    obtain ⟨reply, hmade⟩ := Context.made_warm capture clock h (hkey ▸ hserves) hneeded
    rw [hkey] at hneeded hmade
    refine ⟨hmade.result_cases, fun hforce => ⟨⟨fun hr => ?_, ?_⟩, fun payload hthere => ?_⟩,
      fun _ => ⟨s, reply, h, hmade.renewed.replied, hmade.renewed.captures, hmade.ok_iff,
        fun payload hpayload => hmade.renewed.shown payload hpayload⟩, hmade.kept⟩
    · obtain ⟨payload, hpayload⟩ := hmade.ok_iff.mp hr
      exact ⟨payload, hmade.renewed.shown payload hpayload⟩
    · rintro ⟨payload, hthere⟩
      by_contra hr
      have htree : run.2.tree = w.tree := hmade.kept hr
      rw [htree] at hthere
      exact hneeded.resolve_left (hforce ▸ Bool.false_ne_true) payload hthere
    · exact absurd hthere (hneeded.resolve_left (hforce ▸ Bool.false_ne_true) payload)
  · -- there is an entry already, and none has to be made
    rw [not_or, not_forall] at hneeded
    obtain ⟨hforce, payload, hthere⟩ := hneeded
    obtain rfl : force = false := eq_false_of_ne_true hforce
    rw [not_not, ← hkey] at hthere
    obtain ⟨w', hrun, hidle⟩ := Context.runIn_warm_shown capture clock h hthere
    rw [hkey] at hthere
    have hrun : run = _ := hrun
    have hok : run.1 = some (.ok ()) := congrArg Prod.fst hrun
    have htree : run.2.tree = w.tree := by rw [hrun, hidle.tree]
    have hcaptures : run.2.captures = w.captures := by rw [hrun, hidle.captures]
    refine ⟨.inl hok,
      fun _ => ⟨⟨fun _ => ⟨payload, ?_⟩, fun _ => hok⟩, fun _ _ => ⟨htree, hcaptures⟩⟩,
      fun hf => absurd hf Bool.false_ne_true, fun _ => htree⟩
    rw [htree]
    exact hthere

end Desk

/-- A folder that is not there yet can be used. -/
theorem FolderStore.usable_empty :
    FolderStore.Usable ⟨⟨".thumbnail-cache"⟩⟩ (FileTree.empty : FileTree workplace) := by
  have hfree (name : String) :
      ((FileTree.empty : FileTree workplace).makeAlong (FileTree.origin workplace ⟨".thumbnail-cache"⟩)
        (Path.mk ".thumbnail-cache").names).2.get?
          (FolderStore.within ⟨⟨".thumbnail-cache"⟩⟩ workplace name) = none := rfl
  refine ⟨rfl, fun key hfolder => ?_, fun key n hfolder => ?_⟩
  · cases (hfree (FolderStore.fileName key)).symm.trans hfolder
  · cases (hfree (FolderStore.temporaryName key (FileTree.tokenText n))).symm.trans hfolder

/-- Where there is no folder yet and the browser captures one byte, a forced `warm` of one size makes that
    byte the entry. -/
theorem warm_fills_missing_folder :
    let c : Context := ⟨Settings.default, Identity.anonymous, Decoder.builtIn⟩
    let t : Target := ⟨.chart, "http://[::1]/", "d1"⟩
    let size : Size := ⟨400, 300⟩
    let key := c.settings.key .chart "d1" (some size) (some size)
    let capture := fun _ _ (f : Unit) => ((⟨[], some (.ok ⟨#[1]⟩)⟩, f) : Sitting × Unit)
    let clock := fun (f : Unit) => (0, f)
    let w := CommandWorld.start ((⟨FileTree.empty, 0⟩, ()) : Disk workplace × Unit)
    (∃ u, Url.parse t.address = .ok u) ∧ c.store.Serves w.tree key ∧
      ∃ w', (c.carryOut (.warm t (some size) (some size) true)).runIn (desk capture clock) w =
        (some (.ok ()), w') ∧ c.store.Shows w'.tree key ⟨#[1]⟩ := by
  intro c t size key capture clock w
  have hserves : c.store.Serves w.tree key := FolderStore.usable_empty.serves key
  obtain ⟨-, -, hforced, -⟩ :=
    warm_outcome capture clock c t (some size) (some size) true w Context.parse_loopback hserves
  obtain ⟨s, reply, -, ⟨x, hreply⟩, -, hok, hshown⟩ := hforced rfl
  have hfresh : s.fresh? (s.windowOf (some size)) (s.thumbOf (some size)) reply = some ⟨#[1]⟩ := by
    rw [hreply]
    exact Snapshot.fresh?_of_ok (Snapshot.rendered_same rfl rfl)
  generalize hrun : (c.carryOut (.warm t (some size) (some size) true)).runIn (desk capture clock) w = run
    at hok hshown ⊢
  obtain ⟨r, w'⟩ := run
  obtain rfl : r = some (.ok ()) := hok.mpr ⟨_, hfresh⟩
  exact ⟨Context.parse_loopback, hserves, w', rfl, hshown _ hfresh⟩

end Vignette
