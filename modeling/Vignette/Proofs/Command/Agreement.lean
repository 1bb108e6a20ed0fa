import Vignette.Proofs.Command.Bound
import Vignette.Proofs.Command.Desk
import Vignette.Proofs.Store.Output

/-!
# Commands agree with each other

The commands on a target come to its key in two ways: `key` takes the sizes that are set for its kind, the
others go through a request. They come to the same key, so what `warm` leaves in the store is what `cached`
and `get` find there.

Main statements: **when `warm` succeeds there is a thumbnail under the key** (`Context.shows_of_warm`);
**where there is one, `cached` and `get` put it into any file that can be written and lies apart from the
store, and leave the store as it is** (`Context.delivers_cached`, `Context.delivers_get`); all this together
is `commands_agree`.
-/

namespace Vignette

open CommandProgram CommandWorld
open FileTree (Disk)

variable {here : Place}

/-- There is a thumbnail under the key, and it can be seen. -/
structure FolderStore.Shows (s : FolderStore) (t : FileTree here) (key : Key) (payload : ByteArray) : Prop where
  seen : s.sight t key = .ok (some payload)
  nonempty : payload.isEmpty = false

section Agreement

variable {τ : Type} {capture : BrowserSettings → Shot → τ → Sitting × τ} {clock : τ → Nat × τ}
  {w w' : CommandWorld (Disk here × τ)} {c : Context} {t : Target} {s : Snapshot} {key : Key}
  {window thumb : Option Size} {payload : ByteArray}

/-! ## 1. What is left by a computation -/

/-- A thumbnail that was computed was written, and nothing was done to the store after that. -/
theorem ProduceCourse.of_some {identity : Identity} {window thumb : Size} {es : List Event}
    (h : ProduceCourse s identity key window thumb es (.ok (some payload))) :
    payload.isEmpty = false ∧ ∃ before, es = before ++ [.write key payload (.ok ()),
      .count s.request.kind .stored, .note (.stored key)] := by
  cases h with
  | stored fs _ hr =>
    refine ⟨?_, .note (.processing key) :: (fs ++ [.note (.storing key)]), by simp⟩
    cases hr with
    | verbatim _ hd _ => exact hd
    | made _ _ _ _ _ hm => exact (Thumbnail.depicts_of_make hm).not_isEmpty

theorem ComputeCourse.of_some {identity : Identity} {force : Bool}
    {es : List Event} (h : ComputeCourse s identity window thumb force es (.ok (some payload))) :
    payload.isEmpty = false ∧ ∃ before, es = before ++ [.write (s.key window thumb) payload (.ok ()),
      .count s.request.kind .stored, .note (.stored (s.key window thumb))] := by
  cases h with
  | forced _ _ hp => exact hp.of_some
  | missed fs gs _ _ hp =>
    obtain ⟨hpayload, before, rfl⟩ := hp.of_some
    exact ⟨hpayload, fs ++ before, (List.append_assoc ..).symm⟩

/-- **A write that succeeds can be seen.** -/
theorem sight_of_moves {t u : FileTree here} {store : FolderStore}
    (h : (Event.write key payload (.ok ())).Moves store t u) : store.sight u key = .ok (some payload) := by
  obtain ⟨n, hanswer, rfl⟩ := h
  rw [FolderStore.run_set] at hanswer ⊢
  obtain ⟨-, hstored, hrefused⟩ := FolderStore.run_program
    (FolderStore.isPlain_deposit key payload n) t (n + 1)
  by_cases hwritable : FolderStore.Writable store (FolderStore.deposit key payload n) t
  · obtain ⟨-, hu⟩ := hstored hwritable
    have hspot := hu.spot
    rw [FolderStore.payload_deposit] at hspot
    rw [hu.stands.sight]
    exact congrArg FolderStore.shown hspot
  · obtain ⟨e, he⟩ := hrefused hwritable
    cases hanswer.trans he

theorem shows_of_tracks {identity : Identity} {force : Bool} {es : List Event} {t u : FileTree here}
    {store : FolderStore} (h : ComputeCourse s identity window thumb force es (.ok (some payload)))
    (htracks : Tracks store t es u) : store.Shows u (s.key window thumb) payload := by
  obtain ⟨hpayload, before, rfl⟩ := h.of_some
  obtain ⟨_, -, v, hwrite, _, rfl, _, rfl, rfl⟩ := tracks_append.mp htracks
  exact ⟨sight_of_moves hwrite, hpayload⟩

/-! ## 2. What a lookup finds -/

theorem FolderStore.shows_iff {store : FolderStore} {t : FileTree here} :
    store.Shows t key payload ↔ (store.sight t key).map thumbnail? = .ok (some payload) := by
  constructor
  · rintro ⟨hseen, hpayload⟩
    rw [hseen]
    exact congrArg Except.ok (thumbnail?_of_not_isEmpty hpayload)
  · intro h
    cases hsight : store.sight t key with
    | error e =>
      rw [hsight] at h
      cases h
    | ok found =>
      rw [hsight] at h
      obtain ⟨rfl, hpayload⟩ := thumbnail?_eq_some.mp (Except.ok.inj h)
      exact ⟨hsight, hpayload⟩

variable (capture clock) in
/-- What is shown is found. -/
theorem Context.runIn_shown (hshown : c.store.Shows w.tree key payload) :
    ∃ m, (c.snapshot (Snapshot.lookup key)).runIn (desk capture clock) w =
      (some (.ok (some payload)), m) ∧ Idle w m := by
  rw [← FolderStore.shows_iff.mp hshown]
  exact runIn_lookup capture clock c key w

/-- What is found is shown. -/
theorem Context.shows_of_lookup
    (h : (c.snapshot (Snapshot.lookup key)).runIn (desk capture clock) w = (some (.ok (some payload)), w')) :
    c.store.Shows w'.tree key payload := by
  obtain ⟨m, hrun, hm⟩ := Context.runIn_lookup capture clock c key w
  obtain ⟨hfound, rfl⟩ := Prod.mk.inj (hrun.symm.trans h)
  rw [hm.tree]
  exact FolderStore.shows_iff.mpr (Option.some.inj hfound)

/-- An idle action that was carried out has left the disk alone. -/
theorem tree_of_runIn {x : CommandAction} {answer : x.Answer} (hx : x.Spares)
    (h : CommandProgram.runIn (Program.perform x) (desk capture clock) w = (some answer, w')) :
    w'.tree = w.tree := by
  obtain ⟨_, m, hrun, hm⟩ := runIn_spares capture clock hx w
  obtain ⟨-, rfl⟩ := Prod.mk.inj (hrun.symm.trans h)
  exact hm.tree

namespace Context

/-- Nothing is computed for an address that cannot be read. -/
theorem snapshotOf_of_warm {σ : Type} {eq : Equipment σ} {w w' : CommandWorld σ} {force : Bool}
    (hrun : (c.warm t window thumb force).runIn eq w = (some (.ok ()), w')) :
    ∃ s, c.snapshotOf t = .ok s := by
  cases h : c.snapshotOf t with
  | error e =>
    simp only [warm, h] at hrun
    cases hrun
  | ok s => exact ⟨s, rfl⟩

/-- **When `warm` succeeds there is a thumbnail under the key.** -/
theorem shows_of_warm (h : c.snapshotOf t = .ok s) {force : Bool}
    (hrun : (c.warm t window thumb force).runIn (desk capture clock) w = (some (.ok ()), w')) :
    ∃ payload, c.store.Shows w'.tree (s.key window thumb) payload := by
  simp only [warm, h] at hrun
  obtain ⟨start, w₁, -, hrun⟩ := of_runIn_bind hrun
  obtain ⟨r, w₂, hcompute, hrun⟩ := of_runIn_bind hrun
  rcases r with e | _ | payload
  · cases hrun
  · -- nothing was computed, so something was found
    simp only [afterNone] at hrun
    split at hrun
    · obtain ⟨_, _, -, hrun⟩ := of_runIn_bind hrun
      cases hrun
    obtain ⟨found, w₃, hlookup, hrun⟩ := of_runIn_bind hrun
    rcases found with e | _ | payload
    · cases hrun
    · obtain ⟨_, _, -, hrun⟩ := of_runIn_bind hrun
      cases hrun
    obtain ⟨_, w₄, hsay, hrun⟩ := of_runIn_bind hrun
    obtain rfl : w₄ = w' := (Prod.mk.inj hrun).2
    exact ⟨payload, (tree_of_runIn (x := .say _) trivial hsay) ▸ shows_of_lookup hlookup⟩
  · -- the thumbnail was written, and then nothing was done to the files
    obtain ⟨es, hcourse, htracks⟩ := passage hcompute
    obtain ⟨_, w₃, hclock, hrun⟩ := of_runIn_bind hrun
    obtain ⟨_, w₄, hsay, hrun⟩ := of_runIn_bind hrun
    obtain rfl : w₄ = w' := (Prod.mk.inj hrun).2
    have htree : w₄.tree = w₂.tree :=
      (tree_of_runIn (x := .say _) trivial hsay).trans (tree_of_runIn (x := .clock) trivial hclock)
    exact ⟨payload, htree ▸ shows_of_tracks hcourse.compute htracks⟩

end Context

/-! ## 3. A thumbnail in a file -/

/-- The thumbnail is in the file, the store is as it was, and nothing was captured. -/
structure Delivers (store : FolderStore) (path : Path) (payload : ByteArray)
    (w w' : CommandWorld (Disk here × τ)) : Prop where
  read : w'.tree.read path = .ok payload
  inside : ∀ q, store.Inside here q → w'.tree.get? q = w.tree.get? q
  sight : ∀ key, store.sight w'.tree key = store.sight w.tree key
  captures : w'.captures = w.captures

theorem Delivers.of_idle {store : FolderStore} {path : Path} {m m' : CommandWorld (Disk here × τ)}
    (hm : Idle w m) (h : Delivers store path payload m m') (hm' : Idle m' w') :
    Delivers store path payload w w' where
  read := by rw [hm'.tree, h.read]
  inside q hq := by rw [hm'.tree, h.inside q hq, hm.tree]
  sight key := by rw [hm'.tree, h.sight key, hm.tree]
  captures := by rw [hm'.captures, h.captures, hm.captures]

/-- What is done when a file was supplied, or was not. -/
def afterSupply (path : Path) : Except SystemError Unit → CommandProgram (Except Failure Path)
  | .error e => .done (.error (.io e.message))
  | .ok () => CommandProgram.note (.saved path.text) >>= fun _ => .done (.ok path)

theorem save_eq (key : Key) (thumbnail : ByteArray) (output : Option Path) {path : Path}
    (hpath : path = output.getD ⟨Thumbnail.fileName key thumbnail⟩) :
    save key thumbnail output = files (FileProgram.supply path thumbnail) >>= afterSupply path := by
  subst hpath
  refine congrArg (Program.act _) (funext fun made => ?_)
  rcases made with e | _
  · rfl
  refine congrArg (Program.act _) (funext fun created => ?_)
  rcases created with e | _
  · rfl
  refine congrArg (Program.act _) (funext fun appended => ?_)
  rcases appended with e | _ <;> rfl

section Save

variable {output : Option Path} {path : Path}
  (hpath : path = output.getD ⟨Thumbnail.fileName key payload⟩)
include hpath

/-- **A thumbnail is saved in a file that can be written and is apart from the store.** -/
theorem runIn_save {store : FolderStore} (hseen : store.Shows w.tree key payload) (ht : w.tree.Takes path)
    (hp : path.Avoids here store) : ∃ w', (save key payload output).runIn (desk capture clock) w =
      (some (.ok path), w') ∧ Delivers store path payload w w' := by
  obtain ⟨u, hsupply, hsaved⟩ := FileTree.saved_of_takes ht hp payload w.state.1.tokens
  have hrun : (FileProgram.supply path payload).run FileTree.perform w.state.1 =
      (.ok (), ⟨u, w.state.1.tokens⟩) := hsupply
  obtain ⟨_, m, hnote, hm⟩ := runIn_spares capture clock (x := .note (.saved path.text)) trivial
    (w.withDisk ⟨u, w.state.1.tokens⟩)
  refine ⟨m, ?_, .of_idle (.refl w) ?_ hm⟩
  · rw [save_eq key payload output hpath, runIn_files_bind, hrun]
    exact runIn_bind hnote
  · exact ⟨hsaved.read, hsaved.inside, hsaved.sight (FileTree.stands_of_sight hseen.seen), rfl⟩

/-- A thumbnail is not saved if its file cannot be supplied. -/
theorem runIn_save_error {e : SystemError}
    (h : ((FileProgram.supply path payload).run FileTree.perform w.state.1).1 = .error e) :
    ∃ w', (save key payload output).runIn (desk capture clock) w = (some (.error (.io e.message)), w') := by
  rw [save_eq key payload output hpath, runIn_files_bind, h]
  exact ⟨_, rfl⟩

end Save

namespace Context

/-- What `cached` does when the thumbnail was saved, or was not. -/
def afterSaving : Except Failure Path → CommandProgram (Except Failure Unit)
  | .error e => .done (.error e)
  | .ok path => say ("Thumbnail saved to: " ++ path.text) >>= fun _ => .done (.ok ())

variable (capture clock) in
/-- Where there is a thumbnail, `cached` saves it. -/
theorem runIn_cached (h : c.snapshotOf t = .ok s) (hshown : c.store.Shows w.tree (s.key window thumb) payload)
    (output : Option Path) : ∃ m, Idle w m ∧ (c.cached t window thumb output).runIn (desk capture clock) w =
      CommandProgram.runIn (save (s.key window thumb) payload output >>= afterSaving)
        (desk capture clock) m := by
  obtain ⟨m, hfound, hm⟩ := runIn_shown capture clock hshown
  refine ⟨m, hm, ?_⟩
  simp only [cached, h]
  refine (runIn_bind hfound).trans ?_
  refine congrArg (fun p => CommandProgram.runIn p (desk capture clock) m) ?_
  refine congrArg (save (s.key window thumb) payload output >>= ·) (funext fun saved => ?_)
  cases saved <;> rfl

variable (capture clock) in
/-- Where there is a thumbnail, a snapshot gets it. -/
theorem runIn_snapshot_get (s : Snapshot) (hshown : c.store.Shows w.tree (s.key none thumb) payload) :
    ∃ m, (c.snapshot (s.get c.identity thumb)).runIn (desk capture clock) w =
      (some (.ok (some payload)), m) ∧ Idle w m := by
  obtain ⟨w₁, hfound, h₁⟩ := runIn_shown capture clock hshown
  obtain ⟨_, w₂, hnote, h₂⟩ :=
    runIn_spares capture clock (x := .note (.loaded (s.key none thumb))) trivial w₁
  obtain ⟨_, w₃, hcount, h₃⟩ := runIn_spares capture clock (x := .count s.request.kind .hit) trivial w₂
  refine ⟨w₃, ?_, (h₁.trans h₂).trans h₃⟩
  rw [Snapshot.get, snapshot, Program.expand_bind]
  refine (runIn_bind hfound).trans ?_
  refine (runIn_bind hnote).trans ?_
  exact runIn_bind hcount

section Delivers

variable {output : Option Path} {path : Path}

/-- **`cached` delivers a thumbnail that is there.** -/
theorem delivers_cached (h : c.snapshotOf t = .ok s)
    (hshown : c.store.Shows w.tree (s.key window thumb) payload)
    (hpath : path = output.getD ⟨Thumbnail.fileName (s.key window thumb) payload⟩) (ht : w.tree.Takes path)
    (hp : path.Avoids here c.store) : ∃ w', (c.cached t window thumb output).runIn (desk capture clock) w =
      (some (.ok ()), w') ∧ Delivers c.store path payload w w' := by
  obtain ⟨m, hm, hrun⟩ := runIn_cached capture clock h hshown output
  rw [← hm.tree] at hshown ht
  obtain ⟨m', hsave, hdelivers⟩ := runIn_save hpath hshown ht hp
  obtain ⟨_, w', hsay, hm'⟩ :=
    runIn_spares capture clock (x := .say ("Thumbnail saved to: " ++ path.text)) trivial m'
  refine ⟨w', ?_, hdelivers.of_idle hm hm'⟩
  rw [hrun, runIn_bind hsave]
  exact runIn_bind hsay

/-- **`get` delivers a thumbnail that is there.** -/
theorem delivers_get (h : c.snapshotOf t = .ok s)
    (hshown : c.store.Shows w.tree (s.key none thumb) payload)
    (hpath : path = output.getD ⟨Thumbnail.fileName (s.key none thumb) payload⟩) (ht : w.tree.Takes path)
    (hp : path.Avoids here c.store) : ∃ w', (c.get t thumb output).runIn (desk capture clock) w =
      (some (.ok ()), w') ∧ Delivers c.store path payload w w' := by
  obtain ⟨_, w₁, hnote, h₁⟩ :=
    runIn_spares capture clock (x := .note (.getting t.kind (s.key none thumb))) trivial w
  obtain ⟨start, w₂, hstart, h₂⟩ := runIn_spares capture clock (x := .clock) trivial w₁
  have hbefore := h₁.trans h₂
  rw [← hbefore.tree] at hshown ht
  obtain ⟨w₃, hget, h₃⟩ := runIn_snapshot_get capture clock s hshown
  rw [← h₃.tree] at hshown ht
  obtain ⟨w₄, hsave, hdelivers⟩ := runIn_save hpath hshown ht hp
  obtain ⟨w₅, hlines, h₅⟩ := runIn_sayAll capture clock ["Thumbnail ready:",
    "  Key: " ++ (s.key none thumb).text, "  Output: " ++ path.text,
    "  Size: " ++ Amount.text payload.size] w₄
  obtain ⟨stop, w₆, hstop, h₆⟩ := runIn_spares capture clock (x := .clock) trivial w₅
  obtain ⟨_, w₇, hsay, h₇⟩ :=
    runIn_spares capture clock (x := .say ("  Duration: " ++ elapsedText start stop)) trivial w₆
  refine ⟨w₇, ?_, hdelivers.of_idle (hbefore.trans h₃) ((h₅.trans h₆).trans h₇)⟩
  simp only [get, h]
  refine (runIn_bind hnote).trans ?_
  refine (runIn_bind hstart).trans ?_
  refine (runIn_bind hget).trans ?_
  refine (runIn_bind hsave).trans ?_
  refine (runIn_bind hlines).trans ?_
  refine (runIn_bind hstop).trans ?_
  exact runIn_bind hsay

end Delivers

end Context

/-! ## 4. A thumbnail that is there -/

namespace Context

variable (capture clock) in
/-- Where there is a thumbnail, a computation that is not forced is skipped. -/
theorem runIn_snapshot_compute (s : Snapshot) (hshown : c.store.Shows w.tree (s.key window thumb) payload) :
    ∃ m, (c.snapshot (s.compute c.identity window thumb false)).runIn (desk capture clock) w =
      (some (.ok none), m) ∧ Idle w m := by
  obtain ⟨w₁, hfound, h₁⟩ := runIn_shown capture clock hshown
  obtain ⟨_, w₂, hnote, h₂⟩ :=
    runIn_spares capture clock (x := .note (.skipped (s.key window thumb))) trivial w₁
  obtain ⟨_, w₃, hcount, h₃⟩ := runIn_spares capture clock (x := .count s.request.kind .skip) trivial w₂
  refine ⟨w₃, ?_, (h₁.trans h₂).trans h₃⟩
  simp only [Snapshot.compute, Bool.false_eq_true, if_false]
  rw [snapshot, Program.expand_bind]
  refine (runIn_bind hfound).trans ?_
  refine (runIn_bind hnote).trans ?_
  exact runIn_bind hcount

variable (capture clock) in
/-- **Where there is a thumbnail, `warm` leaves it as it is and succeeds.** -/
theorem runIn_warm_shown (h : c.snapshotOf t = .ok s)
    (hshown : c.store.Shows w.tree (s.key window thumb) payload) :
    ∃ w', (c.warm t window thumb false).runIn (desk capture clock) w = (some (.ok ()), w') ∧ Idle w w' := by
  obtain ⟨start, w₁, hstart, h₁⟩ := runIn_spares capture clock (x := .clock) trivial w
  rw [← h₁.tree] at hshown
  obtain ⟨w₂, hskipped, h₂⟩ := runIn_snapshot_compute capture clock s hshown
  rw [← h₂.tree] at hshown
  obtain ⟨w₃, hfound, h₃⟩ := runIn_shown capture clock hshown
  obtain ⟨_, w₄, hsay, h₄⟩ :=
    runIn_spares capture clock (x := .say ("Already cached: " ++ (s.key window thumb).text)) trivial w₃
  refine ⟨w₄, ?_, ((h₁.trans h₂).trans h₃).trans h₄⟩
  simp only [warm, h]
  refine (runIn_bind hstart).trans ?_
  refine (runIn_bind hskipped).trans ?_
  simp only [afterNone, Bool.false_eq_true, if_false]
  refine (runIn_bind hfound).trans ?_
  exact runIn_bind hsay

end Context

/-- A thumbnail that is put into the folder is shown. -/
theorem FolderStore.Stands.shows_put {store : FolderStore} {t : FileTree here} (hs : store.Stands t)
    (hfree : t.get? (store.spot here key) ≠ some .folder) (hpayload : payload.isEmpty = false) :
    store.Shows (t.put (store.spot here key) (.file payload)) key payload where
  seen := by
    have hstands : store.Stands (t.put (store.spot here key) (.file payload)) := hs.put_file hfree payload
    rw [hstands.sight, FileTree.get?_put_self (FileTree.isAbove_of_ne_folder hfree)]
    rfl
  nonempty := hpayload

/-- A folder of thumbnails, and beside it another folder. -/
def FileTree.shelves : FileTree workplace :=
  ⟨[(workplace ++ [".thumbnail-cache".toList], .folder), (workplace ++ ["out".toList], .folder)]⟩

section Shelves

variable {k : Key}

theorem FileTree.get?_shelves_put (name : List Char) :
    (FileTree.shelves.put (FolderStore.spot ⟨⟨".thumbnail-cache"⟩⟩ workplace k) (.file payload)).get?
      (workplace ++ [name]) = FileTree.shelves.get? (workplace ++ [name]) := by
  refine FileTree.get?_put_of_ne fun h => ?_
  have hlength := congrArg List.length h
  rw [FolderStore.spot, FolderStore.within, List.length_append, List.length_append] at hlength
  cases hlength

theorem FolderStore.shows_shelves (hpayload : payload.isEmpty = false) :
    FolderStore.Shows ⟨⟨".thumbnail-cache"⟩⟩
      (FileTree.shelves.put (FolderStore.spot ⟨⟨".thumbnail-cache"⟩⟩ workplace k) (.file payload)) k payload := by
  have hstands : FolderStore.Stands ⟨⟨".thumbnail-cache"⟩⟩ FileTree.shelves := rfl
  refine hstands.shows_put ?_ hpayload
  have hnone : FileTree.shelves.get? (FolderStore.spot ⟨⟨".thumbnail-cache"⟩⟩ workplace k) = none := rfl
  rw [hnone]
  exact nofun

end Shelves

/-! ## 5. Agreement -/

variable (capture clock) in
/-- The command succeeds, and delivers the thumbnail. -/
def Context.Fetches (c : Context) (command : Command) (path : Path) (payload : ByteArray)
    (w : CommandWorld (Disk here × τ)) : Prop :=
  ∃ w', (c.carryOut command).runIn (desk capture clock) w = (some (.ok ()), w') ∧
    Delivers c.store path payload w w'

/-- **The commands agree.** The key that `key` prints for a kind, a digest and sizes is the one that `warm`
    and `cached` work for, whatever the address is, and `get` too if there is no window. When `warm` has
    succeeded there is a thumbnail under the key; and as long as it can be seen, `cached` and `get` put its
    bytes into any file that can be written and is apart from the store, without a capture and without a
    change to the store. -/
theorem commands_agree (c : Context) (kind : Kind) (digest : String) (window thumb : Option Size) :
    let key := c.settings.key kind digest window thumb
    let target (address : String) : Target := ⟨kind, address, digest⟩
    (∀ {σ : Type} (eq : Equipment σ) (w : CommandWorld σ),
      (c.carryOut (.key kind digest window thumb)).runIn eq w =
        (some (.ok ()), w.after w.state [.say key.text])) ∧
    (∀ address, (∃ u, Url.parse address = .ok u) → ∃ s, c.snapshotOf (target address) = .ok s ∧
      (∀ force, (c.carryOut (.warm (target address) window thumb force)).Within
        (CommandAction.Bound c.store key (fun _ => False) (s.windowOf window) (s.thumbOf thumb))) ∧
      (∀ output, (c.carryOut (.cached (target address) window thumb output)).Within
        (CommandAction.Bound c.store key (OutputOf key output) (s.windowOf window) (s.thumbOf thumb))) ∧
      (window = none → ∀ output, (c.carryOut (.get (target address) thumb output)).Within
        (CommandAction.Bound c.store key (OutputOf key output) (s.windowOf none) (s.thumbOf thumb)))) ∧
    ∀ {here : Place} {τ : Type} (capture : BrowserSettings → Shot → τ → Sitting × τ) (clock : τ → Nat × τ)
      (w w' : CommandWorld (Disk here × τ)) (address : String) (force : Bool),
      (c.carryOut (.warm (target address) window thumb force)).runIn (desk capture clock) w =
        (some (.ok ()), w') →
      ∃ payload, c.store.Shows w'.tree key payload ∧
        ∀ (v : CommandWorld (Disk here × τ)) (address : String) (output : Option Path) (path : Path),
          c.store.Shows v.tree key payload → (∃ u, Url.parse address = .ok u) →
          path = output.getD ⟨Thumbnail.fileName key payload⟩ → v.tree.Takes path → path.Avoids here c.store →
          c.Fetches capture clock (.cached (target address) window thumb output) path payload v ∧
          (window = none →
            c.Fetches capture clock (.get (target address) thumb output) path payload v) := by
  intro key target
  have hkey {address : String} {s : Snapshot} (h : c.snapshotOf (target address) = .ok s) :
      s.key window thumb = key := Context.key_of_snapshotOf h window thumb
  refine ⟨fun eq w => rfl, fun address haddress => ?_, ?_⟩
  · obtain ⟨s, h⟩ := c.exists_snapshotOf (t := target address) haddress
    refine ⟨s, h, fun force => ?_, fun output => ?_, ?_⟩
    · rw [← hkey h]
      exact Context.within_warm h window thumb force
    · rw [← hkey h]
      exact Context.within_cached h window thumb output
    · rintro rfl output
      rw [← hkey h]
      exact Context.within_get h thumb output
  · intro here τ capture clock w w' address force hwarm
    obtain ⟨s, h⟩ := Context.snapshotOf_of_warm hwarm
    obtain ⟨payload, hshown⟩ := Context.shows_of_warm h hwarm
    refine ⟨payload, hkey h ▸ hshown, fun v address output path hshown haddress hpath ht hp => ?_⟩
    obtain ⟨s, h⟩ := c.exists_snapshotOf (t := target address) haddress
    rw [← hkey h] at hshown hpath
    refine ⟨Context.delivers_cached h hshown hpath ht hp, ?_⟩
    rintro rfl
    exact Context.delivers_get h hshown hpath ht hp

/-- A thumbnail that is there at the start: `warm` succeeds, and `cached` and `get` put it into a file. -/
theorem commands_agree_shelves :
    let c : Context := ⟨Settings.default, Identity.anonymous, Decoder.builtIn⟩
    let t : Target := ⟨.chart, "http://[::1]/", "d1"⟩
    let key := c.settings.key .chart "d1" none none
    let capture := fun _ _ (f : Unit) => ((⟨[], some (.error .empty)⟩, f) : Sitting × Unit)
    let clock := fun (f : Unit) => (0, f)
    let disk : Disk workplace := ⟨FileTree.shelves.put (c.store.spot workplace key) (.file ⟨#[1]⟩), 0⟩
    let w := CommandWorld.start (disk, ())
    ∃ w' payload,
      (c.carryOut (.warm t none none false)).runIn (desk capture clock) w = (some (.ok ()), w') ∧
      c.store.Shows w'.tree key payload ∧
      c.Fetches capture clock (.cached t none none (some ⟨"out.png"⟩)) ⟨"out.png"⟩ payload w' ∧
      c.Fetches capture clock (.get t none (some ⟨"out.png"⟩)) ⟨"out.png"⟩ payload w' := by
  intro c t key capture clock disk w
  obtain ⟨s, h⟩ := c.exists_snapshotOf (t := t) Context.parse_loopback
  have hkey : s.key none none = key := Context.key_of_snapshotOf h none none
  have hshown : c.store.Shows w.tree (s.key none none) ⟨#[1]⟩ := hkey ▸ FolderStore.shows_shelves rfl
  obtain ⟨w', hwarm, hw'⟩ := Context.runIn_warm_shown capture clock h hshown
  obtain ⟨-, -, hagree⟩ := commands_agree c .chart "d1" none none
  obtain ⟨payload, hshown', hfetch⟩ := hagree capture clock w w' t.address false hwarm
  have htakes : w'.tree.Takes ⟨"out.png"⟩ := by
    have hnone : w.tree.get? (workplace ++ ["out.png".toList]) = none := (FileTree.get?_shelves_put _).trans rfl
    rw [hw'.tree]
    refine FileTree.takes_single rfl rfl rfl ?_
    exact fun hfolder => nomatch hnone.symm.trans hfolder
  have hapart : Path.Avoids ⟨"out.png"⟩ workplace ⟨⟨".thumbnail-cache"⟩⟩ :=
    Path.avoids_single rfl rfl rfl rfl (by decide) (by decide)
  obtain ⟨hcached, hget⟩ := hfetch w' t.address (some ⟨"out.png"⟩) ⟨"out.png"⟩ hshown'
    Context.parse_loopback rfl htakes hapart
  exact ⟨w', payload, hwarm, hshown', hcached, hget rfl⟩

/-- A file that cannot be written: `warm` succeeds, and `cached` fails, though the file is apart from the
    store. -/
theorem cached_into_folder :
    let c : Context := ⟨Settings.default, Identity.anonymous, Decoder.builtIn⟩
    let t : Target := ⟨.chart, "http://[::1]/", "d1"⟩
    let key := c.settings.key .chart "d1" none none
    let capture := fun _ _ (f : Unit) => ((⟨[], some (.error .empty)⟩, f) : Sitting × Unit)
    let clock := fun (f : Unit) => (0, f)
    let disk : Disk workplace := ⟨FileTree.shelves.put (c.store.spot workplace key) (.file ⟨#[1]⟩), 0⟩
    let w := CommandWorld.start (disk, ())
    Path.Avoids ⟨"out"⟩ workplace c.store ∧
      ∃ w', (c.carryOut (.warm t none none false)).runIn (desk capture clock) w = (some (.ok ()), w') ∧
        ∃ v, (c.carryOut (.cached t none none (some ⟨"out"⟩))).runIn (desk capture clock) w' =
          (some (.error (.io "Is a directory (os error 21)")), v) := by
  intro c t key capture clock disk w
  obtain ⟨s, h⟩ := c.exists_snapshotOf (t := t) Context.parse_loopback
  have hkey : s.key none none = key := Context.key_of_snapshotOf h none none
  have hshown : c.store.Shows w.tree (s.key none none) ⟨#[1]⟩ := hkey ▸ FolderStore.shows_shelves rfl
  obtain ⟨w', hwarm, hw'⟩ := Context.runIn_warm_shown capture clock h hshown
  have hapart : Path.Avoids ⟨"out"⟩ workplace ⟨⟨".thumbnail-cache"⟩⟩ :=
    Path.avoids_single rfl rfl rfl rfl (by decide) (by decide)
  refine ⟨hapart, w', hwarm, ?_⟩
  rw [← hw'.tree] at hshown
  obtain ⟨m, hm, hcached⟩ := Context.runIn_cached capture clock h hshown (some ⟨"out"⟩)
  have hfolder : m.tree.get? (workplace ++ ["out".toList]) = some .folder := by
    rw [hm.tree, hw'.tree]
    exact (FileTree.get?_shelves_put _).trans rfl
  have hrefused : ((FileProgram.supply ⟨"out"⟩ ⟨#[1]⟩).run FileTree.perform m.state.1).1 =
      .error .isDirectory :=
    FileTree.run_supply_folder (p := ⟨"out"⟩) rfl rfl rfl hfolder ⟨#[1]⟩
  have hpath : Path.mk "out" =
      (some (Path.mk "out")).getD ⟨Thumbnail.fileName (s.key none none) ⟨#[1]⟩⟩ := rfl
  obtain ⟨v, hsave⟩ := runIn_save_error hpath hrefused
  refine ⟨v, hcached.trans ?_⟩
  exact runIn_bind hsave

end Agreement

end Vignette
