import EngineHost.Proofs.Bridge.Fleet
import EngineHost.Proofs.Tree.Lock
import Mathlib.Order.BooleanAlgebra.Set

/-!
# Locks and descriptors agree

A file is locked while somebody holds an access handle on it, and the access handles of a fleet of
bridges are those of their open files.  Between taking a handle and giving out its descriptor there
are steps that can fail, closing a handle can fail, and a bridge that goes closes what it has open.

* `Fleet.Sound` : the files held are those behind the descriptors, each behind one of them only.
* `Fleet.Sound.step` : every step of a fleet keeps this, over any storage whose handles hold their
  files.
* `Fleet.run_locked_iff` : it holds of the storage in memory, whichever of its calls fail.

The proof follows the handle: an open ends in one of the ways of `Bridge.Opened`, and in each of
them the handle is under a descriptor or was released (`Bridge.Opened.held`).  A bridge that goes is
a row of closes.  Everything else leaves the files held and the descriptors alone.
-/

namespace EngineHost

open Bridge

variable {σ τ ι α : Type} {S : Storage σ} {H : S.Holding ι}

/-- Opening a file that fails leaves the files held as they are; when it succeeds, it adds a file
that nobody held. -/
theorem Bridge.Opened.held {path : String} {flags : OpenFlags} {b : Bridge S} {s : σ}
    {r : EStateM.Result VfsError (Bridge S × σ) Int} (h : Opened path flags b s r)
    (H : S.Holding ι) :
    (∃ e s', r = .error e (b, s') ∧ H.held s' = H.held s) ∨
    ∃ file s', r = .ok b.nextFd (b.entered file, s') ∧ b.nextFd < lastFd ∧
      H.isOpen file.handle = true ∧ H.target file.handle ∉ H.held s ∧
      H.held s' = insert (H.target file.handle) (H.held s) := by
  have hlocate : ∀ {r}, locate path flags (b, s) = r → H.held (stateAfter r).2 = H.held s := by
    rintro _ rfl
    exact (locate_moves (H.quiet .directory nofun nofun) (H.quiet .file nofun nofun)
      path flags (b, s)).2
  have hprepare : ∀ {h s₂ r}, prepare h flags (b, s₂) = r →
      H.held (stateAfter r).2 = H.held s₂ := by
    rintro h s₂ _ rfl
    exact (prepare_moves (H.quiet .truncate nofun nofun) (H.quiet .flush nofun nofun)
      (H.quiet .size nofun nofun) h flags (b, s₂)).2
  -- a handle that was taken and is released again leaves no trace
  have hundone : ∀ {f h s₁ s₂ s₃}, S.acquire f s₁ = .ok h s₂ → H.held s₁ = H.held s →
      H.held s₃ = H.held s₂ → H.held (S.release h s₃) = H.held s := by
    intro f h s₁ s₂ s₃ ha hs₁ hs₃
    obtain ⟨hopen, hfree, hheld⟩ := H.acquire_ok ha
    rw [H.release s₃ hopen, hs₃, hheld, Set.insert_sdiff_self_of_notMem hfree, hs₁]
  cases h with
  | lost hl => exact .inl ⟨_, _, rfl, hlocate hl⟩
  | refused hl ha => exact .inl ⟨_, _, rfl, (H.acquire_error ha).trans (hlocate hl)⟩
  | unprepared hl ha hp => exact .inl ⟨_, _, rfl, hundone ha (hlocate hl) (hprepare hp)⟩
  | exhausted hl ha hp => exact .inl ⟨_, _, rfl, hundone ha (hlocate hl) (hprepare hp)⟩
  | entered hl ha hp hfd =>
    obtain ⟨hopen, hfree, hheld⟩ := H.acquire_ok ha
    have hs₁ := hlocate hl
    refine .inr ⟨_, _, rfl, hfd, hopen, hs₁ ▸ hfree, ?_⟩
    exact (hprepare hp).trans (hheld.trans (congrArg _ hs₁))

namespace Fleet

/-- The file behind a descriptor of a bridge. -/
def behind (H : S.Holding ι) (f : Fleet S) (d : Nat × Int) : Option ι :=
  (f.file? d.1 d.2).map fun file => H.target file.handle

/-- The files held are those behind the descriptors, each behind one of them only. -/
structure Sound (H : S.Holding ι) (f : Fleet S) : Prop where
  numbered : ∀ {k b}, f.bridges k = some b → b.Numbered
  isOpen : ∀ {k fd file}, f.file? k fd = some file → H.isOpen file.handle = true
  exclusive : Exclusive (H.held f.store) (f.behind H)

variable {f f' : Fleet S} {k j : Nat} {b b' : Bridge S} {s : σ} {fd : Int} {file : OpenFile S}

theorem behind_put (f : Fleet S) (k : Nat) (b : Bridge S) (s : σ) (d : Nat × Int) :
    (f.put k b s).behind H d =
      if d.1 = k then (b.file? d.2).map fun file => H.target file.handle else f.behind H d := by
  unfold behind
  rw [file?_put]
  split_ifs <;> rfl

theorem behind_of_bridge (hb : f.bridges k = some b) (fd : Int) :
    f.behind H (k, fd) = (b.file? fd).map fun file => H.target file.handle := by
  unfold behind
  rw [file?_of_bridge hb]

theorem behind_put_same (hb : f.bridges k = some b) (hfiles : b'.files = b.files) (s : σ) :
    (f.put k b' s).behind H = f.behind H := by
  funext ⟨j, fd⟩
  rw [behind_put]
  split_ifs with hj
  · subst hj
    rw [behind_of_bridge hb, Bridge.file?, Bridge.file?, hfiles]
  · rfl

theorem behind_put_entered (hb : f.bridges k = some b) (file : OpenFile S) (s : σ) :
    (f.put k (b.entered file) s).behind H =
      Function.update (f.behind H) (k, b.nextFd) (some (H.target file.handle)) := by
  funext ⟨j, fd⟩
  rw [behind_put, Function.update_apply]
  by_cases hj : j = k
  · subst hj
    by_cases hfd : fd = b.nextFd
    · simp [hfd, file?_entered]
    · simp [hfd, file?_entered, behind_of_bridge hb]
  · simp [hj]

theorem behind_put_left (hb : f.bridges k = some b) (fd : Int) (s : σ) :
    (f.put k (b.left fd) s).behind H = Function.update (f.behind H) (k, fd) none := by
  funext ⟨j, fd'⟩
  rw [behind_put, Function.update_apply]
  by_cases hj : j = k
  · subst hj
    by_cases hfd : fd' = fd
    · simp [hfd, file?_left]
    · simp [hfd, file?_left, behind_of_bridge hb]
  · simp [hj]

theorem behind_drop (f : Fleet S) (k : Nat) (d : Nat × Int) :
    (f.drop k).behind H d = if d.1 = k then none else f.behind H d := by
  unfold behind
  rw [file?_drop]
  split_ifs <;> rfl

namespace Sound

/-- A bridge that takes a place with files that are open. -/
theorem put (hf : f.Sound H) (hb : b'.Numbered)
    (hopen : ∀ {fd file}, b'.file? fd = some file → H.isOpen file.handle = true)
    (hex : Exclusive (H.held s) ((f.put k b' s).behind H)) : (f.put k b' s).Sound H where
  numbered {j c} hj := by
    by_cases hjk : j = k
    · subst hjk
      have : b' = c := by simpa [Fleet.put] using hj
      exact this ▸ hb
    · have : f.bridges j = some c := by simpa [Fleet.put, Function.update_of_ne hjk] using hj
      exact hf.numbered this
  isOpen {j fd file} hj := by
    rw [file?_put] at hj
    split_ifs at hj
    · exact hopen hj
    · exact hf.isOpen hj
  exclusive := hex

/-- A step that leaves the open files of its bridge. -/
theorem same (hf : f.Sound H) (hb : f.bridges k = some b) (hfiles : b'.files = b.files)
    (hnext : b'.nextFd = b.nextFd) (hheld : H.held s = H.held f.store) :
    (f.put k b' s).Sound H := by
  refine hf.put ((hf.numbered hb).of_same hfiles hnext) (fun hfd => ?_) ?_
  · rw [Bridge.file?, hfiles, ← Bridge.file?, ← file?_of_bridge hb] at hfd
    exact hf.isOpen hfd
  · rw [behind_put_same hb hfiles, hheld]
    exact hf.exclusive

/-- A step that opens a file. -/
theorem entered (hf : f.Sound H) (hb : f.bridges k = some b) (hfd : b.nextFd < lastFd)
    (hopen : H.isOpen file.handle = true) (hfree : H.target file.handle ∉ H.held f.store)
    (hheld : H.held s = insert (H.target file.handle) (H.held f.store)) :
    (f.put k (b.entered file) s).Sound H := by
  have hnum := hf.numbered hb
  refine hf.put (hnum.entered hfd file) (fun {fd' _} hfd' => ?_) ?_
  · rw [file?_entered] at hfd'
    split_ifs at hfd'
    · exact Option.some.inj hfd' ▸ hopen
    · exact hf.isOpen (file?_of_bridge hb fd' ▸ hfd')
  · rw [hheld, behind_put_entered hb]
    have hnone : f.behind H (k, b.nextFd) = none := by
      rw [behind_of_bridge hb, hnum.file?_nextFd]
      rfl
    exact hf.exclusive.take hfree (Function.update_self ..)
      (fun _ h => Function.update_of_ne h _ _) hnone

/-- A step that gives a file up. -/
theorem left (hf : f.Sound H) (hb : f.bridges k = some b) (hfd : b.file? fd = some file) :
    (f.put k (b.left fd) (S.giveUp file.handle f.store)).Sound H := by
  have hopen : H.isOpen file.handle = true := hf.isOpen (by rw [file?_of_bridge hb, hfd])
  refine hf.put ((hf.numbered hb).left fd) (fun {fd' _} hfd' => ?_) ?_
  · rw [file?_left] at hfd'
    split_ifs at hfd'
    exact hf.isOpen (file?_of_bridge hb fd' ▸ hfd')
  · rw [H.giveUp f.store hopen, behind_put_left hb]
    have hbehind : f.behind H (k, fd) = some (H.target file.handle) := by
      rw [behind_of_bridge hb, hfd]
      rfl
    exact hf.exclusive.giveUp hbehind (Function.update_self ..)
      fun _ h => Function.update_of_ne h _ _

/-- Every operation of a bridge. -/
theorem act (hf : f.Sound H) (hb : f.bridges k = some b) (op : BridgeOp) :
    (f.put k (op.perform (b, f.store)).2.1 (op.perform (b, f.store)).2.2).Sound H := by
  by_cases hop : op.isQuiet = true
  · have hquiet : ∀ kind ∈ op.kinds, S.Keeps (Unchanged H.held) kind := by
      intro kind hkind
      refine H.quiet kind ?_ ?_
      all_goals
        rintro rfl
        cases op <;> simp [BridgeOp.kinds, BridgeOp.isQuiet] at hkind hop
    obtain ⟨⟨hfiles, hnext⟩, hheld⟩ := op.perform_quiet hop hquiet (b, f.store)
    exact hf.same hb hfiles hnext hheld
  · cases op with
    | openFile path flags =>
      show (f.put k (answer (tryOpen path _) id (b, f.store)).2.1
        (answer (tryOpen path _) id (b, f.store)).2.2).Sound H
      rw [answer_snd]
      obtain ⟨e, s', hr, hheld⟩ | ⟨file, s', hr, hfd, hopen, hfree, hheld⟩ :=
        (tryOpen_opened path (.ofWord flags) b f.store).held H
      · rw [hr]
        exact hf.same hb rfl rfl hheld
      · rw [hr]
        exact hf.entered hb hfd hopen hfree hheld
    | closeFile fd =>
      show (f.put k (Bridge.closeFile fd (b, f.store)).2.1
        (Bridge.closeFile fd (b, f.store)).2.2).Sound H
      cases hfd : b.file? fd with
      | none =>
        rw [closeFile_none hfd]
        exact hf.same hb rfl rfl rfl
      | some file =>
        rw [closeFile_snd hfd]
        exact hf.left hb hfd
    | _ => exact absurd rfl hop

/-- A bridge without open files may go. -/
theorem remove (hf : f.Sound H) (hb : f.bridges k = some b) (hnone : b.files = []) :
    Sound H ⟨Function.update f.bridges k none, f.store⟩ := by
  have hfile : ∀ j fd, file? ⟨Function.update f.bridges k none, f.store⟩ j fd = f.file? j fd := by
    intro j fd
    by_cases hj : j = k
    · subst hj
      rw [file?_of_bridge hb, Bridge.file?, hnone]
      simp [file?]
    · simp [file?, Function.update_of_ne hj]
  have hbehind : behind H ⟨Function.update f.bridges k none, f.store⟩ = f.behind H := by
    funext d
    rw [behind, behind, hfile]
  refine ⟨fun {j c} hj => ?_, fun {j fd file} hj => hf.isOpen (hfile j fd ▸ hj), ?_⟩
  · by_cases hjk : j = k
    · subst hjk; simp at hj
    · exact hf.numbered (by simpa [Function.update_of_ne hjk] using hj)
  · rw [hbehind]
    exact hf.exclusive

/-- A bridge that goes gives up its files one after another. -/
theorem drop (hf : f.Sound H) (k : Nat) : (f.drop k).Sound H := by
  unfold Fleet.drop
  cases hb : f.bridges k with
  | none => exact hf
  | some b =>
    show Sound H ⟨Function.update f.bridges k none,
      b.files.foldl (fun s x => S.giveUp x.2.handle s) f.store⟩
    generalize hfiles : b.files = files
    induction files generalizing f b with
    | nil => exact hf.remove hb hfiles
    | cons x rest ih =>
      obtain ⟨fd, file⟩ := x
      have hfd : b.file? fd = some file := by rw [Bridge.file?, hfiles, List.lookup_cons_self]
      -- giving the first file up is closing it, and the other files are left
      have hrest : (b.left fd).files = rest := by
        have hdistinct := (hf.numbered hb).distinct
        rw [hfiles, List.map_cons, List.nodup_cons] at hdistinct
        rw [Bridge.left, hfiles, List.filter_cons_of_neg (by simp), List.filter_eq_self]
        intro e he
        have : e.1 ≠ fd := fun h => hdistinct.1 (List.mem_map.2 ⟨e, he, h⟩)
        simpa using this
      have hnext := ih (hf.left hb hfd) (b := b.left fd) (by simp [Fleet.put]) hrest
      rwa [Fleet.put, Function.update_idem] at hnext

/-- A new bridge has no open files. -/
theorem create (hf : f.Sound H) (k : Nat) : (f.create k).Sound H := by
  have hdrop := hf.drop k
  have hgone : (f.drop k).bridges k = none := by
    unfold Fleet.drop
    cases hb : f.bridges k with
    | none => exact hb
    | some b => simp
  unfold Fleet.create
  generalize f.drop k = g at hdrop hgone
  have hbehind : (g.put k .new g.store).behind H = g.behind H := by
    funext ⟨j, fd⟩
    rw [behind_put]
    split_ifs with hj
    · subst hj
      simp [behind, file?, hgone, Bridge.new, Bridge.file?]
    · rfl
  refine hdrop.put numbered_new (fun h => by cases h) ?_
  rw [hbehind]
  exact hdrop.exclusive

/-- **Every step of a fleet keeps locks and descriptors in agreement.** -/
theorem step (hf : f.Sound H) (op : FleetOp) : (f.step op).Sound H := by
  cases op with
  | create k => exact hf.create k
  | drop k => exact hf.drop k
  | act k op =>
    cases hb : f.bridges k with
    | none => rwa [step_act_none hb]
    | some b =>
      rw [step_act hb]
      exact hf.act hb op

theorem start {s : σ} (hs : H.held s = ∅) : (Fleet.start s : Fleet S).Sound H where
  numbered h := by cases h
  isOpen h := by cases h
  exclusive := {
    held_iff := by
      intro i
      show i ∈ H.held s ↔ _
      rw [hs]
      simp [behind, file?, Fleet.start]
    unique := fun {d d' i} h _ => by simp [behind, file?, Fleet.start] at h }

/-! ### What an operation does to the files held -/

/-- An open that fails leaves no file held, whichever of its calls failed. -/
theorem openFile_failed (hf : f.Sound H) {path : String} {flags : Int32} {n : Int}
    (hact : f.act k (Bridge.openFile path flags) = some (n, f')) (hn : n < 0) :
    H.held f'.store = H.held f.store ∧ f'.behind H = f.behind H := by
  obtain ⟨b, hb, rfl, rfl⟩ := act_eq_some_iff.1 hact
  have hsnd := answer_snd (tryOpen path (.ofWord flags)) id (b, f.store)
  change (answer (tryOpen path (.ofWord flags)) id (b, f.store)).1 < 0 at hn
  simp only [Bridge.openFile, hsnd]
  obtain ⟨e, s', hr, hheld⟩ | ⟨file, s', hr, -⟩ :=
    (tryOpen_opened path (.ofWord flags) b f.store).held H
  · rw [hr]
    exact ⟨hheld, behind_put_same hb rfl s'⟩
  · -- the descriptor of a file that was opened is positive
    simp only [answer, hr, id] at hn
    exact absurd (hf.numbered hb).next_pos (Int.not_lt.2 (Int.le_of_lt hn))

/-- Closing a descriptor frees its file, whatever it answers. -/
theorem closeFile_held (hf : f.Sound H) {n : Int} {i : ι} (hi : f.behind H (k, fd) = some i)
    (hact : f.act k (Bridge.closeFile fd) = some (n, f')) :
    H.held f'.store = H.held f.store \ {i} ∧
      f'.behind H = Function.update (f.behind H) (k, fd) none := by
  obtain ⟨b, hb, -, rfl⟩ := act_eq_some_iff.1 hact
  rw [behind_of_bridge hb, Option.map_eq_some_iff] at hi
  obtain ⟨file, hfd, rfl⟩ := hi
  have hopen : H.isOpen file.handle = true := hf.isOpen (by rw [file?_of_bridge hb, hfd])
  rw [closeFile_snd hfd]
  exact ⟨H.giveUp f.store hopen, behind_put_left hb fd _⟩

/-- A bridge that goes frees its own files. -/
theorem held_drop (hf : f.Sound H) (k : Nat) :
    H.held (f.drop k).store = H.held f.store \ {i | ∃ fd, f.behind H (k, fd) = some i} := by
  ext i
  rw [Set.mem_sdiff, Set.mem_ofPred_eq, (hf.drop k).exclusive.held_iff, hf.exclusive.held_iff]
  constructor
  · rintro ⟨d, hd⟩
    rw [behind_drop] at hd
    split_ifs at hd with hk
    refine ⟨⟨d, hd⟩, ?_⟩
    rintro ⟨fd, hfd⟩
    -- the file would be behind a descriptor of this bridge and behind one of another
    exact hk (congrArg Prod.fst (hf.exclusive.unique hd hfd))
  · rintro ⟨⟨⟨j, fd⟩, hd⟩, hother⟩
    refine ⟨(j, fd), ?_⟩
    rw [behind_drop, if_neg]
    · exact hd
    · rintro rfl
      exact hother ⟨fd, hd⟩

end Sound

/-- Locks and descriptors agree in every state that steps lead to. -/
theorem sound_run {s : σ} (hs : H.held s = ∅) (ops : List FleetOp) :
    ((Fleet.start s : Fleet S).run ops).Sound H :=
  run_keeps (fun op hf => hf.step op) (Sound.start hs) ops

/-! ### The storage in memory -/

open Storage (Holding)

/-- **Locks and descriptors agree in every reachable state**, whatever number of bridges share a
tree and whichever of their storage calls a saboteur lets fail: a file is locked if and only if it
is behind one descriptor of one bridge, and no file is behind two.  So an open that fails leaves no
lock, a close frees the file of its descriptor whatever it answers, and a bridge that goes frees its
own files and no others. -/
theorem run_locked_iff (a : Allocator) (w : Saboteur τ) (quota : UInt64) (m : τ)
    (ops : List FleetOp) :
    let H := (Holding.memory a).sabotaged w
    let f : Fleet ((Storage.memory a).sabotaged w) := (start (Tree.empty quota, m)).run ops
    (∀ i, (∃ data, f.store.1.node? i = some (.file data true)) ↔ ∃! d, f.behind H d = some i) ∧
    (∀ d d' i, f.behind H d = some i → f.behind H d' = some i → d = d') ∧
    (∀ k path flags n f', f.act k (Bridge.openFile path flags) = some (n, f') → n < 0 →
      f'.store.1.locked = f.store.1.locked ∧ f'.behind H = f.behind H) ∧
    (∀ k fd i n f', f.behind H (k, fd) = some i → f.act k (Bridge.closeFile fd) = some (n, f') →
      f'.store.1.locked = f.store.1.locked \ {i} ∧
      f'.behind H = Function.update (f.behind H) (k, fd) none) ∧
    ∀ k, (f.drop k).store.1.locked =
        f.store.1.locked \ {i | ∃ fd, f.behind H (k, fd) = some i} ∧
      ∀ d, (f.drop k).behind H d = if d.1 = k then none else f.behind H d := by
  intro H f
  have hf : f.Sound H := sound_run (Tree.locked_empty quota) ops
  refine ⟨fun i => hf.exclusive.mem_iff_existsUnique, fun d d' i hd hd' => ?_,
    fun k path flags n f' hact hn => hf.openFile_failed hact hn,
    fun k fd i n f' hi hact => hf.closeFile_held hi hact,
    fun k => ⟨hf.held_drop k, fun d => behind_drop f k d⟩⟩
  exact hf.exclusive.unique hd hd'

end Fleet

end EngineHost
