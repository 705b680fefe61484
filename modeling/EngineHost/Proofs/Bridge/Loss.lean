import EngineHost.Proofs.Bridge.Opening
import EngineHost.Proofs.Bridge.Removal
import EngineHost.Proofs.Tree.Kept

/-!
# What opening and deleting take away

Nothing is to be taken away by an open that is refused, and by a deletion nothing but a file.

* `Fleet.run_refused` : an open that is refused keeps the bytes of all files, while its bridge has a
  descriptor left.  The descriptor is taken last, so without one a file is emptied and then not
  opened (`Fleet.Poised.emptied`); a bridge gets there by opening and closing a file
  (`Fleet.Poised.run_spend`).
* `Fleet.run_deletion` : a deletion keeps every directory, but an empty one that its path names.
-/

namespace EngineHost

open Bridge
open EngineHost.Storage EngineHost.Tree

variable {a : Allocator} {t : Tree} {i : Inode}

/-! ### Opening -/

namespace Bridge

variable {b : Bridge (memory a)} {path : String} {flags : Int32}

/-- Taking a file, preparing it and giving it up again keeps all files, but not this one if it is to
be emptied. -/
theorem keepsFiles_of_taken {flags : OpenFlags} {h : MemoryAccess} {t₁ t₂ t₃ : Tree}
    (ha : (memory a).acquire i t₁ = .ok h t₂)
    (hp : prepare (S := memory a) h flags (b, t₂) = .ok () (b, t₃)) :
    KeepsFiles (if flags.has .truncate then {i} else ∅) t₁ ((memory a).release h t₃) := by
  obtain ⟨hlock, rfl⟩ := memory_acquire_ok_iff.1 ha
  have htaken := keepsFiles_lock (s := if flags.has .truncate then {i} else ∅) hlock
  obtain ⟨data, hdata, rfl⟩ := lock_ok_iff.1 hlock
  have hi : (t₁.setNode i (.file data true)).node? i = some (.file data true) := by
    rw [node?_setNode hdata, if_pos rfl]
  have hp' := prepare_eq (h := ⟨i, false⟩) rfl hi flags b
  rw [hp] at hp'
  cases hp'
  refine trans_of (KeepsFiles _) (trans_of (KeepsFiles _) htaken ?_)
    ((memory_keepsFiles a _ .close nofun nofun nofun).2 _ _)
  split_ifs
  · exact keepsFiles_replaced hi (node?_resized hi 0) (.inl rfl)
  · exact Std.Refl.refl _

/-- **An open that is refused** keeps the bytes of all files, unless it comes after the last
descriptor: then it may have emptied the idle file under its path. -/
theorem openFile_keepsFiles (hb : b.Rooted) (ht : t.Grown) (hpos : 0 < b.nextFd)
    (hn : (openFile path flags (b, t)).1 < 0) :
    ∃ s, KeepsFiles s t (openFile path flags (b, t)).2.2 ∧
      ∀ i ∈ s, lastFd ≤ b.nextFd ∧ flags &&& 16 ≠ 0 ∧
        (b.idleFile? t path = some i ∨ t.nextInode ≤ i) := by
  have hkeeps := fun s kind => memory_keepsFiles a s kind
  have hlocate := fun s => locate_moves (hkeeps s .directory nofun nofun nofun)
    (hkeeps s .file nofun nofun nofun) path (.ofWord flags) (b, t)
  have hopened := tryOpen_opened path (.ofWord flags) b t
  unfold openFile at hn ⊢
  cases hr : tryOpen path (.ofWord flags) (b, t) with
  | ok fd w =>
    -- the descriptor of a file that was opened is positive
    rw [hr] at hopened
    rw [answer_of_ok hr id] at hn
    cases hopened
    exact absurd hpos (Int.not_lt.2 (Int.le_of_lt hn))
  | error e w =>
    rw [hr] at hopened
    rw [answer_of_error hr]
    cases hopened with
    | lost hl =>
      rw [hl] at hlocate
      exact ⟨∅, (hlocate ∅).2, nofun⟩
    | @refused x _ t₁ _ hl ha =>
      rw [hl] at hlocate
      have hacquire := hkeeps ∅ .acquire nofun nofun nofun x.1 t₁
      rw [ha] at hacquire
      exact ⟨∅, trans_of (KeepsFiles ∅) (hlocate ∅).2 hacquire, nofun⟩
    | unprepared hl ha hp =>
      -- over a tree a file that was taken is always prepared
      obtain ⟨l, t', -, hp', -⟩ := prepare_of_acquire b (.ofWord flags) ha
      rw [hp] at hp'
      cases hp'
    | exhausted hl ha hp hfd =>
      rw [hl] at hlocate
      refine ⟨_, trans_of (KeepsFiles _) (hlocate _).2 (keepsFiles_of_taken ha hp), ?_⟩
      intro i hi
      split_ifs at hi with hflag
      · obtain rfl := hi
        exact ⟨hfd, (OpenFlags.has_ofWord_iff flags .truncate).1 hflag,
          (idleFile?_of_acquire hb ht hl ha).imp_right And.right⟩
      · cases hi

end Bridge

namespace Fleet

variable {f : Fleet (memory a)} {k : Nat} {path : String} {fd : Int} {bytes : List UInt8}

/-- **An open that is refused loses no data**, in every reachable state, whatever the path and the
flags: every file is there afterwards and has the bytes it had.  Excepted is the idle file under the
path when it is to be emptied and the bridge has given out all its descriptors. -/
theorem run_refused (a : Allocator) (quota : UInt64) (ops : List FleetOp) (k : Nat)
    (b : Bridge (memory a)) (hb : ((start (Tree.empty quota)).run ops).bridges k = some b)
    (path : String) (flags : Int32) (status : Int) (f' : Fleet (memory a))
    (hact : ((start (Tree.empty quota)).run ops).act k (Bridge.openFile path flags) =
      some (status, f')) (hrefused : status < 0) :
    let f : Fleet (memory a) := (start (Tree.empty quota)).run ops
    ∀ names bytes held, f.store.standing? names = some (.file bytes held) →
      ¬ (b.nextFd = 0x7fffffff ∧ flags &&& 16 ≠ 0 ∧ names = segments path.toList ∧
        held = false) →
      ∃ held', f'.store.standing? names = some (.file bytes held') := by
  intro f names bytes held hfile hspent
  have hf : f.Ready := ready_run a quota ops
  have hnum := hf.sound.numbered hb
  obtain ⟨b', hb', rfl, rfl⟩ := act_eq_some_iff.1 hact
  obtain rfl : b = b' := Option.some.inj (hb.symm.trans hb')
  obtain ⟨s, hkeeps, hs⟩ := openFile_keepsFiles (hf.rooted hb) hf.grown hnum.next_pos hrefused
  obtain ⟨i, data, hd, hi, -⟩ := standing?_file_iff.1 hfile
  refine hkeeps.standing? hd (fun hmem => hspent ?_) hfile
  obtain ⟨hfd, hflag, hidle | hnew⟩ := hs i hmem
  · obtain ⟨-, -, hidle⟩ := Option.bind_eq_some_iff.1 hidle
    obtain ⟨p, data', hp, hd', hi'⟩ := idleFile?_eq_some_iff.1 hidle
    have hnames : names = segments path.toList := by
      rw [(StoragePath.parse_eq_some_iff.1 hp).1]
      exact hf.grown.path_unique hd hd'
    exact ⟨Int.le_antisymm hnum.next_le hfd, hflag, hnames, (file_unique hi' hi).2⟩
  · exact absurd (lt_nextInode hi) (Nat.not_lt.2 hnew)

/-- A file that another bridge holds is not emptied. -/
theorem run_refused_held :
    let f : Fleet (memory .addressSpace) := (start (Tree.empty 100)).run
      [.create 0, .create 1, .act 0 .probe, .act 1 .probe, .act 0 (.openFile "d/f" 1),
        .act 0 (.write 1 [7] 0)]
    ∃ f', f.act 1 (Bridge.openFile "d/f" 16) = some (-1, f') ∧
      ∃ held, f'.store.standing? ["d", "f"] = some (.file [7] held) := by
  intro f
  have hbridge : (f.bridges 1).map (fun b => b.nextFd) = some 1 := by decide +kernel
  obtain ⟨b, hb, hnext⟩ := Option.map_eq_some_iff.1 hbridge
  have hfile : f.store.standing? ["d", "f"] = some (.file [7] true) := by decide +kernel
  have hstatus : (f.act 1 (Bridge.openFile "d/f" 16)).map Prod.fst = some (-1) := by
    decide +kernel
  obtain ⟨⟨status, f'⟩, hact, rfl⟩ := Option.map_eq_some_iff.1 hstatus
  refine ⟨f', hact, run_refused .addressSpace 100 _ 1 b hb "d/f" 16 _ f' hact (by decide) ["d", "f"]
    [7] true hfile ?_⟩
  rintro ⟨hlast, -⟩
  rw [hnext] at hlast
  exact absurd hlast (by decide)

/-! ### The last descriptor -/

/-- The bridge in a place gives out a descriptor next, and nobody holds the file under a path. -/
structure Poised (f : Fleet (memory a)) (k : Nat) (path : String) (fd : Int)
    (bytes : List UInt8) : Prop where
  ready : f.Ready
  bridge : ∃ b, f.bridges k = some b ∧ b.root = some rootInode ∧ b.nextFd = fd
  file : f.store.standing? (segments path.toList) = some (.file bytes false)

/-- Opening a path and closing its descriptor, over and over: the descriptors are those from a
number on. -/
def spend (k : Nat) (path : String) (fd : Int) : Nat → List FleetOp
  | 0 => []
  | n + 1 => .act k (.openFile path 0) :: .act k (.closeFile fd) :: spend k path (fd + 1) n

namespace Poised

variable (h : f.Poised k path fd bytes)

include h

/-- The file is found by opening its path, taken and prepared, and given up it is idle again. -/
theorem taken (flags : Int32) :
    ∃ b i normalized t₁ t', f.bridges k = some b ∧ b.root = some rootInode ∧ b.nextFd = fd ∧
      locate path (.ofWord flags) (b, f.store) = .ok (i, normalized) (b, f.store) ∧
      (memory a).acquire i f.store = .ok ⟨i, false⟩ t₁ ∧
      prepare (S := memory a) (⟨i, false⟩ : MemoryAccess) (.ofWord flags) (b, t₁) =
        .ok () (b, t') ∧
      (t'.unlock i).standing? (segments path.toList) =
        some (.file (if (OpenFlags.ofWord flags).has .truncate then [] else bytes) false) := by
  obtain ⟨b, hb, hroot, hfd⟩ := h.bridge
  obtain ⟨i, data, hd, hi, rfl⟩ := standing?_file_iff.1 h.file
  obtain ⟨p, hp⟩ : ∃ p, StoragePath.parse path = some p := by
    refine Option.ne_none_iff_exists'.1 fun hp => ?_
    have hdirectory := h.ready.grown.standing?_root
    rw [← StoragePath.parse_eq_none_iff.1 hp, h.file] at hdirectory
    cases hdirectory
  have hnames := (StoragePath.parse_eq_some_iff.1 hp).1
  have hidle : b.idleFile? f.store path = some i :=
    Option.bind_eq_some_iff.2 ⟨rootInode, hroot, idleFile?_eq_some_iff.2
      ⟨p, data, hp, hnames ▸ hd, hi⟩⟩
  obtain ⟨normalized, hlocate⟩ :=
    locate_of_idle (h.ready.rooted hb) h.ready.grown hidle (.ofWord flags)
  obtain ⟨t₁, t', hacquire, hprepare, hstanding, -, -, hkeeps⟩ :=
    h.ready.grown.take_file (a := a) hd hi (.ofWord flags) b
  exact ⟨b, i, normalized, t₁, t', hb, hroot, hfd, hlocate, hacquire, hprepare,
    standing?_unlock (hkeeps.descend hd) hstanding⟩

/-- Opening the file and closing it takes one descriptor, and nothing else. -/
theorem turn (hfd : fd < lastFd) :
    ((f.step (.act k (.openFile path 0))).step (.act k (.closeFile fd))).Poised k path (fd + 1)
      bytes := by
  obtain ⟨b, i, normalized, t₁, t', hb, hroot, rfl, hlocate, hacquire, hprepare, hstanding⟩ :=
    h.taken 0
  let file : OpenFile (memory a) := ⟨(⟨i, false⟩ : MemoryAccess), normalized⟩
  have hopen : f.step (.act k (.openFile path 0)) = f.put k (b.entered file) t' := by
    rw [step_act hb, BridgeOp.perform, openFile_of_entered hlocate hacquire hprepare hfd]
  have hentered : (f.put k (b.entered file) t').bridges k = some (b.entered file) :=
    Function.update_self ..
  have hfile : (b.entered file).file? b.nextFd = some file := by rw [file?_entered, if_pos rfl]
  have hclose : (f.step (.act k (.openFile path 0))).step (.act k (.closeFile b.nextFd)) =
      (f.put k (b.entered file) t').put k ((b.entered file).left b.nextFd) (t'.unlock i) := by
    rw [hopen, step_act hentered, BridgeOp.perform, closeFile_memory hfile rfl]
    rfl
  have hready := (h.ready.step (.act k (.openFile path 0))).step (.act k (.closeFile b.nextFd))
  rw [hclose] at hready ⊢
  exact ⟨hready, ⟨_, Function.update_self .., hroot, rfl⟩, hstanding⟩

/-- Over and over this takes as many descriptors as there are. -/
theorem run_spend (n : Nat) (hn : fd + n ≤ lastFd) :
    (f.run (spend k path fd n)).Poised k path (fd + n) bytes := by
  induction n generalizing f fd with
  | zero => simpa [spend, run] using h
  | succ n ih =>
    have hnext : fd + 1 + n = fd + (n + 1 : Nat) := by omega
    have hfd : fd < lastFd := by omega
    exact hnext ▸ ih (h.turn hfd) (hnext ▸ hn)

end Poised

/-- **When there is no descriptor left**, an open that is to empty its file empties it and is
refused. -/
theorem Poised.emptied (h : f.Poised k path lastFd bytes) :
    ∃ f', f.act k (Bridge.openFile path 16) = some (-1, f') ∧
      f'.store.standing? (segments path.toList) = some (.file [] false) := by
  obtain ⟨b, i, normalized, t₁, t', hb, hroot, hfd, hlocate, hacquire, hprepare, hstanding⟩ :=
    h.taken 16
  have hopen := openFile_of_exhausted hlocate hacquire hprepare (Int.le_of_eq hfd.symm)
  refine ⟨f.put k b (t'.unlock i), ?_, hstanding⟩
  rw [act_of_bridge hb, hopen]
  rfl

/-- A file with a byte in it is opened and closed until no descriptor is left.  Then an open is
refused, and the byte is gone. -/
theorem run_refused_spent :
    let f : Fleet (memory .addressSpace) := (start (Tree.empty 100)).run
      ([.create 0, .act 0 .probe, .act 0 (.openFile "f" 1), .act 0 (.write 1 [7] 0),
        .act 0 (.closeFile 1)] ++ spend 0 "f" 2 0x7ffffffd)
    f.store.standing? ["f"] = some (.file [7] false) ∧
      ∃ f', f.act 0 (Bridge.openFile "f" 16) = some (-1, f') ∧
        f'.store.standing? ["f"] = some (.file [] false) := by
  intro f
  let f₀ : Fleet (memory .addressSpace) := (start (Tree.empty 100)).run
    [.create 0, .act 0 .probe, .act 0 (.openFile "f" 1), .act 0 (.write 1 [7] 0),
      .act 0 (.closeFile 1)]
  have hsegments : segments "f".toList = ["f"] := by decide +kernel
  have hbridge : (f₀.bridges 0).map (fun b => (b.probed, b.nextFd)) = some (true, 2) := by
    decide +kernel
  obtain ⟨b, hb, hpair⟩ := Option.map_eq_some_iff.1 hbridge
  obtain ⟨hprobed, hnext⟩ := Prod.mk.inj hpair
  have hroot : b.root = some rootInode := asked_run .addressSpace 100 _ hb hprobed
  have hstart : f₀.Poised 0 "f" 2 [7] := by
    refine ⟨ready_run _ _ _, ⟨b, hb, hroot, hnext⟩, ?_⟩
    rw [hsegments]
    decide +kernel
  have hf : f = f₀.run (spend 0 "f" 2 0x7ffffffd) := List.foldl_append
  have hspent : f.Poised 0 "f" lastFd [7] := hf ▸ hstart.run_spend 0x7ffffffd (by decide)
  rw [← hsegments]
  exact ⟨hspent.file, hspent.emptied⟩

end Fleet

/-! ### Deleting -/

/-- There is an empty directory under a chain. -/
def Tree.Bare (t : Tree) (names : List String) : Prop :=
  t.standing? names = some .directory ∧ ∀ name, t.standing? (names ++ [name]) = none

/-- What a deletion does not refuse is an empty directory, or a file that nobody holds. -/
theorem Tree.bare_or_idle {parents : List String} {leaf : String} {x : Standing}
    (hkept : ¬ t.Kept parents leaf) (hx : t.standing? (parents ++ [leaf]) = some x) :
    t.Bare (parents ++ [leaf]) ∨ ∃ bytes, x = .file bytes false := by
  have hparent := standing?_parent hx
  cases x with
  | directory =>
    refine .inl ⟨hx, fun name => ?_⟩
    by_contra hchild
    exact hkept ⟨hparent, .inr (.inr ⟨hx, name, hchild⟩)⟩
  | file bytes held =>
    cases held with
    | false => exact .inr ⟨bytes, rfl⟩
    | true => exact absurd ⟨hparent, .inr (.inl ⟨bytes, hx⟩)⟩ hkept

namespace Fleet

/-- **Deleting removes a file or an empty directory**, in every reachable state and for every bridge
that has asked for its root.  Every directory is still there and the same one, but an empty one that
the path names; and what is not there any more stood under the path and was a file that nobody
held, or this directory. -/
theorem run_deletion (a : Allocator) (quota : UInt64) (ops : List FleetOp) (k : Nat)
    (b : Bridge (memory a)) (hb : ((start (Tree.empty quota)).run ops).bridges k = some b)
    (hprobed : b.probed = true) (path : String) :
    let f : Fleet (memory a) := (start (Tree.empty quota)).run ops
    let names := segments path.toList
    ∃ status f', f.act k (Bridge.delete path) = some (status, f') ∧
      (∀ chain, f.store.standing? chain = some .directory →
        ¬ (chain = names ∧ names ≠ [] ∧ f.store.Bare names) →
        f'.store.standing? chain = some .directory ∧
          f'.store.descend rootInode chain = f.store.descend rootInode chain) ∧
      ∀ chain, f.store.standing? chain ≠ none → f'.store.standing? chain = none →
        chain = names ∧
          (¬ f.store.Bare names → ∃ bytes, f.store.standing? names = some (.file bytes false)) := by
  intro f names
  have hf : f.Ready := ready_run a quota ops
  have hroot : b.root = some rootInode := asked_run a quota ops hb hprobed
  obtain ⟨status, f', hact, hempty, hsome, hkept, hfailed, hdone⟩ := hf.delete hb hroot path
  refine ⟨status, f', hact, ?_⟩
  by_cases hstatus : status = 0
  · obtain ⟨-, parents, leaf, hnames, -, hothers, -⟩ := hdone hstatus
    have hnot : ¬ f.store.Kept parents leaf := by
      intro hyes
      have hten := hkept.2 ⟨parents, leaf, hnames, hyes⟩
      rw [hstatus] at hten
      cases hten
    change names = parents ++ [leaf] at hnames
    rw [← hnames] at hothers
    have hwas : ∀ x, f.store.standing? names = some x →
        f.store.Bare names ∨ ∃ bytes, x = .file bytes false := by
      rw [hnames]
      exact fun x hx => bare_or_idle hnot hx
    refine ⟨fun chain hdirectory hbare => ?_, fun chain hthere hgone => ?_⟩
    · have hne : chain ∉ ({names} : Set (List String)) := by
        rintro rfl
        refine hbare ⟨rfl, by rw [hnames]; simp, (hwas _ hdirectory).resolve_right ?_⟩
        rintro ⟨bytes, hfile⟩
        cases hfile
      obtain ⟨hdescend, hstanding⟩ := hothers chain hne
      exact ⟨hstanding.trans hdirectory, hdescend⟩
    · obtain rfl : chain = names := by
        by_contra hne
        rw [(hothers chain hne).2] at hgone
        exact hthere hgone
      refine ⟨rfl, fun hbare => ?_⟩
      obtain ⟨x, hx⟩ := Option.ne_none_iff_exists'.1 hthere
      obtain ⟨bytes, rfl⟩ := (hwas x hx).resolve_left hbare
      exact ⟨bytes, hx⟩
  · have hneg : status < 0 := by
      by_cases hnil : segments path.toList = []
      · rw [hempty hnil]
        decide
      · rw [(hsome hnil).resolve_left hstatus]
        decide
    obtain rfl := hfailed hneg
    exact ⟨fun chain hdirectory _ => ⟨hdirectory, rfl⟩,
      fun chain hthere hgone => absurd hgone hthere⟩

/-- A file is deleted, and the directory that it was in stays. -/
theorem run_deletion_file :
    let f : Fleet (memory .addressSpace) := (start (Tree.empty 100)).run
      [.create 0, .act 0 .probe, .act 0 (.openFile "d/f" 1), .act 0 (.closeFile 1)]
    f.store.standing? ["d"] = some .directory ∧
      ∃ f', f.act 0 (Bridge.delete "d/f") = some (0, f') ∧
        f'.store.standing? ["d"] = some .directory ∧ f'.store.standing? ["d", "f"] = none := by
  intro f
  have hbridge : (f.bridges 0).map (fun b => b.probed) = some true := by decide +kernel
  obtain ⟨b, hb, hprobed⟩ := Option.map_eq_some_iff.1 hbridge
  have hdirectory : f.store.standing? ["d"] = some .directory := by decide +kernel
  have hsegments : segments "d/f".toList = ["d", "f"] := by decide +kernel
  have hafter : (f.act 0 (Bridge.delete "d/f")).map
      (fun r => (r.1, r.2.store.standing? ["d", "f"])) = some (0, none) := by decide +kernel
  obtain ⟨status, f', hact, hdirectories, -⟩ :=
    run_deletion .addressSpace 100 _ 0 b hb hprobed "d/f"
  obtain ⟨rfl, hgone⟩ : status = 0 ∧ f'.store.standing? ["d", "f"] = none := by
    simpa [f, hact] using hafter
  refine ⟨hdirectory, f', hact, (hdirectories ["d"] hdirectory ?_).1, hgone⟩
  rintro ⟨hnames, -⟩
  rw [hsegments] at hnames
  exact absurd hnames (by decide)

/-- The directory of a file that was deleted is deleted in the same way. -/
theorem run_deletion_directory :
    let f : Fleet (memory .addressSpace) := (start (Tree.empty 100)).run
      [.create 0, .act 0 .probe, .act 0 (.openFile "d/f" 1), .act 0 (.closeFile 1),
        .act 0 (.delete "d/f")]
    f.store.standing? ["d"] = some .directory ∧
      ∃ f', f.act 0 (Bridge.delete "d") = some (0, f') ∧ f'.store.standing? ["d"] = none := by
  intro f
  have hdirectory : f.store.standing? ["d"] = some .directory := by decide +kernel
  have hafter : (f.act 0 (Bridge.delete "d")).map
      (fun r => (r.1, r.2.store.standing? ["d"])) = some (0, none) := by decide +kernel
  obtain ⟨⟨status, f'⟩, hact, hpair⟩ := Option.map_eq_some_iff.1 hafter
  obtain ⟨rfl, hgone⟩ := Prod.mk.inj hpair
  exact ⟨hdirectory, f', hact, hgone⟩

end Fleet

end EngineHost
