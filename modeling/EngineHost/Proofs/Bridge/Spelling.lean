import EngineHost.Proofs.Bridge.Matching
import EngineHost.Proofs.Bridge.Naming
import EngineHost.Proofs.Text.Segments

/-!
# Spellings of a path

Two texts are spellings of one path when they have the same segments.  It makes no difference by
which of them a file is opened, deleted or asked for.

* `FleetOp.Respelled` : a step with its path written in another way.
* `Fleet.run_respelled` : steps with other spellings are answered in the same way, and they leave
  the same tree, the same locks and the same open files.  A file that was opened by one spelling is
  refused under all of them.

The proof runs both lists of steps side by side: bridges match that remember spellings of the same
paths (`FleetOp.Respelled.alike`, `Fleet.Alike.run`).
-/

namespace EngineHost

/-- Two texts are spellings of one path. -/
def SameSegments (path path' : String) : Prop :=
  segments path.toList = segments path'.toList

variable {path path' : String}

/-- Spellings of one path are read alike, and so are remembered as spellings of one path. -/
theorem ReadAlike.of_sameSegments (h : SameSegments path path') :
    ReadAlike SameSegments path path' := by
  unfold ReadAlike
  cases hp : StoragePath.parse path with
  | none =>
    have hnone : StoragePath.parse path' = none :=
      StoragePath.parse_eq_none_iff.2 (h.symm.trans (StoragePath.parse_eq_none_iff.1 hp))
    rw [hnone]
    exact .none
  | some p =>
    obtain ⟨hsegments, hnormalized⟩ := StoragePath.parse_eq_some_iff.1 hp
    have hsome : StoragePath.parse path' =
        some ⟨String.ofList (path'.toList.dropWhile (· = '/')), p.parents, p.fileName⟩ :=
      StoragePath.parse_eq_some_iff.2 ⟨h.symm.trans hsegments, rfl⟩
    rw [hsome]
    refine .some ⟨rfl, rfl, ?_⟩
    rw [SameSegments, hnormalized, String.toList_ofList, String.toList_ofList, segments_dropWhile,
      segments_dropWhile, h]

/-- What a path names, every spelling of it names. -/
theorem Tree.Names.respelled {t : Tree} {i : Inode} (hn : t.Names path i)
    (h : SameSegments path path') : t.Names path' i := by
  obtain ⟨p, hp, hd⟩ := hn
  have hread := ReadAlike.of_sameSegments h
  rw [ReadAlike, hp] at hread
  cases hq : StoragePath.parse path' with
  | none => rw [hq] at hread; cases hread
  | some q =>
    rw [hq] at hread
    cases hread with
    | some hpq => exact ⟨q, hq, hpq.1 ▸ hpq.2.1 ▸ hd⟩

/-- A step with its path written in another way; what has no path stays as it is. -/
inductive FleetOp.Respelled : FleetOp → FleetOp → Prop
  | openFile (k : Nat) {path path' : String} (flags : Int32) : SameSegments path path' →
      Respelled (.act k (.openFile path flags)) (.act k (.openFile path' flags))
  | delete (k : Nat) {path path' : String} : SameSegments path path' →
      Respelled (.act k (.delete path)) (.act k (.delete path'))
  | access (k : Nat) {path path' : String} : SameSegments path path' →
      Respelled (.act k (.access path)) (.act k (.access path'))
  | same (op : FleetOp) : Respelled op op

theorem FleetOp.Respelled.alike {op op' : FleetOp} (h : op.Respelled op') :
    op.Alike SameSegments op' := by
  cases h with
  | openFile k flags hpath => exact .act k (.openFile flags (.of_sameSegments hpath))
  | delete k hpath => exact .act k (.delete (.of_sameSegments hpath))
  | access k hpath => exact .act k (.access (.of_sameSegments hpath))
  | same =>
    cases op with
    | create k => exact .create k
    | drop k => exact .drop k
    | act k op => exact .act k (.refl (P := SameSegments) (fun _ => rfl) op)

open Bridge
open EngineHost.Storage

variable {a : Allocator}

/-- What stands in one place of lists that match does. -/
theorem forall₂_getElem? {α β : Type} {R : α → β → Prop} {l : List α} {l' : List β}
    (h : List.Forall₂ R l l') (n : Nat) : Option.Rel R l[n]? l'[n]? := by
  induction h generalizing n with
  | nil => exact .none
  | cons hab _ ih =>
    cases n with
    | zero => exact .some hab
    | succ n => exact ih n

namespace Fleet

/-- The path by which an open file was opened. -/
def pathOf {σ : Type} {S : Storage σ} (f : Fleet S) (k : Nat) (fd : Int) : Option String :=
  (f.bridges k).bind fun b => b.pathOf fd

variable {f f' g : Fleet (memory a)} {k : Nat} {fd : Int}

/-- Fleets that match have the same files open, by spellings of the same paths. -/
theorem Alike.files (h : Alike (.refl (memory a)) SameSegments f g) (k : Nat) (fd : Int) :
    (f.file? k fd).map OpenFile.handle = (g.file? k fd).map OpenFile.handle ∧
      Option.Rel SameSegments (f.pathOf k fd) (g.pathOf k fd) := by
  unfold Fleet.file? pathOf
  rcases h.bridge k with ⟨hb, hc⟩ | ⟨b, c, hb, hc, hbc⟩
  · rw [hb, hc]
    exact ⟨rfl, .none⟩
  · rw [hb, hc]
    have hfile := hbc.file? fd
    simp only [Option.bind_some, Bridge.pathOf]
    generalize b.file? fd = x at hfile ⊢
    generalize c.file? fd = y at hfile ⊢
    cases hfile with
    | none => exact ⟨rfl, .none⟩
    | some hxy => exact ⟨congrArg some hxy.handle, .some hxy.path⟩

/-- A file that was opened is refused under every spelling of its path while it is open. -/
theorem Ready.refused (hf : f.Ready) (hn : f.Named) {flags : Int32}
    (hact : f.act k (Bridge.openFile path flags) = some (fd, f')) (hfd : 0 < fd)
    {ops : List FleetOp} (hops : ∀ op ∈ ops, op.Spares k fd) {j : Nat} {c : Bridge (memory a)}
    (hc : (f'.run ops).bridges j = some c) (h : SameSegments path path') :
    (f'.run ops).act j (Bridge.delete path') =
        some (if c.isAvailable then -10 else -1, f'.run ops) ∧
      ∀ flags', (f'.run ops).act j (Bridge.openFile path' flags') = some (-1, f'.run ops) := by
  obtain ⟨b, hb, rfl, hf'⟩ := act_eq_some_iff.1 hact
  obtain ⟨x, handle, s₁, s₂, s₃, hl, -, -, hopen⟩ := openFile_of_pos hfd
  obtain ⟨-, p, -, -, -, -, hp, -, -, hx, -⟩ := locate_ok_iff.1 hl
  -- the path that is remembered is a spelling of the one that was given
  have hpath : SameSegments x.2 path' := by
    rw [SameSegments, hx, (StoragePath.parse_eq_some_iff.1 hp).2, String.toList_ofList,
      segments_dropWhile, h]
  have hstep : f' = f.step (.act k (.openFile path flags)) := by rw [hf', step_act hb]; rfl
  have hfile : f'.file? k b.nextFd = some ⟨handle, x.2⟩ := by
    rw [hf', hopen, file?_put, if_pos rfl, file?_entered, if_pos rfl]
  rw [hopen] at hops
  have hready : f'.Ready := hstep ▸ hf.step _
  have hnamed : f'.Named := hstep ▸ hn.step hf _
  have hkept := hready.file?_run hfile hops
  obtain ⟨hready', hnamed'⟩ := run_keeps (P := fun f : Fleet (memory a) => f.Ready ∧ f.Named)
    (fun op hf => ⟨hf.1.step op, hf.2.step hf.1 op⟩) ⟨hready, hnamed⟩ ops
  cases hroot : c.root with
  | none =>
    obtain ⟨-, hdelete, hopen'⟩ := refused_of_unavailable hroot path' (f'.run ops).store
    have hgone : c.isAvailable = false := by rw [isAvailable, hroot]; rfl
    refine ⟨?_, fun flags' => ?_⟩
    · rw [act_of_bridge hc, hdelete, put_self hc, hgone]
      rfl
    · rw [act_of_bridge hc, hopen' flags', put_self hc]
  | some root =>
    obtain rfl := hready'.rooted hc _ hroot
    have hnames := (hnamed' k _ _ hkept).respelled hpath
    obtain ⟨-, hdelete, hopen'⟩ := hready'.shut (hready'.held hkept) hnames hc hroot
    have havailable : c.isAvailable = true := by rw [isAvailable, hroot]; rfl
    exact ⟨by rw [hdelete, havailable]; rfl, hopen'⟩

/-- **Spellings of a path are interchangeable.**  Steps of bridges over the storage in memory are
answered in the same way when their paths are written in other ways, and after any number of them
the tree with its locks is the same, and so are the open files; only the paths that are remembered
may differ, and these are spellings of one path again.  While a file is open that was opened by one
spelling, opening and deleting it are refused under every spelling, to every bridge, and nothing
changes by trying. -/
theorem run_respelled (a : Allocator) (quota : UInt64) {ops ops' : List FleetOp}
    (h : List.Forall₂ FleetOp.Respelled ops ops') (n : Nat) :
    let f : Fleet (memory a) := (start (Tree.empty quota)).run (ops.take n)
    let g : Fleet (memory a) := (start (Tree.empty quota)).run (ops'.take n)
    ops[n]?.bind f.told = ops'[n]?.bind g.told ∧ f.store = g.store ∧
      (∀ k fd, (f.file? k fd).map OpenFile.handle = (g.file? k fd).map OpenFile.handle ∧
        Option.Rel SameSegments (f.pathOf k fd) (g.pathOf k fd)) ∧
      ∀ k path flags fd f', f.act k (Bridge.openFile path flags) = some (fd, f') → 0 < fd →
        ∀ later, (∀ op ∈ later, op.Spares k fd) → ∀ j c spelling,
          (f'.run later).bridges j = some c → SameSegments path spelling →
          (f'.run later).act j (Bridge.delete spelling) =
              some (if c.isAvailable then -10 else -1, f'.run later) ∧
            ∀ flags', (f'.run later).act j (Bridge.openFile spelling flags') =
              some (-1, f'.run later) := by
  intro f g
  have hops : List.Forall₂ (FleetOp.Alike SameSegments) ops ops' := h.imp fun _ _ h => h.alike
  have halike : Alike (.refl (memory a)) SameSegments f g :=
    (Alike.start rfl).run (List.forall₂_take n hops)
  refine ⟨?_, halike.store, halike.files, ?_⟩
  · have hnth := forall₂_getElem? hops n
    generalize ops[n]? = op at hnth ⊢
    generalize ops'[n]? = op' at hnth ⊢
    cases hnth with
    | none => rfl
    | some hop => exact halike.told_eq hop
  · intro k path flags fd f' hact hfd later hlater j c spelling hc hspelling
    exact (ready_run a quota _).refused (named_run a quota _) hact hfd hlater hc hspelling

/-- A file is made and removed by one spelling of its path or by others.  While it is open, opening
and deleting it are refused under all of them. -/
theorem run_respelled_twice :
    let ops : List FleetOp := [.create 0, .act 0 .probe, .act 0 (.openFile "d/f" 1),
      .act 0 (.delete "d/f"), .act 0 (.closeFile 1), .act 0 (.delete "d/f")]
    let ops' : List FleetOp := [.create 0, .act 0 .probe, .act 0 (.openFile "//d/./f/" 1),
      .act 0 (.delete "/d//f"), .act 0 (.closeFile 1), .act 0 (.delete "./d/f")]
    let f : Fleet (memory .addressSpace) := (start (Tree.empty 100)).run (ops.take 2)
    List.Forall₂ FleetOp.Respelled ops ops' ∧
      ((start (Tree.empty 100) : Fleet (memory .addressSpace)).run ops).store =
        ((start (Tree.empty 100) : Fleet (memory .addressSpace)).run ops').store ∧
      ∃ f', f.act 0 (Bridge.openFile "d/f" 1) = some (1, f') ∧
        f'.act 0 (Bridge.delete "/d//f") = some (-10, f') ∧
        f'.act 0 (Bridge.openFile "//d/./f/" 0) = some (-1, f') := by
  intro ops ops' f
  have hops : List.Forall₂ FleetOp.Respelled ops ops' := by
    refine .cons (.same _) (.cons (.same _) (.cons (.openFile 0 1 ?_) (.cons (.delete 0 ?_)
      (.cons (.same _) (.cons (.delete 0 ?_) .nil)))))
    all_goals unfold SameSegments
    all_goals decide +kernel
  obtain ⟨-, hstore, -⟩ := run_respelled .addressSpace 100 hops 6
  obtain ⟨-, -, -, hrefused⟩ := run_respelled .addressSpace 100 hops 2
  have hfd : (f.act 0 (Bridge.openFile "d/f" 1)).map Prod.fst = some 1 := by decide +kernel
  have havailable : (f.act 0 (Bridge.openFile "d/f" 1)).bind (fun r =>
      (r.2.bridges 0).map isAvailable) = some true := by decide +kernel
  obtain ⟨⟨_, f'⟩, hact, rfl⟩ := Option.map_eq_some_iff.1 hfd
  rw [hact, Option.bind_some] at havailable
  obtain ⟨c, hc, hroot⟩ := Option.map_eq_some_iff.1 havailable
  have hshut := fun spelling => hrefused 0 _ 1 _ f' hact Int.one_pos [] nofun 0 c spelling hc
  have hdelete := (hshut "/d//f" (by unfold SameSegments; decide +kernel)).1
  rw [hroot] at hdelete
  exact ⟨hops, hstore, f', hact, hdelete,
    (hshut "//d/./f/" (by unfold SameSegments; decide +kernel)).2 0⟩

end Fleet

end EngineHost
