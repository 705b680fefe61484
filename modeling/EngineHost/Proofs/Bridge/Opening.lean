import EngineHost.Proofs.Bridge.Naming
import EngineHost.Proofs.Bridge.Way
import EngineHost.Proofs.Text.Segments

/-!
# Opening a file of a tree

What opening a path answers and what it leaves, told by what stands in the tree before.

* `Tree.Opens` : a path whose file can be opened, and `Tree.Lacks` : a path whose file is missing.
* `Tree.Opening` : what opening makes of a tree.  The directories on the way are there, a file that
  is opened is held, and everything else is as it was.
* `Bridge.openFile_ends` : how opening ends for one bridge over a tree.
* `Fleet.run_opening` : the same in every reachable state.

Opening goes on in steps, and each step that fails leaves the work of those before it: the way is
`Tree.Made` (`Tree.Grown.walk_made`), and only the last step changes more.
-/

namespace EngineHost

/-- The flags of an open request are bits of its word. -/
theorem OpenFlags.has_ofWord_iff (word : Int32) (flag : OpenFlag) :
    (ofWord word).has flag = true ↔ word &&& flag.bit.toInt32 ≠ 0 := by
  have hbit : 31 &&& flag.bit = flag.bit := by cases flag <;> rfl
  rw [has, ofWord, UInt32.and_assoc, hbit, decide_eq_true_eq]
  exact not_congr ⟨congrArg Int32.ofUInt32, congrArg Int32.toUInt32⟩

open Bridge
open EngineHost.Storage EngineHost.Tree

variable {a : Allocator} {t t' t₁ : Tree} {d i : Inode} {data : Content}
  {names parents : List String} {leaf : String} {create opened truncate : Prop}

namespace Tree

/-- The file of a path is missing: its parents are there or can be made, its name is permitted, and
nothing stands under it. -/
def Lacks (t : Tree) (parents : List String) (leaf : String) : Prop :=
  t.Clear parents ∧ isEntryName leaf = true ∧ t.standing? (parents ++ [leaf]) = none

/-- The file of a path can be opened: its parents are there or can be made, its name is permitted,
and it is a file that nobody holds or is missing and may be made. -/
def Opens (t : Tree) (parents : List String) (leaf : String) (create : Prop) : Prop :=
  t.Clear parents ∧ isEntryName leaf = true ∧
    ((∃ bytes, t.standing? (parents ++ [leaf]) = some (.file bytes false)) ∨
      (create ∧ t.standing? (parents ++ [leaf]) = none))

/-- What opening a path makes of a tree. -/
structure Opening (t t' : Tree) (parents : List String) (leaf : String)
    (opened truncate : Prop) : Prop where
  /-- The parents are there, up to the first that cannot be. -/
  way : ∀ chain ∈ t.wayTo parents, t'.standing? chain = some .directory
  /-- A file that is opened to be emptied is empty, and held. -/
  emptied : opened → truncate → t'.standing? (parents ++ [leaf]) = some (.file [] true)
  /-- Any other file that is opened has the bytes it had, none if it is new, and is held. -/
  held : opened → ¬ truncate →
    t'.standing? (parents ++ [leaf]) = some (.file (t.contents (parents ++ [leaf])) true)
  /-- Nothing else is changed. -/
  others : AgreeOutside {chain | chain ∈ t.wayTo parents ∨ (opened ∧ chain = parents ++ [leaf])} t t'
  /-- The bytes of a file that is emptied are free again. -/
  freed : opened → truncate → t'.used = t.used - (t.contents (parents ++ [leaf])).length
  /-- Otherwise as many bytes are used as before. -/
  used : ¬ (opened ∧ truncate) → t'.used = t.used
  /-- Nothing that was there is replaced. -/
  kept : ∀ chain i, t.descend rootInode chain = some i → t'.descend rootInode chain = some i

/-- A missing file is opened only if it may be made. -/
theorem Opens.create_of_lacks (h : t.Opens parents leaf create) (hl : t.Lacks parents leaf) :
    create := by
  obtain ⟨-, -, ⟨bytes, hfile⟩ | ⟨hcreate, -⟩⟩ := h
  · rw [hl.2.2] at hfile
    cases hfile
  · exact hcreate

/-- An open that opens no file does no more than its walk. -/
theorem Made.opening (h : Made t t' parents) (hopened : ¬ opened) :
    Opening t t' parents leaf opened truncate where
  way := h.made
  emptied hyes := absurd hyes hopened
  held hyes := absurd hyes hopened
  others := h.others.mono fun _ => .inl
  freed hyes := absurd hyes hopened
  used _ := h.used
  kept _ _ hchain := h.keeps.descend hchain

/-- An open that opens a file changes that file after its walk. -/
theorem Made.opening_of_file (h : Made t t₁ parents) (hopened : opened)
    (hothers : AgreeOutside {parents ++ [leaf]} t₁ t') (hkeeps : KeepsChildren t₁ t')
    (hemptied : truncate → t'.standing? (parents ++ [leaf]) = some (.file [] true))
    (hheld : ¬ truncate →
      t'.standing? (parents ++ [leaf]) = some (.file (t.contents (parents ++ [leaf])) true))
    (hfreed : truncate → t'.used = t.used - (t.contents (parents ++ [leaf])).length)
    (hused : ¬ truncate → t'.used = t.used) : Opening t t' parents leaf opened truncate where
  way chain hchain := by
    have hne : chain ≠ parents ++ [leaf] := by
      rintro rfl
      exact concat_notMem_wayTo t parents leaf hchain
    rw [(hothers chain hne).2]
    exact h.made chain hchain
  emptied _ := hemptied
  held _ := hheld
  others := (h.others.mono fun _ => .inl).trans (hothers.mono fun _ hchain => .inr ⟨hopened, hchain⟩)
  freed _ := hfreed
  used hno := hused fun htruncate => hno ⟨hopened, htruncate⟩
  kept _ _ hchain := hkeeps.descend (h.keeps.descend hchain)

/-- Taking the handle of a file that nobody holds and preparing it changes this file only. -/
theorem Grown.take_file (ht : t.Grown) (hd : t.descend rootInode names = some i)
    (hi : t.node? i = some (.file data false)) (flags : OpenFlags) (b : Bridge (memory a)) :
    ∃ t₁ t', (memory a).acquire i t = .ok ⟨i, false⟩ t₁ ∧
      prepare (S := memory a) (⟨i, false⟩ : MemoryAccess) flags (b, t₁) = .ok () (b, t') ∧
      t'.standing? names =
        some (.file (if flags.has .truncate then [] else data.toList) true) ∧
      t'.used = (if flags.has .truncate then t.used - data.length else t.used) ∧
      AgreeOutside {names} t t' ∧ KeepsChildren t t' := by
  have hacquire : (memory a).acquire i t = .ok ⟨i, false⟩ (t.setNode i (.file data true)) :=
    memory_acquire_ok_iff.2 ⟨lock_ok_iff.2 ⟨data, hi, rfl⟩, rfl⟩
  have hlocked : (t.setNode i (.file data true)).node? i = some (.file data true) := by
    rw [node?_setNode hi, if_pos rfl]
  have hprepare := prepare_eq (h := ⟨i, false⟩) rfl hlocked flags b
  refine ⟨_, _, hacquire, hprepare, ?_⟩
  split_ifs with hflag
  · have hnode : ∀ j, ((t.setNode i (.file data true)).resized i data true 0).node? j =
        if j = i then some (.file (data.resize 0) true) else t.node? j := by
      intro j
      rw [node?_resized hlocked, node?_setNode hi]
      split_ifs <;> rfl
    obtain ⟨hstanding, hothers⟩ := ht.agreeOutside_replaced hd hi hnode
    rw [Content.toList_resize_eq_fit, Bytes.fit_zero] at hstanding
    exact ⟨hstanding, rfl, hothers, keepsChildren_replaced hi hnode⟩
  · have hnode := node?_setNode hi (.file data true)
    obtain ⟨hstanding, hothers⟩ := ht.agreeOutside_replaced hd hi hnode
    exact ⟨hstanding, rfl, hothers, keepsChildren_replaced hi hnode⟩

end Tree

/-! ### One bridge -/

namespace Bridge

variable {b : Bridge (memory a)} {path : String} {p : StoragePath} {flags : Int32}

/-- How opening a path ends, and what becomes of the bridge. -/
inductive OpenEnd (t t' : Tree) (p : StoragePath) (create : Prop) (b : Bridge (memory a)) :
    Int → Bridge (memory a) → Prop
  /-- The file is opened, under the next descriptor. -/
  | opened {i : Inode} : t.Opens p.parents p.fileName create →
      t'.descend rootInode (p.parents ++ [p.fileName]) = some i →
      OpenEnd t t' p create b b.nextFd (b.entered ⟨(⟨i, false⟩ : MemoryAccess), p.normalized⟩)
  /-- The file is missing and not to be made. -/
  | missing : t.Lacks p.parents p.fileName → ¬ create → OpenEnd t t' p create b (-14) b
  /-- Something is in the way. -/
  | refused : ¬ t.Opens p.parents p.fileName create → ¬ t.Lacks p.parents p.fileName →
      OpenEnd t t' p create b (-1) b

/-- Opening a path ends in one of these ways, and leaves of the tree what that way leaves. -/
def OpenEnds (b : Bridge (memory a)) (t : Tree) (path : String) (flags : Int32)
    (p : StoragePath) : Prop :=
  ∃ n b' t', openFile path flags (b, t) = (n, b', t') ∧
    OpenEnd t t' p (flags &&& 1 ≠ 0) b n b' ∧
    Opening t t' p.parents p.fileName (t.Opens p.parents p.fileName (flags &&& 1 ≠ 0))
      (flags &&& 16 ≠ 0)

/-- A file that was found or made, and that nobody holds, is opened. -/
theorem openFile_of_found (hmade : Made t t₁ p.parents)
    (hopens : t.Opens p.parents p.fileName (flags &&& 1 ≠ 0)) (hfd : b.nextFd < lastFd)
    {t₂ : Tree} (ht₂ : t₂.Grown)
    (hl : locate path (.ofWord flags) (b, t) = .ok (i, p.normalized) (b, t₂))
    (hi : t₂.descend rootInode (p.parents ++ [p.fileName]) = some i)
    (hn : t₂.node? i = some (.file data false))
    (hdata : t.contents (p.parents ++ [p.fileName]) = data.toList)
    (hothers : AgreeOutside {p.parents ++ [p.fileName]} t₁ t₂) (hused : t₂.used = t₁.used)
    (hkeeps : KeepsChildren t₁ t₂) :
    OpenEnds b t path flags p := by
  obtain ⟨t₃, t', hacquire, hprepare, hstanding, hused', hothers', hkeeps'⟩ :=
    ht₂.take_file (a := a) hi hn (.ofWord flags) b
  have hflag := OpenFlags.has_ofWord_iff flags .truncate
  rw [hused, hmade.used] at hused'
  refine ⟨_, _, t', openFile_of_entered hl hacquire hprepare hfd,
    .opened hopens (hkeeps'.descend hi),
    hmade.opening_of_file hopens (hothers.trans hothers')
      (fun _ _ _ hj => hkeeps' _ _ _ (hkeeps _ _ _ hj)) (fun htruncate => ?_) (fun hkeep => ?_)
      (fun htruncate => ?_) fun hkeep => ?_⟩
  · rw [hstanding, if_pos (hflag.2 htruncate)]
  · rw [hstanding, if_neg fun h => hkeep (hflag.1 h), hdata]
  · rw [hused', if_pos (hflag.2 htruncate), hdata, Content.length_toList]
  · rw [hused', if_neg fun h => hkeep (hflag.1 h)]

/-- Where no file is found, nothing is done after the walk. -/
theorem openFile_of_unfound (hmade : Made t t₁ p.parents)
    (hopens : ¬ t.Opens p.parents p.fileName (flags &&& 1 ≠ 0)) {e : StorageError}
    (hl : locate path (.ofWord flags) (b, t) =
      .error (if e = .notFound then .notFound p.normalized else .storage .openFile e) (b, t₁))
    (hlacks : t.Lacks p.parents p.fileName ↔ e = .notFound) : OpenEnds b t path flags p := by
  refine ⟨_, _, t₁, openFile_of_lost hl, ?_, hmade.opening hopens⟩
  split_ifs with he
  · obtain ⟨hclear, hname, hnone⟩ := hlacks.2 he
    exact .missing (hlacks.2 he) fun hcreate => hopens ⟨hclear, hname, .inr ⟨hcreate, hnone⟩⟩
  · exact .refused hopens fun h => he (hlacks.1 h)

section Leaf

variable (hroot : b.root = some rootInode) (hfd : b.nextFd < lastFd)
  (hp : StoragePath.parse path = some p) (flags : Int32) (hmade : Made t t₁ p.parents)
  (hclear : t.Clear p.parents)
  (hwalk : (memory a).walk true rootInode p.parents t = .ok d t₁)
  (hd : t₁.descend rootInode p.parents = some d) (hname : isEntryName p.fileName = true)

include hroot hfd hp hmade hclear hwalk hd hname

/-- Where the walk has come to the parent and nothing stands under the last name, the file is made
if the flags say so. -/
theorem openFile_of_missing (hc : t₁.child? d p.fileName = none)
    (hnone : t.standing? (p.parents ++ [p.fileName]) = none) : OpenEnds b t path flags p := by
  have hcreate := OpenFlags.has_ofWord_iff flags .create
  have hlocate := locate_of_parse (S := memory a) hroot hp (.ofWord flags) t
  simp only [hwalk] at hlocate
  obtain ⟨d', children, hd', hdir⟩ :=
    standing?_directory_iff.1 (hmade.made p.parents ⟨List.prefix_rfl, hclear⟩)
  obtain rfl : d = d' := Option.some.inj (hd.symm.trans hd')
  have hl : children.lookup p.fileName = none := by rwa [child?_of_directory hdir] at hc
  have hcall := lookupOrCreate_of_missing hdir hc ((OpenFlags.ofWord flags).has .create) .file
  by_cases hflag : flags &&& 1 ≠ 0
  · rw [if_pos (hcreate.2 hflag)] at hcall
    have hfile := memory_file_ok_iff (a := a).2 ⟨hname, hcall⟩
    rw [hfile] at hlocate
    obtain ⟨hnew, hothers⟩ := hmade.grown.agreeOutside_linked hd hdir hl .file
    exact openFile_of_found hmade ⟨hclear, hname, .inr ⟨hflag, hnone⟩⟩ hfd
      (hmade.grown.link hdir hl hname .file) hlocate hnew
      (by rw [node?_linked hdir, if_pos rfl]; rfl)
      (by rw [contents_of_none hnone, Content.toList_empty]) hothers rfl
      (keepsChildren_linked hdir p.fileName _)
  · rw [if_neg fun h => hflag (hcreate.1 h)] at hcall
    have hfile := memory_file_error_iff (a := a).2 ⟨.inr ⟨hname, hcall⟩, rfl⟩
    rw [hfile] at hlocate
    refine openFile_of_unfound hmade ?_ hlocate (iff_of_true ⟨hclear, hname, hnone⟩ rfl)
    rintro ⟨-, -, ⟨bytes, hthere⟩ | ⟨hflag', -⟩⟩
    · rw [hnone] at hthere
      cases hthere
    · exact hflag hflag'

omit hd in
/-- Where the walk has come to the parent and something stands under the last name, it is opened if
it is a file that nobody holds. -/
theorem openFile_of_standing {n : Node} (hc : t₁.child? d p.fileName = some i)
    (hn : t₁.node? i = some n) (hi : t₁.descend rootInode (p.parents ++ [p.fileName]) = some i)
    (hstanding : t.standing? (p.parents ++ [p.fileName]) = some n.standing) :
    OpenEnds b t path flags p := by
  have hlocate := locate_of_parse (S := memory a) hroot hp (.ofWord flags) t
  simp only [hwalk] at hlocate
  have hcall := lookupOrCreate_of_child hc hn ((OpenFlags.ofWord flags).has .create) .file
  have hthere : ¬ t.Lacks p.parents p.fileName := by
    rintro ⟨-, -, hnone⟩
    rw [hstanding] at hnone
    cases hnone
  cases n with
  | directory cs =>
    have hfile := memory_file_error_iff (a := a).2 ⟨.inr ⟨hname, hcall⟩, rfl⟩
    rw [hfile] at hlocate
    refine openFile_of_unfound hmade ?_ hlocate (iff_of_false hthere nofun)
    simp [Opens, hstanding, Node.standing]
  | file data locked =>
    have hfile := memory_file_ok_iff (a := a).2 ⟨hname, hcall⟩
    rw [hfile] at hlocate
    cases locked with
    | true =>
      have hrefused := openFile_of_refused hlocate (memory_acquire_of_locked hn)
      have hopens : ¬ t.Opens p.parents p.fileName (flags &&& 1 ≠ 0) := by
        simp [Opens, hstanding, Node.standing]
      exact ⟨_, _, t₁, hrefused, .refused hopens hthere, hmade.opening hopens⟩
    | false =>
      exact openFile_of_found hmade ⟨hclear, hname, .inl ⟨_, hstanding⟩⟩ hfd hmade.grown
        hlocate hi hn (contents_of_file hstanding) (.refl _ _) rfl fun _ _ _ hj => hj

end Leaf

/-- **How opening ends**, and what it leaves of the tree: a file is opened just when it can be, it is
found missing just when it is and is not to be made, and everything else is refused. -/
theorem openFile_ends (hroot : b.root = some rootInode) (ht : t.Grown) (hfd : b.nextFd < lastFd)
    (hp : StoragePath.parse path = some p) (flags : Int32) : OpenEnds b t path flags p := by
  have hlocate := locate_of_parse (S := memory a) hroot hp (.ofWord flags) t
  obtain ⟨t₁, hmade, ⟨hclear, d, hwalk, hd⟩ | ⟨hblock, e, hwalk⟩⟩ := ht.walk_made a p.parents
  · by_cases hname : isEntryName p.fileName = true
    · obtain ⟨hc, hnone⟩ | ⟨i, n, hc, hn, hi, hstanding⟩ := hmade.grown.last_cases hd p.fileName
      · rw [hmade.standing?_concat] at hnone
        exact openFile_of_missing hroot hfd hp flags hmade hclear hwalk hd hname hc hnone
      · rw [hmade.standing?_concat] at hstanding
        exact openFile_of_standing hroot hfd hp flags hmade hclear hwalk hname hc hn hi
          hstanding
    · -- the last name is not permitted
      have hrefused : isEntryName p.fileName = false := by simpa using hname
      have hfile : (memory a).file d p.fileName ((OpenFlags.ofWord flags).has .create) t₁ =
          .error (.invalidName p.fileName) t₁ :=
        memory_file_error_iff.2 ⟨.inl ⟨hrefused, rfl⟩, rfl⟩
      simp only [hwalk] at hlocate
      rw [hfile] at hlocate
      exact openFile_of_unfound hmade (fun h => hname h.2.1) hlocate
        (iff_of_false (fun h => hname h.2.1) nofun)
  · -- the walk did not come to the parent
    simp only [hwalk] at hlocate
    exact ⟨_, _, _, openFile_of_lost hlocate, .refused (fun h => hblock h.1) fun h => hblock h.1,
      hmade.opening fun h => hblock h.1⟩

end Bridge

/-! ### Fleets -/

namespace Fleet

/-- **Opening over the storage in memory**, in every reachable state of a bridge that has asked for
its root and has descriptors left.  A path without a segment is answered with `-14`.  Any other path
is opened under a new descriptor if it can be, answered with `-14` if its file is missing and the
flag to create is not set, and answered with `-1` in every other case.  Each time the tree is changed
as `Tree.Opening` says and no more, and a bridge is changed only when a file is opened. -/
theorem run_opening (a : Allocator) (quota : UInt64) (ops : List FleetOp) (k : Nat)
    (b : Bridge (memory a)) (hb : ((start (Tree.empty quota)).run ops).bridges k = some b)
    (hprobed : b.probed = true) (hfd : b.nextFd < 0x7fffffff) (path : String) (flags : Int32) :
    let f : Fleet (memory a) := (start (Tree.empty quota)).run ops
    ∃ n f', f.act k (Bridge.openFile path flags) = some (n, f') ∧
      (segments path.toList = [] → n = -14 ∧ f' = f) ∧
      ∀ parents leaf, segments path.toList = parents ++ [leaf] →
        let opened := f.store.Opens parents leaf (flags &&& 1 ≠ 0)
        (opened → n = b.nextFd ∧ 0 < n ∧ b.file? n = none ∧
          ∃ i, f'.store.descend rootInode (parents ++ [leaf]) = some i ∧
            f'.bridges = Function.update f.bridges k (some (b.entered
              ⟨(⟨i, false⟩ : MemoryAccess), String.ofList (path.toList.dropWhile (· = '/'))⟩))) ∧
        (¬ opened → f'.bridges = f.bridges) ∧
        (f.store.Lacks parents leaf → flags &&& 1 = 0 → n = -14) ∧
        (¬ opened → ¬ f.store.Lacks parents leaf → n = -1) ∧
        Opening f.store f'.store parents leaf opened (flags &&& 16 ≠ 0) := by
  intro f
  have hf : f.Ready := ready_run a quota ops
  have hroot : b.root = some rootInode := asked_run a quota ops hb hprobed
  cases hp : StoragePath.parse path with
  | none =>
    have hsegments := StoragePath.parse_eq_none_iff.1 hp
    refine ⟨-14, f, ?_, fun _ => ⟨rfl, rfl⟩, fun parents leaf h => ?_⟩
    · rw [act_of_bridge hb, openFile_of_no_parse hroot hp, put_self hb]
      rfl
    · rw [hsegments] at h
      simp at h
  | some p =>
    obtain ⟨hsegments, hnormalized⟩ := StoragePath.parse_eq_some_iff.1 hp
    obtain ⟨n, b', t', hopen, hend, hopening⟩ := openFile_ends hroot hf.grown hfd hp flags
    refine ⟨n, f.put k b' t', by rw [act_of_bridge hb, hopen], fun h => ?_, fun parents leaf h => ?_⟩
    · rw [hsegments] at h
      simp at h
    · obtain ⟨rfl, rfl⟩ := List.append_singleton_inj.1 (hsegments.symm.trans h)
      have hsame : (f.put k b t').bridges = f.bridges := bridges_put hb t'
      have hnum := hf.sound.numbered hb
      cases hend with
      | opened hopens hi =>
        exact ⟨fun _ => ⟨rfl, hnum.next_pos, hnum.file?_nextFd, _, hi, hnormalized ▸ rfl⟩,
          fun hno => absurd hopens hno,
          fun hlacks hflag => absurd hflag (hopens.create_of_lacks hlacks),
          fun hno => absurd hopens hno, hopening⟩
      | missing hlacks hflag =>
        have hno := fun hopens : f.store.Opens p.parents p.fileName (flags &&& 1 ≠ 0) =>
          hflag (hopens.create_of_lacks hlacks)
        exact ⟨fun hopens => absurd hopens hno, fun _ => hsame, fun _ _ => rfl,
          fun _ hnot => absurd hlacks hnot, hopening⟩
      | refused hno hnot =>
        exact ⟨fun hopens => absurd hopens hno, fun _ => hsame, fun hlacks => absurd hlacks hnot,
          fun _ _ => rfl, hopening⟩

/-- A file with a byte in it is opened to be emptied, under another spelling of its path. -/
theorem run_opening_emptied :
    let f : Fleet (memory .addressSpace) := (start (Tree.empty 100)).run
      [.create 0, .act 0 .probe, .act 0 (.openFile "d/f" 1), .act 0 (.write 1 [7] 0),
        .act 0 (.closeFile 1)]
    ∃ b, f.bridges 0 = some b ∧ b.probed = true ∧ b.nextFd < 0x7fffffff ∧
      segments "/d/./f".toList = ["d"] ++ ["f"] ∧
      f.store.standing? ["d", "f"] = some (.file [7] false) ∧ f.store.used = 1 ∧
      ∃ f', f.act 0 (Bridge.openFile "/d/./f" 16) = some (2, f') ∧
        f'.store.standing? ["d", "f"] = some (.file [] true) ∧ f'.store.used = 0 := by
  intro f
  have hbridge : (f.bridges 0).map (fun b => (b.probed, b.nextFd)) = some (true, 2) := by
    decide +kernel
  obtain ⟨b, hb, hpair⟩ := Option.map_eq_some_iff.1 hbridge
  obtain ⟨hprobed, hnext⟩ := Prod.mk.inj hpair
  have hfd : b.nextFd < 0x7fffffff := by rw [hnext]; decide
  have hsegments : segments "/d/./f".toList = ["d"] ++ ["f"] := by decide +kernel
  have hfile : f.store.standing? ["d", "f"] = some (.file [7] false) := by decide +kernel
  have hparent : f.store.standing? ["d"] = some .directory := by decide +kernel
  have hused : f.store.used = 1 := by decide +kernel
  have hclear : f.store.Clear ([] ++ ["d"]) := by
    refine clear_concat_iff.2 ⟨clear_nil _, by decide, ?_⟩
    rintro ⟨bytes, held, h⟩
    exact absurd (hparent.symm.trans h) nofun
  obtain ⟨n, f', hact, -, hends⟩ := run_opening .addressSpace 100 _ 0 b hb hprobed hfd "/d/./f" 16
  obtain ⟨hopened, -, -, -, hopening⟩ := hends ["d"] "f" hsegments
  have hopens : f.store.Opens ["d"] "f" (16 &&& 1 ≠ (0 : Int32)) :=
    ⟨hclear, by decide, .inl ⟨[7], hfile⟩⟩
  obtain rfl : n = 2 := (hopened hopens).1.trans hnext
  have hfreed := hopening.freed hopens (by decide)
  rw [hused, List.singleton_append, contents_of_file hfile] at hfreed
  exact ⟨b, hb, hprobed, hfd, hsegments, hfile, hused, f', hact,
    hopening.emptied hopens (by decide), hfreed⟩

end Fleet

end EngineHost
