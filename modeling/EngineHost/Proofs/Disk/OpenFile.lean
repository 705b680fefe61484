import EngineHost.Proofs.Disk.Program
import EngineHost.Proofs.Lookup
import EngineHost.Proofs.Tree.Bytes
import Mathlib.Tactic.SplitIfs

/-!
# Files of a disk

A file that was just made is found by the path it was made under and is empty, and the handle taken
on it is an open file with these bytes.

* `Disk.createFile_of_missing` : what making a file that is not there leaves.
* `Disk.contentOf_openFile` : a new open file shows the bytes of the file its path leads to.
* `Disk.read_eq`, `Disk.write_eq`, `Disk.setLength_eq`, `Disk.length_eq` : what is done with the
  bytes of an open file.
-/

namespace EngineHost

namespace Disk

variable {d d' : Disk} {i j parent : Nat} {n : DiskNode} {name : String} {names : List String}
  {children : List (String × Nat)} {trail trail' : Trail} {data : Content} {id : DescriptionId}

/-! ### Nodes -/

theorem lt_length_of_node? (h : d.node? i = some n) : i < d.nodes.length :=
  (List.getElem?_eq_some_iff.1 h).1

theorem node?_setNode (h : d.node? i = some n) (m : DiskNode) (j : Nat) :
    (d.setNode i m).node? j = if j = i then some m else d.node? j := by
  have hi : i < d.nodes.length := lt_length_of_node? h
  by_cases hj : j = i
  · subst hj; simp [node?, setNode, hi]
  · simp [node?, setNode, hj, List.getElem?_set_ne (Ne.symm hj)]

theorem children_ok_iff : d.children i = .ok children ↔ d.node? i = some (.directory children) := by
  rw [Disk.children]
  split <;> simp_all

/-- The disk with a new child of a directory that has the given ones. -/
def linked (d : Disk) (parent : Nat) (children : List (String × Nat)) (name : String)
    (n : DiskNode) : Disk :=
  { d with nodes := d.nodes.set parent (.directory (children ++ [(name, d.nodes.length)])) ++ [n] }

theorem link_ok_iff {p : Nat × Disk} :
    d.link parent name n = .ok p ↔ ∃ children, d.node? parent = some (.directory children) ∧
      p = (d.nodes.length, d.linked parent children name n) := by
  simp only [link, except_bind_ok_iff, children_ok_iff, except_pure_ok_iff]
  exact exists_congr fun children => and_congr_right fun _ => eq_comm

theorem node?_linked (h : d.node? parent = some (.directory children)) (name : String)
    (n : DiskNode) (j : Nat) :
    (d.linked parent children name n).node? j =
      if j = d.nodes.length then some n
      else if j = parent then some (.directory (children ++ [(name, d.nodes.length)]))
      else d.node? j := by
  have hparent : parent < d.nodes.length := lt_length_of_node? h
  have hlen : ∀ c, (d.nodes.set parent c).length = d.nodes.length := fun c => List.length_set
  rw [node?, linked, List.getElem?_append, hlen]
  split_ifs with hlt hnew hj hnew hj
  · omega
  · subst hj; simp [hparent]
  · rw [List.getElem?_set_ne (Ne.symm hj)]; rfl
  · simp [hnew]
  · omega
  · rw [node?, List.getElem?_eq_none (by simp; omega), List.getElem?_eq_none (by omega)]

/-! ### Names that stay -/

/-- What a name of a directory leads to, it still leads to. -/
def KeepsNames (d d' : Disk) : Prop :=
  ∀ {i children}, d.node? i = some (.directory children) →
    ∃ children', d'.node? i = some (.directory children') ∧
      ∀ {name j}, children.lookup name = some j → children'.lookup name = some j

theorem keepsNames_linked (h : d.node? parent = some (.directory children)) (name : String)
    (n : DiskNode) : KeepsNames d (d.linked parent children name n) := by
  intro i cs hi
  have hne : i ≠ d.nodes.length := Nat.ne_of_lt (lt_length_of_node? hi)
  rw [node?_linked h, if_neg hne]
  split_ifs with hparent
  · subst hparent
    obtain rfl : children = cs := by simpa [h] using hi
    -- the new name stands behind the old ones, which are found before it
    exact ⟨_, rfl, fun hj => by rw [List.lookup_append, hj]; rfl⟩
  · exact ⟨cs, hi, id⟩

theorem KeepsNames.enter (h : KeepsNames d d') (hok : d.enter trail name = .ok trail') :
    d'.enter trail name = .ok trail' := by
  simp only [Disk.enter, except_bind_ok_iff, children_ok_iff] at hok ⊢
  obtain ⟨children, htrail, hok⟩ := hok
  obtain ⟨children', htrail', hkeeps⟩ := h htrail
  refine ⟨children', htrail', ?_⟩
  split_ifs at hok ⊢
  · exact hok
  · exact hok
  · cases hj : children.lookup name with
    | none => simp [hj] at hok
    | some j =>
      rw [hj] at hok
      rw [hkeeps hj]
      exact hok

theorem KeepsNames.follow (h : KeepsNames d d') (hok : d.follow trail names = .ok trail') :
    d'.follow trail names = .ok trail' := by
  induction names generalizing trail with
  | nil => exact hok
  | cons name names ih =>
    simp only [Disk.follow, List.foldlM_cons, except_bind_ok_iff] at hok ⊢
    obtain ⟨next, hnext, hok⟩ := hok
    exact ⟨next, h.enter hnext, ih hok⟩

/-! ### New files -/

theorem ne_dots_of_isEntryName (h : isEntryName name = true) : name ≠ "." ∧ name ≠ ".." := by
  simp only [isEntryName, Bool.and_eq_true, decide_eq_true_eq] at h
  exact ⟨h.1.1.2, h.1.2⟩

/-- The route to an entry of a directory. -/
def Route.child (above : DiskPath) (name : String) : Route := ⟨[], above ++ [name], false⟩

variable {above : DiskPath}

theorem reach_child_ok_iff :
    d.reach (.child above name) = .ok trail' ↔
      ∃ trail, d.follow [] above = .ok trail ∧ d.enter trail name = .ok trail' := by
  simp only [reach, Route.child, follow, List.foldlM_append, List.foldlM_cons, List.foldlM_nil,
    bind_pure, except_bind_ok_iff, Bool.false_eq_true, if_false]

/-- Going on to an entry by its name. -/
theorem enter_ok_iff (hname : isEntryName name = true) :
    d.enter trail name = .ok trail' ↔
      ∃ children, d.node? trail.node = some (.directory children) ∧
        ¬nameLimit < name.utf8ByteSize ∧
        ∃ i, children.lookup name = some i ∧ trail' = (name, i) :: trail := by
  obtain ⟨hdot, hdots⟩ := ne_dots_of_isEntryName hname
  simp only [enter, except_bind_ok_iff, children_ok_iff, if_neg hdot, if_neg hdots]
  refine exists_congr fun children => and_congr_right fun _ => ?_
  split_ifs with hlong
  · simp [hlong]
  · cases children.lookup name <;> simp [hlong, eq_comm (a := trail')]

/-- The directory of an entry that is reached by its name. -/
theorem reachParent_child_ok_iff (hname : isEntryName name = true)
    {place : Option (Nat × String)} :
    d.reachParent (.child above name) = .ok place ↔
      ∃ trail children, d.follow [] above = .ok trail ∧
        d.node? trail.node = some (.directory children) ∧
        ¬nameLimit < name.utf8ByteSize ∧ place = some (trail.node, name) := by
  obtain ⟨hdot, hdots⟩ := ne_dots_of_isEntryName hname
  have hlast : (above ++ [name]).getLast? = some name := by simp
  simp only [reachParent, Route.child, hlast, List.dropLast_concat, hdot, hdots, decide_false,
    Bool.or_self, Bool.false_eq_true, if_false, except_bind_ok_iff, children_ok_iff]
  refine exists_congr fun trail => ?_
  split_ifs with hlong
  · simp [hlong]
  · simp [hlong, eq_comm (a := place)]

theorem kindAt_ok_iff {r : Route} {kind : EntryKind} :
    d.kindAt r = .ok kind ↔
      ∃ trail n, d.reach r = .ok trail ∧ d.node? trail.node = some n ∧ kindOf n = kind := by
  simp only [kindAt, nodeAt, except_bind_ok_iff, except_pure_ok_iff]
  constructor
  · rintro ⟨n, ⟨trail, htrail, hn⟩, hkind⟩
    cases hnode : d.node? trail.node with
    | none => simp [hnode] at hn
    | some m =>
      obtain rfl : m = n := by simpa [hnode] using hn
      exact ⟨trail, m, htrail, hnode, hkind⟩
  · rintro ⟨trail, n, htrail, hn, hkind⟩
    exact ⟨n, ⟨trail, htrail, by rw [hn]; rfl⟩, hkind⟩

/-- Making sure that a file is there finds one, or there is none and an empty one is linked. -/
theorem createFile_child_ok (hname : isEntryName name = true)
    (h : d.createFile (.child above name) = .ok (i, d')) :
    ∃ trail children, d.follow [] above = .ok trail ∧
      d.node? trail.node = some (.directory children) ∧ ¬nameLimit < name.utf8ByteSize ∧
      ((children.lookup name = some i ∧ ∃ data, d.node? i = some (.file data)) ∨
        (children.lookup name = none ∧ i = d.nodes.length ∧
          d' = d.linked trail.node children name (.file .empty))) := by
  rw [createFile, except_bind_ok_iff] at h
  obtain ⟨place, hplace, h⟩ := h
  obtain ⟨trail, children, htrail, hnode, hlong, rfl⟩ := (reachParent_child_ok_iff hname).1 hplace
  refine ⟨trail, children, htrail, hnode, hlong, ?_⟩
  dsimp only [Route.child] at h
  simp only [Bool.false_eq_true, if_false, children_ok_iff.2 hnode, bind, Except.bind] at h
  cases hl : children.lookup name with
  | some k =>
    rw [hl] at h
    cases hk : d.node? k with
    | none => simp [hk] at h
    | some n =>
      cases n with
      | directory _ => simp [hk] at h
      | file data =>
        simp only [hk] at h
        cases h
        exact .inl ⟨rfl, data, hk⟩
  | none =>
    rw [hl] at h
    obtain ⟨children', hnode', h⟩ := link_ok_iff.1 h
    obtain rfl : children = children' := by simpa [hnode] using hnode'
    cases h
    exact .inr ⟨rfl, rfl, rfl⟩

/-- **A file made where none was is empty**, and its path leads to it. -/
theorem createFile_of_missing (hname : isEntryName name = true)
    (hmissing : ∀ kind, d.kindAt (.child above name) ≠ .ok kind)
    (hmade : d.createFile (.child above name) = .ok (i, d')) :
    (∃ trail, d'.reach (.child above name) = .ok trail ∧ trail.node = i) ∧
      d'.node? i = some (.file .empty) := by
  obtain ⟨trail, children, htrail, hnode, hlong, ⟨hl, data, hi⟩ | ⟨hl, rfl, rfl⟩⟩ :=
    createFile_child_ok hname hmade
  · -- a file of this name would have been found
    have henter := (enter_ok_iff hname).2 ⟨children, hnode, hlong, i, hl, rfl⟩
    have hreach := reach_child_ok_iff.2 ⟨trail, htrail, henter⟩
    exact absurd (kindAt_ok_iff.2 ⟨_, _, hreach, hi, rfl⟩) (hmissing .file)
  · have hnew := node?_linked hnode name (.file .empty)
    have hnode' : (d.linked trail.node children name (.file .empty)).node? trail.node =
        some (.directory (children ++ [(name, d.nodes.length)])) := by
      rw [hnew, if_neg (Nat.ne_of_lt (lt_length_of_node? hnode)), if_pos rfl]
    have hl' : (children ++ [(name, d.nodes.length)]).lookup name = some d.nodes.length := by
      rw [List.lookup_append, hl, List.lookup_cons_self]
      rfl
    have hkeeps : KeepsNames d _ := keepsNames_linked hnode name (.file .empty)
    have henter := (enter_ok_iff hname).2 ⟨_, hnode', hlong, d.nodes.length, hl', rfl⟩
    refine ⟨⟨_, reach_child_ok_iff.2 ⟨trail, hkeeps.follow htrail, henter⟩, rfl⟩, ?_⟩
    rw [hnew, if_pos rfl]

/-! ### Open files -/

theorem contentOf_ok_iff {p : Nat × Content} :
    d.contentOf id = .ok p ↔
      ∃ f, d.description? id = some f ∧ f.node = p.1 ∧ d.node? p.1 = some (.file p.2) := by
  obtain ⟨i, data⟩ := p
  rw [contentOf]
  cases hf : d.description? id with
  | none => simp
  | some f =>
    simp only [Option.some.injEq, exists_eq_left']
    split
    · rename_i hn
      constructor
      · intro h; cases h; exact ⟨rfl, hn⟩
      · rintro ⟨rfl, h⟩
        rw [hn] at h; cases h; rfl
    · rename_i hn
      simp only [reduceCtorEq, false_iff, not_and]
      rintro rfl h
      rw [hn] at h; cases h
    · rename_i hn
      simp only [reduceCtorEq, false_iff, not_and]
      rintro rfl h
      rw [hn] at h; cases h

/-- Other bytes in the file of an open file. -/
theorem contentOf_setNode (h : d.contentOf id = .ok (i, data)) (data' : Content) :
    (d.setNode i (.file data')).contentOf id = .ok (i, data') := by
  obtain ⟨f, hf, hi, hn⟩ := contentOf_ok_iff.1 h
  exact contentOf_ok_iff.2 ⟨f, hf, hi, by rw [node?_setNode hn, if_pos rfl]⟩

theorem checkStretch_of_lt {offset count : Nat} (h : offset + count < 0x8000000000000000) :
    checkStretch offset count = .ok () := by
  rw [checkStretch, if_neg (by rw [offsetLimit]; omega), if_neg]
  rw [Bool.and_eq_true, decide_eq_true_eq, decide_eq_true_eq, offsetLimit]
  omega

theorem read_eq (h : d.contentOf id = .ok (i, data)) {offset count : Nat}
    (hrange : offset + count < 0x8000000000000000) :
    d.read id count offset = .ok (data.slice offset count) := by
  simp only [Disk.read, h, checkStretch_of_lt hrange, bind, Except.bind, pure, Except.pure]

theorem write_nil (h : d.contentOf id = .ok (i, data)) {offset : Nat}
    (hrange : offset < 0x8000000000000000) :
    d.write id [] offset = .ok d := by
  have hstretch : checkStretch offset 0 = .ok () := checkStretch_of_lt hrange
  simp only [Disk.write, h, List.length_nil, hstretch, bind, Except.bind]
  rfl

/-- Writing patches the bytes of the file. -/
theorem write_eq (h : d.contentOf id = .ok (i, data)) {bytes : List UInt8} (hne : bytes ≠ [])
    {offset : Nat} (hrange : offset + bytes.length < 0x8000000000000000) :
    ∃ data', d.write id bytes offset = .ok (d.setNode i (.file data')) ∧
      data'.toList = Bytes.patch data.toList offset bytes := by
  refine ⟨(if data.length < offset then data.resize offset else data).overlay offset bytes, ?_, ?_⟩
  · simp only [Disk.write, h, checkStretch_of_lt hrange, bind, Except.bind, pure, Except.pure,
      if_neg (mt List.isEmpty_iff.1 hne)]
  · rw [Content.toList_overlay]
    split_ifs with hgap
    · rw [Content.toList_resize_eq_fit]
      refine Bytes.patch_fit ?_ (Nat.le_refl _) (Nat.le_add_right _ _)
      rw [Content.length_toList]
      exact Nat.le_of_lt hgap
    · exact Bytes.patch_of_le (by rw [Content.length_toList]; omega) bytes

theorem setLength_eq (h : d.contentOf id = .ok (i, data)) {length : Nat}
    (hrange : length < 0x8000000000000000) :
    d.setLength id length = .ok (d.setNode i (.file (data.resize length))) := by
  have hlimit : ¬offsetLimit < length := by rw [offsetLimit]; omega
  simp only [setLength, if_neg hlimit, h, bind, Except.bind, pure, Except.pure]

theorem length_eq (h : d.contentOf id = .ok (i, data)) : d.length id = .ok data.length := by
  simp only [Disk.length, h, bind, Except.bind, pure, Except.pure]

theorem contentOf_openFile {r : Route} {write : Bool} (htrail : d.reach r = .ok trail)
    (hn : d.node? trail.node = some (.file data)) (h : d.openFile r write = .ok (id, d')) :
    d'.contentOf id = .ok (trail.node, data) := by
  simp only [openFile, htrail, bind, Except.bind, hn, pure, Except.pure] at h
  cases h
  exact contentOf_ok_iff.2 ⟨⟨trail.node, false⟩, List.lookup_cons_self, rfl, hn⟩

theorem description?_setDescription {f : Description} (h : d.description? id = some f)
    (g : Description) : (d.setDescription id g).description? id = some g := by
  obtain ⟨nodes, descriptions, next, working⟩ := d
  simp only [description?, setDescription] at h ⊢
  induction descriptions with
  | nil => cases h
  | cons e rest ih =>
    obtain ⟨k, f'⟩ := e
    by_cases hk : id = k
    · subst hk; simp
    · rw [lookup_cons_of_ne hk] at h
      rw [List.map_cons, if_neg (Ne.symm hk), lookup_cons_of_ne hk]
      exact ih h

/-- Taking the lock of an open file changes nothing about its bytes. -/
theorem contentOf_tryLock (hc : d.contentOf id = .ok (i, data)) (h : d.tryLock id = .ok d') :
    d'.contentOf id = .ok (i, data) := by
  obtain ⟨f, hf, hi, hn⟩ := contentOf_ok_iff.1 hc
  simp only [tryLock, hf] at h
  split_ifs at h
  cases h
  exact contentOf_ok_iff.2 ⟨_, description?_setDescription hf _, hi, hn⟩

end Disk

end EngineHost
