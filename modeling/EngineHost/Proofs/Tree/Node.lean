import EngineHost.Proofs.Attempt
import EngineHost.Proofs.Lookup
import EngineHost.Storage.Tree
import Mathlib.Tactic.SplitIfs

/-!
# What the functions of a tree do

One statement for each function of `Tree`, said with the node that stands at a number.

* `Tree.node?_setNode`, `Tree.node?_addNode`, `Tree.node?_dropNode` : the nodes after a node was
  put in the place of another one, put behind the others or taken away.
* `Tree.lookupOrCreate_ok_iff`, `Tree.unlink_ok_iff`, `Tree.resize_ok_iff`, `Tree.write_ok_iff`,
  `Tree.lock_ok_iff` : when a function succeeds, and the tree it then leaves.
* `Tree.admits_iff` : what the checks on the growth of a file amount to in exact integers.
-/

namespace EngineHost

namespace Tree

variable {t t' : Tree} {d i j : Inode} {n : Node} {name : String}
  {children : List (String × Inode)} {data : Content} {locked : Bool}

/-! ### Nodes -/

/-- Puts a node behind the others, under the next number. -/
def addNode (t : Tree) (n : Node) : Tree := { t with nodes := t.nodes ++ [some n] }

/-- Takes a node away. -/
def dropNode (t : Tree) (i : Inode) : Tree := { t with nodes := t.nodes.set i none }

/-- The same tree with another count of used bytes. -/
def charge (t : Tree) (used : Nat) : Tree := { t with used := used }

/-- The bytes that the node of a number counts against the quota. -/
def lengthAt (t : Tree) (i : Inode) : Nat := ((t.node? i).map Node.length).getD 0

theorem lt_nextInode (h : t.node? i = some n) : i < t.nextInode := by
  by_contra hi
  have : t.nodes[i]? = none := List.getElem?_eq_none (by simpa [nextInode] using hi)
  simp [node?, this] at h

theorem node?_nextInode (t : Tree) : t.node? t.nextInode = none := by
  cases h : t.node? t.nextInode with
  | none => rfl
  | some n => exact absurd (lt_nextInode h) (Nat.lt_irrefl _)

/-- A number has one file. -/
theorem file_unique {data' : Content} {locked' : Bool} (hi : t.node? i = some (.file data locked))
    (hi' : t.node? i = some (.file data' locked')) : data' = data ∧ locked' = locked := by
  simpa [hi] using hi'.symm

theorem node?_setNode (h : t.node? i = some n) (m : Node) (j : Inode) :
    (t.setNode i m).node? j = if j = i then some m else t.node? j := by
  have hi : i < t.nodes.length := lt_nextInode h
  by_cases hj : j = i
  · subst hj; simp [node?, setNode, hi]
  · simp [node?, setNode, hj, List.getElem?_set_ne (Ne.symm hj)]

theorem node?_addNode (t : Tree) (n : Node) (j : Inode) :
    (t.addNode n).node? j = if j = t.nextInode then some n else t.node? j := by
  rcases Nat.lt_trichotomy j t.nextInode with hj | hj | hj
  · rw [if_neg (Nat.ne_of_lt hj), node?, addNode, List.getElem?_append_left hj, node?]
  · subst hj; simp [node?, addNode, nextInode]
  · have hlen : t.nodes.length < j := hj
    rw [if_neg (Nat.ne_of_gt hj), node?, addNode, List.getElem?_eq_none (by simp; omega), node?,
      List.getElem?_eq_none (Nat.le_of_lt hlen)]

theorem node?_dropNode (t : Tree) (i j : Inode) :
    (t.dropNode i).node? j = if j = i then none else t.node? j := by
  by_cases hj : j = i
  · subst hj
    by_cases hi : j < t.nodes.length
    · simp [node?, dropNode, hi]
    · simp [node?, dropNode, hi]
  · simp [node?, dropNode, hj, List.getElem?_set_ne (Ne.symm hj)]

@[simp] theorem node?_charge (t : Tree) (used : Nat) (j : Inode) :
    (t.charge used).node? j = t.node? j := rfl

@[simp] theorem nextInode_setNode (t : Tree) (i : Inode) (n : Node) :
    (t.setNode i n).nextInode = t.nextInode := by simp [nextInode, setNode]

@[simp] theorem nextInode_addNode (t : Tree) (n : Node) :
    (t.addNode n).nextInode = t.nextInode + 1 := by simp [nextInode, addNode]

@[simp] theorem nextInode_dropNode (t : Tree) (i : Inode) :
    (t.dropNode i).nextInode = t.nextInode := by simp [nextInode, dropNode]

@[simp] theorem nextInode_charge (t : Tree) (used : Nat) :
    (t.charge used).nextInode = t.nextInode := rfl

@[simp] theorem quota_setNode (t : Tree) (i : Inode) (n : Node) :
    (t.setNode i n).quota = t.quota := rfl

@[simp] theorem quota_addNode (t : Tree) (n : Node) : (t.addNode n).quota = t.quota := rfl

@[simp] theorem quota_dropNode (t : Tree) (i : Inode) : (t.dropNode i).quota = t.quota := rfl

@[simp] theorem quota_charge (t : Tree) (used : Nat) : (t.charge used).quota = t.quota := rfl

@[simp] theorem used_setNode (t : Tree) (i : Inode) (n : Node) :
    (t.setNode i n).used = t.used := rfl

@[simp] theorem used_addNode (t : Tree) (n : Node) : (t.addNode n).used = t.used := rfl

@[simp] theorem used_charge (t : Tree) (used : Nat) : (t.charge used).used = used := rfl

/-! ### The trees that the functions leave -/

/-- The tree with a new child of a directory that has the given ones. -/
def linked (t : Tree) (d : Inode) (children : List (String × Inode)) (name : String) (n : Node) :
    Tree :=
  (t.setNode d (.directory (children ++ [(name, t.nextInode)]))).addNode n

/-- The tree without a child of a directory that has the given ones. -/
def unlinked (t : Tree) (d : Inode) (children : List (String × Inode)) (name : String)
    (i : Inode) : Tree :=
  ((t.setNode d (.directory (children.filter fun c => c.1 ≠ name))).dropNode i).charge
    (t.used - t.lengthAt i)

/-- The tree with a file brought to a length. -/
def resized (t : Tree) (i : Inode) (data : Content) (locked : Bool) (length : Nat) : Tree :=
  (t.setNode i (.file (data.resize length) locked)).charge (t.used - data.length + length)

/-- The tree with a file brought to a length if it is shorter. -/
def reached (t : Tree) (i : Inode) (data : Content) (locked : Bool) (length : Nat) : Tree :=
  if data.length < length then t.resized i data locked length else t

/-- The bytes of a file after a write, which goes on where the file was made long enough. -/
def overwritten (data : Content) (bytes : List UInt8) (offset : Nat) : Content :=
  (if data.length < offset + bytes.length then data.resize (offset + bytes.length)
    else data).overlay offset bytes

/-- The tree after a write. -/
def written (t : Tree) (i : Inode) (data : Content) (locked : Bool) (bytes : List UInt8)
    (offset : Nat) : Tree :=
  (t.reached i data locked (offset + bytes.length)).setNode i
    (.file (overwritten data bytes offset) locked)

/-- What may be unlinked: a file that is not locked or a directory without children. -/
inductive Removable : Option Node → Prop where
  | missing : Removable none
  | file (data : Content) : Removable (some (.file data false))
  | directory : Removable (some (.directory []))

/-- The checks on bringing a file to a greater length beside others of a total length. -/
def Admits (t : Tree) (a : Allocator) (others length : Nat) : Prop :=
  min (others + length) wordLimit ≤ t.quota.toNat ∧ a.reserves others length = true

theorem node?_linked (h : t.node? d = some (.directory children)) (name : String) (n : Node)
    (j : Inode) :
    (t.linked d children name n).node? j =
      if j = t.nextInode then some n
      else if j = d then some (.directory (children ++ [(name, t.nextInode)]))
      else t.node? j := by
  rw [linked, node?_addNode, nextInode_setNode, node?_setNode h]

theorem node?_unlinked (h : t.node? d = some (.directory children)) (name : String) (i j : Inode) :
    (t.unlinked d children name i).node? j =
      if j = i then none
      else if j = d then some (.directory (children.filter fun c => c.1 ≠ name))
      else t.node? j := by
  rw [unlinked, node?_charge, node?_dropNode, node?_setNode h]

theorem node?_resized (h : t.node? i = some (.file data locked)) (length : Nat) (j : Inode) :
    (t.resized i data locked length).node? j =
      if j = i then some (.file (data.resize length) locked) else t.node? j := by
  rw [resized, node?_charge, node?_setNode h]

theorem node?_reached (h : t.node? i = some (.file data locked)) (length : Nat) :
    (t.reached i data locked length).node? i =
      some (.file (if data.length < length then data.resize length else data) locked) := by
  rw [reached]
  split_ifs
  · rw [node?_resized h, if_pos rfl]
  · exact h

/-- In exact integers: the total stays within the quota, and the memory is granted. -/
theorem admits_iff (t : Tree) (a : Allocator) (others length : Nat) :
    t.Admits a others length ↔
      others + length ≤ t.quota.toNat ∧ a.reserves others length = true := by
  refine and_congr_left fun h => ?_
  -- a total that does not fit a word is never granted, so the cut to a word cuts nothing
  have hfits : others + length < 0x10000000000000000 := by
    rw [Allocator.reserves, Bool.and_eq_true] at h
    exact a.fits _ h.2
  rw [Nat.min_eq_left (by rw [wordLimit]; omega)]

/-! ### When the functions succeed -/

theorem children_ok_iff : t.children d = .ok children ↔ t.node? d = some (.directory children) := by
  rw [Tree.children]
  split <;> simp_all

theorem data_ok_iff : t.data i = .ok data ↔ ∃ locked, t.node? i = some (.file data locked) := by
  rw [Tree.data]
  split <;> simp_all

theorem link_eq (h : t.node? d = some (.directory children)) (name : String) (n : Node) :
    t.link d name n = .ok (t.nextInode, t.linked d children name n) := by
  simp only [link, children_ok_iff.2 h]
  rfl

/-- Looking a child up finds one of the right kind and leaves the tree as it is, or there is none
and it is linked anew. -/
theorem lookupOrCreate_ok_iff {create : Bool} {kind : EntryKind} :
    t.lookupOrCreate d name create kind = .ok (i, t') ↔
      ∃ children, t.node? d = some (.directory children) ∧
        ((children.lookup name = some i ∧ (∃ n, t.node? i = some n ∧ n.kind = kind) ∧ t' = t) ∨
          (children.lookup name = none ∧ create = true ∧ i = t.nextInode ∧
            t' = t.linked d children name (.ofKind kind))) := by
  simp only [lookupOrCreate, except_bind_ok_iff, children_ok_iff]
  refine exists_congr fun children => and_congr_right fun hd => ?_
  cases hl : children.lookup name with
  | none => cases create <;> simp [link_eq hd, eq_comm]
  | some k =>
    cases hk : t.node? k with
    | none =>
      simp only [hk, except_throw_ok_iff, false_iff]
      rintro (⟨hki, ⟨n, hn, -⟩, -⟩ | ⟨h, -⟩)
      · obtain rfl := Option.some.inj hki
        rw [hk] at hn; cases hn
      · cases h
    | some n =>
      simp only [hk]
      by_cases hkind : n.kind = kind
      · simp only [if_pos hkind, except_pure_ok_iff, Prod.mk.injEq]
        grind
      · simp only [if_neg hkind, except_throw_ok_iff, false_iff]
        grind

/-- Looking a child up without making it leaves the tree as it is. -/
theorem lookupOrCreate_false {kind : EntryKind}
    (h : t.lookupOrCreate d name false kind = .ok (i, t')) : t' = t := by
  obtain ⟨children, -, ⟨-, -, rfl⟩ | ⟨-, hcreate, -⟩⟩ := lookupOrCreate_ok_iff.1 h
  · rfl
  · cases hcreate

/-- Unlinking takes a removable child away. -/
theorem unlink_ok_iff :
    t.unlink d name = .ok t' ↔
      ∃ children, t.node? d = some (.directory children) ∧
        ∃ i, children.lookup name = some i ∧ Removable (t.node? i) ∧
          t' = t.unlinked d children name i := by
  simp only [unlink, except_bind_ok_iff, children_ok_iff]
  refine exists_congr fun children => and_congr_right fun hd => ?_
  cases hl : children.lookup name with
  | none => simp
  | some k =>
    simp only [Option.some.injEq, exists_eq_left']
    split
    · rename_i hk
      simp only [except_throw_ok_iff, hk, false_iff]
      rintro ⟨⟨⟩, -⟩
    · rename_i hk
      simp only [except_throw_ok_iff, hk, false_iff]
      rintro ⟨⟨⟩, -⟩
    · rename_i hfile hdirectory
      have hr : Removable (t.node? k) := by
        cases hk : t.node? k with
        | none => exact .missing
        | some n =>
          cases n with
          | file data locked =>
            cases locked
            · exact .file data
            · exact absurd hk (hfile data)
          | directory cs =>
            cases cs with
            | nil => exact .directory
            | cons c cs => exact absurd hk (hdirectory c cs)
      simp only [except_pure_ok_iff, hr, true_and]
      exact eq_comm

/-- Bringing a file to a length needs admission only when the file grows. -/
theorem resize_ok_iff {a : Allocator} {length : Nat} :
    t.resize a i length = .ok t' ↔
      ∃ data locked, t.node? i = some (.file data locked) ∧
        (data.length < length → t.Admits a (t.used - data.length) length) ∧
        t' = t.resized i data locked length := by
  simp only [resize, except_bind_ok_iff, data_ok_iff]
  refine exists_congr fun data => ⟨?_, ?_⟩
  · rintro ⟨⟨locked, hi⟩, h⟩
    refine ⟨locked, hi, ?_⟩
    by_cases hlen : data.length < length
    · by_cases hquota : t.quota.toNat < min (t.used - data.length + length) wordLimit
      · simp [hlen, hquota] at h
      · cases hgrant : a.reserves (t.used - data.length) length
        · simp [hlen, hquota, hgrant] at h
        · simp only [hi, if_pos hlen, if_neg hquota, hgrant, Bool.not_true, Bool.false_eq_true,
            if_false, except_pure_ok_iff] at h
          exact ⟨fun _ => ⟨by omega, hgrant⟩, h.symm⟩
    · simp only [hi, if_neg hlen, except_pure_ok_iff] at h
      exact ⟨fun h' => absurd h' hlen, h.symm⟩
  · rintro ⟨locked, hi, hadmits, rfl⟩
    refine ⟨⟨locked, hi⟩, ?_⟩
    by_cases hlen : data.length < length
    · have hquota := Nat.not_lt.2 (hadmits hlen).1
      simp only [hi, if_pos hlen, if_neg hquota, (hadmits hlen).2, Bool.not_true,
        Bool.false_eq_true, if_false, except_pure_ok_iff]
      rfl
    · simp only [hi, if_neg hlen, except_pure_ok_iff]
      rfl

/-- A write brings the file to the end of what is written if it is shorter, as `resize` does, and
then lays the bytes over it. -/
theorem write_ok_iff {a : Allocator} {bytes : List UInt8} {offset : Nat} :
    t.write a i bytes offset = .ok t' ↔
      offset + bytes.length ≤ wordLimit ∧ ∃ data locked, t.node? i = some (.file data locked) ∧
        (data.length < offset + bytes.length →
          t.Admits a (t.used - data.length) (offset + bytes.length)) ∧
        t' = t.written i data locked bytes offset := by
  rw [write]
  by_cases hstop : wordLimit < offset + bytes.length
  · simp only [if_pos hstop, except_bind_ok_iff, except_throw_ok_iff, false_and, exists_const,
      false_iff]
    exact fun h => absurd h.1 (Nat.not_le.2 hstop)
  · simp only [if_neg hstop, Nat.not_lt.1 hstop, true_and, except_bind_ok_iff, data_ok_iff]
    refine exists_congr fun data => ⟨?_, ?_⟩
    · rintro ⟨⟨locked, hi⟩, h⟩
      refine ⟨locked, hi, ?_⟩
      by_cases hlen : data.length < offset + bytes.length
      · simp only [if_pos hlen, except_bind_ok_iff, resize_ok_iff] at h
        obtain ⟨_, ⟨data', locked', hi', hadmits, rfl⟩, h⟩ := h
        obtain ⟨rfl, rfl⟩ := file_unique hi hi'
        simp only [node?_resized hi, if_true, except_pure_ok_iff] at h
        exact ⟨hadmits, by rw [← h, written, reached, overwritten, if_pos hlen, if_pos hlen]⟩
      · simp only [if_neg hlen, pure_bind, hi, except_pure_ok_iff] at h
        exact ⟨fun h' => absurd h' hlen,
          by rw [← h, written, reached, overwritten, if_neg hlen, if_neg hlen]⟩
    · rintro ⟨locked, hi, hadmits, rfl⟩
      refine ⟨⟨locked, hi⟩, ?_⟩
      by_cases hlen : data.length < offset + bytes.length
      · rw [if_pos hlen, resize_ok_iff.2 ⟨data, locked, hi, hadmits, rfl⟩]
        simp only [bind, Except.bind, node?_resized hi, if_true, except_pure_ok_iff]
        rw [written, reached, overwritten, if_pos hlen, if_pos hlen]
      · simp only [if_neg hlen, pure_bind, hi, except_pure_ok_iff]
        rw [written, reached, overwritten, if_neg hlen, if_neg hlen]

/-- Locking takes a file that is not locked. -/
theorem lock_ok_iff :
    t.lock i = .ok t' ↔
      ∃ data, t.node? i = some (.file data false) ∧ t' = t.setNode i (.file data true) := by
  rw [lock]
  split
  all_goals
    rename_i h
    simp [h, eq_comm]

/-- A lock is taken once. -/
theorem lock_of_locked (hi : t.node? i = some (.file data true)) :
    t.lock i = .error .noModificationAllowed := by
  rw [lock, hi]

/-- A locked file is not unlinked. -/
theorem unlink_of_locked (hd : t.node? d = some (.directory children))
    (hl : children.lookup name = some i) (hi : t.node? i = some (.file data true)) :
    t.unlink d name = .error .noModificationAllowed := by
  simp only [unlink, children_ok_iff.2 hd, bind, Except.bind, hl, hi]
  rfl

/-- Unlocking does nothing but to a file. -/
theorem unlock_cases (t : Tree) (i : Inode) :
    (∃ data locked, t.node? i = some (.file data locked) ∧
      t.unlock i = t.setNode i (.file data false)) ∨
    ((∀ data locked, t.node? i ≠ some (.file data locked)) ∧ t.unlock i = t) := by
  rw [unlock]
  split
  · exact .inl ⟨_, _, ‹_›, rfl⟩
  · exact .inr ⟨‹_›, rfl⟩

end Tree

end EngineHost
