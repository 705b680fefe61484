import EngineHost.Proofs.Tree.Altered
import EngineHost.Proofs.Tree.Session

/-!
# Calls in place

A call that changes the tree in place changes it more than once and looks at it again in between.
On a tree whose count of used bytes is exact, none of the later steps can fail: what was looked up
before is still there, a count stays within its word, and bytes lie within the file that was grown
for them.  A call in place then comes to the same as the function of the tree, and one that fails
fails before it changes anything.

* `Tree.InPlace.lookupOrCreate_eq`, `Tree.InPlace.unlink_eq`, `Tree.InPlace.resize_eq`,
  `Tree.InPlace.write_eq`, `Tree.InPlace.lock_eq` : this for each function.
* `TreeCall.inPlace_eq` : hence for each call, through any handle.
* `TreeCall.run_unchanged` : after any calls, one that fails leaves the tree as it was.
-/

namespace EngineHost

namespace Tree

namespace InPlace

variable {α : Type} {t : Tree} {quota : UInt64} {a : Allocator} {d i : Inode} {name : String}
  {data : Content} {locked : Bool} {found : List (String × Inode)} {e : StorageError} {length : Nat}

/-! ### Single steps -/

@[simp] theorem get_apply (t : Tree) : (get : InPlace Tree) t = .ok t t := rfl

@[simp] theorem refuse_apply (e : StorageError) (t : Tree) :
    (refuse e : InPlace α) t = .error (.refused e) t := rfl

@[simp] theorem put_apply (t : Tree) (i : Inode) (n : Node) : put i n t = .ok () (t.setNode i n) :=
  rfl

@[simp] theorem add_apply (t : Tree) (n : Node) : add n t = .ok () (t.addNode n) := rfl

@[simp] theorem take_apply (t : Tree) (i : Inode) : take i t = .ok (t.node? i) (t.dropNode i) := rfl

theorem ask_of_ok {x : Tree → Except StorageError α} {b : α} (h : x t = .ok b) :
    ask x t = .ok b t := by
  simp only [ask, atomic, look, h]

theorem ask_of_error {x : Tree → Except StorageError α} (h : x t = .error e) :
    ask x t = .error (.refused e) t := by
  simp only [ask, atomic, look, h]

theorem children_of_directory (hd : t.node? d = some (.directory found)) :
    children d t = .ok found t :=
  ask_of_ok (children_ok_iff.2 hd)

theorem file_of_node? (hi : t.node? i = some (.file data locked)) :
    file i t = .ok (data, locked) t :=
  ask_of_ok (by simp only [hi])

theorem file_of_error (h : t.data i = .error e) : file i t = .error (.refused e) t := by
  refine ask_of_error ?_
  rw [Tree.data] at h
  split at h <;> simp_all

theorem usedWithout_of_le (h : length ≤ t.used) :
    usedWithout length t = .ok (t.used - length) t :=
  if_pos h

theorem setUsed_of_le {count : Nat} (h : count ≤ wordLimit) :
    setUsed count t = .ok () (t.charge count) :=
  if_pos h

@[simp] theorem stateAfter_atomic (x : StorageM Tree α) (t : Tree) :
    stateAfter (atomic x t) = stateAfter (x t) := by
  rw [atomic]
  cases x t <;> rfl

theorem atomic_error_iff {x : StorageM Tree α} {halt : Halt} {t' : Tree} :
    atomic x t = .error halt t' ↔ ∃ e, halt = .refused e ∧ x t = .error e t' := by
  rw [atomic]
  cases x t <;> simp [eq_comm]

/-! ### Looking up and linking -/

/-- The directory that was looked at is still one when the child is put into it. -/
theorem link_of_directory (hd : t.node? d = some (.directory found)) (n : Node) :
    link d name n t = .ok t.nextInode (t.linked d found name n) := by
  simp only [link, attempt_bind_apply, get_apply, children_of_directory hd, put_apply, add_apply]
  rfl

theorem lookupOrCreate_eq (t : Tree) (d : Inode) (name : String) (create : Bool)
    (kind : EntryKind) :
    lookupOrCreate d name create kind t =
      atomic (changeWith fun t => t.lookupOrCreate d name create kind) t := by
  simp only [atomic, changeWith, Tree.lookupOrCreate, lookupOrCreate, attempt_bind_apply]
  cases hd : t.children d with
  | error e =>
    have hchildren : children d t = .error (.refused e) t := ask_of_error hd
    simp only [hchildren]
    rfl
  | ok found =>
    have hd := children_ok_iff.1 hd
    simp only [children_of_directory hd, bind, Except.bind]
    cases found.lookup name with
    | none =>
      cases create with
      | true => simp only [if_true, link_eq hd, link_of_directory hd]
      | false => rfl
    | some i =>
      simp only [EStateM.bind, get_apply]
      cases t.node? i with
      | none => rfl
      | some n =>
        dsimp only
        split_ifs <;> rfl

/-! ### Unlinking -/

/-- The node is still there when its name is gone: a directory that is its own child has a child,
and so may not be removed. -/
theorem unlink_of_removable (ht : t.Accounted quota) (hd : t.node? d = some (.directory found))
    (hl : found.lookup name = some i) (hr : Removable (t.node? i)) :
    unlink d name t = .ok () (t.unlinked d found name i) := by
  have hne : i ≠ d := by
    rintro rfl
    rw [hd] at hr
    cases hr
    cases hl
  set t₁ := t.setNode d (.directory (found.filter fun c => c.1 ≠ name)) with ht₁
  have hstill : t₁.node? i = t.node? i := by rw [ht₁, node?_setNode hd, if_neg hne]
  have hlength := ht.lengthAt_le i
  simp only [unlink, attempt_bind_apply, get_apply, children_of_directory hd, hl]
  rw [unlinked, ← ht₁]
  rw [lengthAt] at hlength ⊢
  generalize t.node? i = n at hr hstill hlength ⊢
  cases hr with
  | missing | directory =>
    simp only [attempt_bind_apply, children_of_directory hd, put_apply, take_apply, ← ht₁, hstill]
    rfl
  | file data =>
    have hcount : usedWithout data.length (t₁.dropNode i) = .ok (t.used - data.length) _ :=
      usedWithout_of_le hlength
    simp only [attempt_bind_apply, children_of_directory hd, put_apply, take_apply, ← ht₁, hstill,
      hcount]
    exact setUsed_of_le ((Nat.sub_le _ _).trans ht.used_le_wordLimit)

theorem unlink_eq (ht : t.Accounted quota) (d : Inode) (name : String) :
    unlink d name t = atomic (change fun t => t.unlink d name) t := by
  cases hd : t.children d with
  | error e =>
    have hchildren : children d t = .error (.refused e) t := ask_of_error hd
    simp only [unlink, attempt_bind_apply, hchildren, atomic, change, Tree.unlink, hd]
    rfl
  | ok found =>
    have hd := children_ok_iff.1 hd
    cases hl : found.lookup name with
    | none =>
      simp only [unlink, attempt_bind_apply, children_of_directory hd, hl, refuse_apply]
      simp only [atomic, change, Tree.unlink, children_ok_iff.2 hd, bind, Except.bind, hl]
      rfl
    | some i =>
      by_cases hr : Removable (t.node? i)
      · have hok : t.unlink d name = .ok (t.unlinked d found name i) :=
          unlink_ok_iff.2 ⟨found, hd, i, hl, hr, rfl⟩
        simp only [unlink_of_removable ht hd hl hr, atomic, change, hok]
      · -- what may not be removed is told before anything is changed
        simp only [unlink, attempt_bind_apply, children_of_directory hd, hl, get_apply]
        simp only [atomic, change, Tree.unlink, children_ok_iff.2 hd, bind, Except.bind, hl]
        cases hi : t.node? i with
        | none => exact absurd (hi ▸ .missing) hr
        | some n =>
          cases n with
          | file data locked =>
            cases locked with
            | false => exact absurd (hi ▸ .file data) hr
            | true => rfl
          | directory children =>
            cases children with
            | nil => exact absurd (hi ▸ .directory) hr
            | cons c children => rfl

/-- Where the count is too small, a removal breaks off with the entry gone. -/
example :
    let t : Tree := ⟨[some (.directory [("a", 1)]), some (.file (.zeros 1) false)], 1, 0⟩
    unlink rootInode "a" t = .error .broken ⟨[some (.directory []), none], 1, 0⟩ := rfl

/-! ### Files -/

theorem length_le_used (ht : t.Accounted quota) (hi : t.node? i = some (.file data locked)) :
    data.length ≤ t.used := by
  have hlength := ht.lengthAt_le i
  rwa [lengthAt_of_node? hi] at hlength

/-- The count is set to a sum within the quota, which fits a word. -/
theorem resize_of_admits (ht : t.Accounted quota) (hi : t.node? i = some (.file data locked))
    (hadmits : data.length < length → t.Admits a (t.used - data.length) length) :
    resize a i length t = .ok () (t.resized i data locked length) := by
  have hquota : ¬ (data.length < length ∧
      t.quota.toNat < min (t.used - data.length + length) wordLimit) :=
    fun ⟨hgrow, hover⟩ => Nat.not_le.2 hover (hadmits hgrow).1
  have hgranted : ¬ (data.length < length ∧ !a.reserves (t.used - data.length) length) :=
    fun ⟨hgrow, hrefused⟩ => by simp [(hadmits hgrow).2] at hrefused
  simp only [resize, attempt_bind_apply, file_of_node? hi, usedWithout_of_le (length_le_used ht hi),
    get_apply, if_neg hquota, if_neg hgranted, put_apply]
  exact setUsed_of_le (ht.resize hi hadmits).used_le_wordLimit

/-- The quota and the memory are asked for before the file is touched. -/
theorem resize_of_refused (ht : t.Accounted quota) (hi : t.node? i = some (.file data locked))
    (hgrow : data.length < length) (hrefused : ¬ t.Admits a (t.used - data.length) length) :
    resize a i length t = .error (.refused .quotaExceeded) t := by
  by_cases hquota : t.quota.toNat < min (t.used - data.length + length) wordLimit
  · simp only [resize, attempt_bind_apply, file_of_node? hi,
      usedWithout_of_le (length_le_used ht hi), get_apply, if_pos (And.intro hgrow hquota),
      refuse_apply]
  · have hmemory : data.length < length ∧ (!a.reserves (t.used - data.length) length) = true := by
      refine ⟨hgrow, ?_⟩
      by_contra hgranted
      exact hrefused ⟨Nat.not_lt.1 hquota, by simpa using hgranted⟩
    simp only [resize, attempt_bind_apply, file_of_node? hi,
      usedWithout_of_le (length_le_used ht hi), get_apply, if_neg (not_and_of_not_right _ hquota),
      if_pos hmemory, refuse_apply]

theorem resize_eq (ht : t.Accounted quota) (a : Allocator) (i : Inode) (length : Nat) :
    resize a i length t = atomic (change fun t => t.resize a i length) t := by
  cases hdata : t.data i with
  | error e =>
    simp only [resize, attempt_bind_apply, file_of_error hdata, atomic, change, Tree.resize, hdata]
    rfl
  | ok data =>
    obtain ⟨locked, hi⟩ := data_ok_iff.1 hdata
    by_cases hadmits : data.length < length → t.Admits a (t.used - data.length) length
    · have hok : t.resize a i length = .ok (t.resized i data locked length) :=
        resize_ok_iff.2 ⟨data, locked, hi, hadmits, rfl⟩
      simp only [resize_of_admits ht hi hadmits, atomic, change, hok]
    · obtain ⟨hgrow, hrefused⟩ := Classical.not_imp.1 hadmits
      simp only [resize_of_refused ht hi hgrow hrefused, atomic, change,
        Tree.resize_of_refused hi hadmits]

/-- The file that was grown is still there, and long enough for what is written. -/
theorem write_of_admits (ht : t.Accounted quota) (hi : t.node? i = some (.file data locked))
    {bytes : List UInt8} {offset : Nat} (hstop : ¬ wordLimit < offset + bytes.length)
    (hadmits : data.length < offset + bytes.length →
      t.Admits a (t.used - data.length) (offset + bytes.length)) :
    write a i bytes offset t = .ok () (t.written i data locked bytes offset) := by
  by_cases hgrow : data.length < offset + bytes.length
  · have hgrown := node?_resized hi (offset + bytes.length) i
    rw [if_pos rfl] at hgrown
    have hlong : ¬ (data.resize (offset + bytes.length)).length < offset + bytes.length := by simp
    simp only [write, attempt_bind_apply, if_neg hstop, file_of_node? hi, if_pos hgrow,
      resize_of_admits ht hi hadmits, file_of_node? hgrown, if_neg hlong, put_apply]
    rw [written, reached, overwritten, if_pos hgrow, if_pos hgrow]
  · simp only [write, attempt_bind_apply, if_neg hstop, file_of_node? hi, if_neg hgrow, put_apply]
    rw [written, reached, overwritten, if_neg hgrow, if_neg hgrow]

theorem write_eq (ht : t.Accounted quota) (a : Allocator) (i : Inode) (bytes : List UInt8)
    (offset : Nat) :
    write a i bytes offset t = atomic (change fun t => t.write a i bytes offset) t := by
  by_cases hstop : wordLimit < offset + bytes.length
  · simp only [write, attempt_bind_apply, if_pos hstop, refuse_apply, atomic, change, Tree.write]
    rfl
  cases hdata : t.data i with
  | error e =>
    simp only [write, attempt_bind_apply, if_neg hstop, file_of_error hdata, atomic, change,
      Tree.write, hdata]
    rfl
  | ok data =>
    obtain ⟨locked, hi⟩ := data_ok_iff.1 hdata
    by_cases hadmits : data.length < offset + bytes.length →
        t.Admits a (t.used - data.length) (offset + bytes.length)
    · have hok : t.write a i bytes offset = .ok (t.written i data locked bytes offset) :=
        write_ok_iff.2 ⟨Nat.not_lt.1 hstop, data, locked, hi, hadmits, rfl⟩
      simp only [write_of_admits ht hi hstop hadmits, atomic, change, hok]
    · obtain ⟨hgrow, hrefused⟩ := Classical.not_imp.1 hadmits
      simp only [write, attempt_bind_apply, if_neg hstop, file_of_node? hi, if_pos hgrow,
        resize_of_refused ht hi hgrow hrefused]
      simp only [atomic, change, Tree.write, if_neg hstop, hdata, if_pos hgrow, bind, Except.bind,
        Tree.resize_of_refused hi hadmits]

theorem lock_eq (t : Tree) (i : Inode) : lock i t = atomic (change fun t => t.lock i) t := by
  cases hdata : t.data i with
  | error e =>
    simp only [lock, attempt_bind_apply, file_of_error hdata, atomic, change, Tree.lock]
    rw [Tree.data] at hdata
    split at hdata
    all_goals simp_all
  | ok data =>
    obtain ⟨locked, hi⟩ := data_ok_iff.1 hdata
    simp only [lock, attempt_bind_apply, file_of_node? hi, atomic, change, Tree.lock, hi]
    cases locked <;> rfl

/-! ### Checks before and answers after -/

/-- A check that comes before a change. -/
theorem ask_then_change {check : Except StorageError Unit} {x : InPlace Unit}
    {step : Tree → Except StorageError Tree} (hx : x t = atomic (change step) t) :
    (ask (fun _ => check) >>= fun _ => x) t =
      atomic (change fun t => check >>= fun _ => step t) t := by
  cases check with
  | ok u => exact hx
  | error e => rfl

theorem ask_then_changeWith {check : Except StorageError Unit} {x : InPlace α}
    {step : Tree → Except StorageError (α × Tree)} (hx : x t = atomic (changeWith step) t) :
    (ask (fun _ => check) >>= fun _ => x) t =
      atomic (changeWith fun t => check >>= fun _ => step t) t := by
  cases check with
  | ok u => exact hx
  | error e => rfl

/-- What is answered behind a change. -/
theorem change_then_answer {x : InPlace Unit} {step : Tree → Except StorageError Tree}
    (hx : x t = atomic (change step) t) (b : α) :
    (x >>= fun _ => pure b) t =
      atomic (changeWith fun t => step t >>= fun t' => pure (b, t')) t := by
  rw [attempt_bind_apply, hx]
  simp only [atomic, change, changeWith]
  cases step t <;> rfl

/-- What is read from an open file. -/
theorem ask_then_data (t : Tree) {check : Except StorageError Unit} (i : Inode)
    (answer : Content → α) :
    (ask (fun _ => check) >>= fun _ => file i >>= fun f => pure (answer f.1)) t =
      atomic (look fun t => check >>= fun _ => t.data i >>= fun data => pure (answer data)) t := by
  cases check with
  | error e => rfl
  | ok u =>
    change (file i >>= fun f => pure (answer f.1)) t =
      atomic (look fun t => t.data i >>= fun data => pure (answer data)) t
    cases hdata : t.data i with
    | error e =>
      simp only [attempt_bind_apply, file_of_error hdata, atomic, look, hdata]
      rfl
    | ok data =>
      obtain ⟨locked, hi⟩ := data_ok_iff.1 hdata
      simp only [attempt_bind_apply, file_of_node? hi, atomic, look, hdata]
      rfl

end InPlace

end Tree

namespace TreeCall

open EngineHost.Tree EngineHost.Storage

variable {t : Tree} {quota : UInt64}

/-- **A call in place is the call on the storage in memory**, on a tree whose count is exact. -/
theorem inPlace_eq (ht : t.Accounted quota) (a : Allocator) (c : TreeCall) :
    c.inPlace a t = InPlace.atomic (c.inMemory a) t := by
  cases c with
  | directory d name create =>
    exact InPlace.ask_then_changeWith (InPlace.lookupOrCreate_eq t d name create .directory)
  | file d name create =>
    exact InPlace.ask_then_changeWith (InPlace.lookupOrCreate_eq t d name create .file)
  | remove d name => exact InPlace.ask_then_change (InPlace.unlink_eq ht d name)
  | acquire f => exact InPlace.change_then_answer (InPlace.lock_eq t f) (⟨f, false⟩ : MemoryAccess)
  | read h count offset =>
    exact InPlace.ask_then_data t h.inode fun data =>
      Chunk.ofBytes (data.slice offset.toNat count)
  | write h bytes offset =>
    exact InPlace.ask_then_changeWith (InPlace.change_then_answer
      (InPlace.write_eq ht a h.inode bytes offset.toNat) bytes.length)
  | truncate h length =>
    exact InPlace.ask_then_change (InPlace.resize_eq ht a h.inode length.toNat)
  | flush h => rfl
  | size h => exact InPlace.ask_then_data t h.inode fun data => data.length
  | close h =>
    obtain ⟨i, closed⟩ := h
    cases closed <;> rfl

theorem failsClean_inMemory {a : Allocator} {c : TreeCall} {e : StorageError} {t' : Tree}
    (h : c.inMemory a t = .error e t') : t' = t := by
  cases c with
  | directory d name create => exact memory_failsClean a .directory h
  | file d name create => exact memory_failsClean a .file h
  | remove d name => exact memory_failsClean a .remove h
  | acquire f => exact memory_failsClean a .acquire h
  | read => exact memory_failsClean a .read h
  | write => exact memory_failsClean a .write h
  | truncate => exact memory_failsClean a .truncate h
  | flush => exact memory_failsClean a .flush h
  | size => exact memory_failsClean a .size h
  | close h' =>
    obtain ⟨i, closed⟩ := h'
    cases closed <;> cases h

/-! ### Calls one after another -/

/-- The tree that calls lead to, each made in place. -/
def runInPlace (quota : UInt64) (calls : List (Allocator × TreeCall)) : Tree :=
  calls.foldl (fun t c => stateAfter (c.2.inPlace c.1 t)) (.empty quota)

/-- The tree that calls lead to, each made on the storage in memory. -/
def runInMemory (quota : UInt64) (calls : List (Allocator × TreeCall)) : Tree :=
  calls.foldl (fun t c => stateAfter (c.2.inMemory c.1 t)) (.empty quota)

theorem steps_runInMemory (quota : UInt64) (calls : List (Allocator × TreeCall)) :
    Steps (.empty quota) (runInMemory quota calls) := by
  induction calls using List.reverseRecOn with
  | nil => exact .refl
  | append_singleton calls c ih =>
    rw [runInMemory, List.foldl_append]
    exact ih.trans (steps_inMemory c.1 c.2 _)

theorem accounted_runInMemory (quota : UInt64) (calls : List (Allocator × TreeCall)) :
    (runInMemory quota calls).Accounted quota :=
  Steps.keeps Step.accounted (steps_runInMemory quota calls) (accounted_empty quota)

theorem runInPlace_concat (quota : UInt64) (calls : List (Allocator × TreeCall)) (a : Allocator)
    (c : TreeCall) : runInPlace quota (calls ++ [(a, c)]) =
      stateAfter (c.inPlace a (runInPlace quota calls)) := by
  rw [runInPlace, List.foldl_append]
  rfl

/-- Calls in place lead to the same tree as on the storage in memory. -/
theorem runInPlace_eq (quota : UInt64) (calls : List (Allocator × TreeCall)) :
    runInPlace quota calls = runInMemory quota calls := by
  induction calls using List.reverseRecOn with
  | nil => rfl
  | append_singleton calls c ih =>
    calc runInPlace quota (calls ++ [c])
        = stateAfter (c.2.inPlace c.1 (runInPlace quota calls)) := runInPlace_concat ..
      _ = stateAfter (c.2.inMemory c.1 (runInMemory quota calls)) := by
          rw [ih, inPlace_eq (accounted_runInMemory quota calls), InPlace.stateAfter_atomic]
      _ = runInMemory quota (calls ++ [c]) := by
          rw [runInMemory, runInMemory, List.foldl_append]; rfl

theorem accounted_runInPlace (quota : UInt64) (calls : List (Allocator × TreeCall)) :
    (runInPlace quota calls).Accounted quota := by
  rw [runInPlace_eq]
  exact accounted_runInMemory quota calls

/-- The tree of a session is one that calls in place lead to. -/
theorem exists_runInPlace_eq (quota : UInt64) (calls : List (Allocator × Call)) :
    ∃ cs, runInPlace quota cs = ((Session.start quota).run calls).tree := by
  induction calls using List.reverseRecOn with
  | nil => exact ⟨[], rfl⟩
  | append_singleton calls x ih =>
    obtain ⟨cs, hcs⟩ := ih
    obtain ⟨a, c⟩ := x
    rw [Session.run_concat]
    rcases ((Session.start quota).run calls).tree_step a c with h | ⟨c', h⟩
    · exact ⟨cs, hcs.trans h.symm⟩
    · refine ⟨cs ++ [(a, c')], ?_⟩
      rw [runInPlace_concat, inPlace_eq (accounted_runInPlace quota cs), InPlace.stateAfter_atomic,
        hcs, h]

/-- **A call that fails changes nothing.**  Calls are made in place one after another, through any
handles: open or closed, on nodes that are there, that are gone or that never were.  They lead to
the tree that they lead to on the storage in memory, and from there, one more call

* ends in place as it does on the storage in memory,
* leaves the whole tree as it was if it fails: the nodes, the bytes and locks of files, the count of
  used bytes and the next number,
* and never breaks off: what fails in place fails with an error, and leaves the tree as it was too.

Every tree of a session is such a tree (`exists_runInPlace_eq`). -/
theorem run_unchanged (quota : UInt64) (calls : List (Allocator × TreeCall)) (a : Allocator)
    (c : TreeCall) :
    let t := runInPlace quota calls
    t = runInMemory quota calls ∧
    c.inPlace a t = InPlace.atomic (c.inMemory a) t ∧
    (∀ e t', c.inMemory a t = .error e t' → t' = t) ∧
    ∀ halt t', c.inPlace a t = .error halt t' → t' = t ∧ ∃ e, halt = .refused e := by
  intro t
  have heq := inPlace_eq (accounted_runInPlace quota calls) a c
  refine ⟨runInPlace_eq quota calls, heq, fun e t' h => failsClean_inMemory h, fun halt t' h => ?_⟩
  obtain ⟨e, rfl, herr⟩ := InPlace.atomic_error_iff.1 (heq ▸ h)
  exact ⟨failsClean_inMemory herr, e, rfl⟩

end TreeCall

end EngineHost
