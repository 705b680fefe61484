import EngineHost.Proofs.Bridge.InMemory
import EngineHost.Proofs.Bridge.Matching
import EngineHost.Proofs.Bridge.Statuses
import EngineHost.Proofs.Tree.Altered

/-!
# Operations on different files

Operations on the files of two descriptors share the table of the bridge, if it is the same one,
and the nodes and the count of used bytes of the tree.  Over the storage in memory they commute all
the same, as long as no call answers that the quota is exceeded.

* `BridgeOp.reply_memory` : an operation on an open file, told by the bytes of this file alone.
* `Fleet.after` : what it leaves, a change of one descriptor and one file (`Fleet.after_comm`).
* `Fleet.run_commute` : both orders of two operations give the same replies and lead to the same
  fleet.

Files behind different descriptors are different because each is held by one of them only.  The
quota is the one thing that both operations ask for: which of them is refused can depend on the
order, and so a refusal is left out.
-/

namespace EngineHost

open Bridge EngineHost.Storage EngineHost.Tree
open Storage (Holding)

variable {σ : Type} {S : Storage σ} {a : Allocator}

namespace BridgeOp

/-! ### Operations told by one file -/

/-- What is replied over the bytes of the file. -/
def said : BridgeOp → Content → Int × List UInt8
  | read _ buffer offset, data =>
    let found := data.toList.extract offset.toNat
      (min (offset.toNat + buffer.length) data.toList.length)
    (Status.ofCount found.length, found ++ buffer.drop found.length)
  | write _ bytes _, _ => (Status.ofCount bytes.length, [])
  | fileSize _, data => (Status.ofSize data.toList.length, [])
  | _, _ => (Status.ok, [])

/-- The bytes of the file afterwards. -/
def edited : BridgeOp → Content → Content
  | write _ bytes offset, data => overwritten data bytes offset.toNat
  | truncate _ size, data => data.resize size.toNat
  | _, data => data

/-- Whether the file stays open, and so locked. -/
def keepsOpen : BridgeOp → Bool
  | closeFile _ => false
  | _ => true

/-- The bridge afterwards. -/
def trimmed : BridgeOp → Bridge S → Bridge S
  | closeFile fd, b => b.left fd
  | _, b => b

variable {op op' : BridgeOp} {fd fd' : Int}

theorem file?_trimmed (hop : op.descriptor? = some fd) (hne : fd' ≠ fd) (b : Bridge S) :
    (op.trimmed b).file? fd' = b.file? fd' := by
  cases op with
  | closeFile =>
    cases hop
    rw [trimmed, file?_left, if_neg hne]
  | _ => rfl

theorem trimmed_comm (op op' : BridgeOp) (b : Bridge S) :
    op'.trimmed (op.trimmed b) = op.trimmed (op'.trimmed b) := by
  cases op with
  | closeFile fd =>
    cases op' with
    | closeFile fd' => simp only [trimmed, left, List.filter_filter, Bool.and_comm]
    | _ => rfl
  | _ => rfl

variable {b : Bridge (memory a)} {file : OpenFile (memory a)} {t : Tree} {quota : UInt64}
  {data : Content}

/-- **An operation on an open file is told by the bytes of this file**, unless the quota is
exceeded. -/
theorem reply_memory (hop : op.descriptor? = some fd) (hfd : b.file? fd = some file)
    (hopen : MemoryAccess.closed file.handle = false) (ht : t.Accounted quota)
    (hi : t.node? (MemoryAccess.inode file.handle) = some (.file data true))
    (hquota : ∀ n t', ¬ op.Failed (S := memory a) file.handle .quotaExceeded t n t') :
    op.reply (b, t) = (op.said data, op.trimmed b,
      t.altered (MemoryAccess.inode file.handle) (op.edited data) op.keepsOpen) := by
  have hself := ht.altered_self hi
  have hl := bytes?_of_file hi
  cases op with
  | probe | openFile | delete | access => cases hop
  | closeFile =>
    cases hop
    simp only [reply, perform, closeFile_memory hfd hopen, said, trimmed, edited, keepsOpen,
      ← unlock_eq_altered ht hi]
  | read fd buffer offset =>
    cases hop
    simp only [reply, read_memory hfd hopen hl, said, trimmed, edited, keepsOpen, hself]
  | write fd bytes offset =>
    cases hop
    simp only [reply, perform, write_memory hfd hopen]
    cases hw : (memory a).write file.handle bytes offset t with
    | ok n t' =>
      obtain ⟨-, hwrite, rfl⟩ := memory_write_ok_iff.1 hw
      obtain ⟨-, data', locked, hi', -, rfl⟩ := write_ok_iff.1 hwrite
      obtain ⟨rfl, rfl⟩ := file_unique hi hi'
      simp only [said, trimmed, edited, keepsOpen, written_eq_altered ht hi]
    | error e t' =>
      obtain rfl := memory_write_error hopen hi hw
      exact absurd (.write hw) (hquota _ _)
  | truncate fd size =>
    cases hop
    simp only [reply, perform, truncate_memory hfd hopen]
    cases hr : (memory a).truncate file.handle size t with
    | ok u t' =>
      obtain ⟨-, hresize⟩ := memory_truncate_ok_iff.1 hr
      obtain ⟨data', locked, hi', -, rfl⟩ := resize_ok_iff.1 hresize
      obtain ⟨rfl, rfl⟩ := file_unique hi hi'
      simp only [said, trimmed, edited, keepsOpen, resized_eq_altered hi]
    | error e t' =>
      obtain rfl := memory_truncate_error hopen hi hr
      exact absurd (.truncate hr) (hquota _ _)
  | sync fd =>
    cases hop
    simp only [reply, perform, sync_memory hfd hopen, said, trimmed, edited, keepsOpen, hself]
  | fileSize fd =>
    cases hop
    simp only [reply, perform, fileSize_memory hfd hopen hl, said, trimmed, edited, keepsOpen,
      hself]
  | lock fd level | unlock fd level =>
    cases hop
    simp only [reply, perform, Bridge.lock, Bridge.unlock, answer, requireFile, hfd, said, trimmed,
      edited, keepsOpen, hself]

end BridgeOp

/-! ### Fleets -/

namespace Fleet

/-- A call that is made in a step answers that the quota is exceeded. -/
def Exceeds (f : Fleet S) : FleetOp → Prop
  | .act k op => ∃ b fd file n s', f.bridges k = some b ∧ op.descriptor? = some fd ∧
      b.file? fd = some file ∧ op.Failed file.handle .quotaExceeded f.store n s'
  | _ => False

/-- A step that answers a number that is not negative made no call that was refused. -/
theorem not_exceeds {f : Fleet S} {x : FleetOp} {n : Int}
    (htold : (f.told x).map Prod.fst = some n) (hn : 0 ≤ n) : ¬ f.Exceeds x := by
  intro h
  cases x with
  | create | drop => exact h
  | act k op =>
    obtain ⟨b, fd, file, m, s', hb, hop, hfd, hfailed⟩ := h
    have hbytes : op.bytesOf? = some fd := by
      rw [← hop]
      cases hfailed <;> rfl
    obtain ⟨n', s'', hperform, hend⟩ := BridgeOp.served_or_failed hfd hbytes f.store
    rw [told, act_of_bridge hb] at htold
    rw [op.perform_eq_reply] at hperform
    obtain rfl : n' = n := (congrArg Prod.fst hperform).symm.trans (Option.some.inj htold)
    rcases hend with hserved | ⟨e, hfailed'⟩
    · exact hserved.not_failed hfailed
    · exact absurd hfailed'.neg (Int.not_lt.2 hn)

/-- What is in a place is changed, if there is something. -/
def changeAt {β : Type} (places : Nat → Option β) (k : Nat) (g : β → β) : Nat → Option β :=
  Function.update places k ((places k).map g)

theorem changeAt_comm {β : Type} {g g' : β → β} (h : ∀ x, g' (g x) = g (g' x))
    {places : Nat → Option β} (k j : Nat) :
    changeAt (changeAt places k g) j g' = changeAt (changeAt places j g') k g := by
  unfold changeAt
  by_cases hk : k = j
  · subst hk
    simp only [Function.update_self, Function.update_idem, Option.map_map]
    congr 2
    exact funext h
  · rw [Function.update_of_ne (Ne.symm hk), Function.update_of_ne hk, Function.update_comm hk]

/-- The fleet after an operation on a file that is open. -/
def after (f : Fleet (memory a)) (k : Nat) (op : BridgeOp) (i : Inode) (data : Content) :
    Fleet (memory a) where
  bridges := changeAt f.bridges k op.trimmed
  store := f.store.altered i (op.edited data) op.keepsOpen

variable {f : Fleet (memory a)} {quota : UInt64} {k₁ k₂ : Nat} {fd₁ fd₂ : Int}
  {op₁ op₂ : BridgeOp} {i₁ i₂ : Inode} {data₁ data₂ : Content}

/-- What two operations leave does not depend on their order. -/
theorem after_comm (ht : f.store.Accounted quota) (hne : i₁ ≠ i₂)
    (hi₁ : f.store.node? i₁ = some (.file data₁ true))
    (hi₂ : f.store.node? i₂ = some (.file data₂ true)) :
    (f.after k₁ op₁ i₁ data₁).after k₂ op₂ i₂ data₂ =
      (f.after k₂ op₂ i₂ data₂).after k₁ op₁ i₁ data₁ :=
  congrArg₂ Fleet.mk (changeAt_comm (BridgeOp.trimmed_comm op₁ op₂) k₁ k₂)
    (ht.altered_comm hne hi₁ hi₂)

/-- Different descriptors stand for different files. -/
theorem Ready.inode_ne (hf : f.Ready) (hne : (k₁, fd₁) ≠ (k₂, fd₂))
    (hbehind₁ : f.behind (Holding.memory a) (k₁, fd₁) = some i₁)
    (hbehind₂ : f.behind (Holding.memory a) (k₂, fd₂) = some i₂) : i₁ ≠ i₂ := by
  rintro rfl
  exact hne (hf.sound.exclusive.unique hbehind₁ hbehind₂)

/-- The files behind other descriptors are the same. -/
theorem behind_after (hop : op₁.descriptor? = some fd₁) (hne : (k₁, fd₁) ≠ (k₂, fd₂)) :
    (f.after k₁ op₁ i₁ data₁).behind (Holding.memory a) (k₂, fd₂) =
      f.behind (Holding.memory a) (k₂, fd₂) := by
  unfold behind file? after changeAt
  dsimp only
  rw [Function.update_apply]
  split_ifs with hk
  · subst hk
    have hfd : fd₂ ≠ fd₁ := fun h => hne (by rw [h])
    cases f.bridges k₂ with
    | none => rfl
    | some b =>
      rw [Option.map_some, Option.bind_some, Option.bind_some, BridgeOp.file?_trimmed hop hfd]
  · rfl

/-- **An operation on an open file changes this file and its descriptor only**, and its reply is
told by the bytes of the file. -/
theorem Ready.told_and_step (hf : f.Ready) (ht : f.store.Accounted quota)
    (hbehind : f.behind (Holding.memory a) (k₁, fd₁) = some i₁)
    (hi : f.store.node? i₁ = some (.file data₁ true)) (hop : op₁.descriptor? = some fd₁)
    (hquota : ¬ f.Exceeds (.act k₁ op₁)) :
    f.told (.act k₁ op₁) = some (op₁.said data₁) ∧
      f.step (.act k₁ op₁) = f.after k₁ op₁ i₁ data₁ := by
  obtain ⟨b, file, -, hb, hfd, hopen, rfl, -⟩ := hf.file hbehind
  have hreply := BridgeOp.reply_memory hop hfd hopen ht hi fun n t' hfailed =>
    hquota ⟨b, fd₁, file, n, t', hb, hop, hfd, hfailed⟩
  refine ⟨?_, ?_⟩
  · rw [told, act_of_bridge hb, hreply]
    rfl
  · rw [step_act hb, op₁.perform_eq_reply, hreply, put, after, changeAt, hb]
    rfl

/-- After an operation on another file, an operation is answered as it would have been before. -/
theorem Ready.told_and_step_after (hf : f.Ready) (ht : f.store.Accounted quota)
    (hne : (k₁, fd₁) ≠ (k₂, fd₂)) (hbehind₁ : f.behind (Holding.memory a) (k₁, fd₁) = some i₁)
    (hbehind₂ : f.behind (Holding.memory a) (k₂, fd₂) = some i₂)
    (hi₁ : f.store.node? i₁ = some (.file data₁ true))
    (hi₂ : f.store.node? i₂ = some (.file data₂ true)) (hop₁ : op₁.descriptor? = some fd₁)
    (hop₂ : op₂.descriptor? = some fd₂) (hquota₁ : ¬ f.Exceeds (.act k₁ op₁))
    (hquota₂ : ¬ (f.step (.act k₁ op₁)).Exceeds (.act k₂ op₂)) :
    (f.step (.act k₁ op₁)).told (.act k₂ op₂) = some (op₂.said data₂) ∧
      (f.step (.act k₁ op₁)).step (.act k₂ op₂) =
        (f.after k₁ op₁ i₁ data₁).after k₂ op₂ i₂ data₂ := by
  have hready := hf.step (.act k₁ op₁)
  have haccounted : (f.step (.act k₁ op₁)).store.Accounted quota :=
    (step_keeps (memory_keeps a) f (.act k₁ op₁)).keeps Step.accounted ht
  rw [(hf.told_and_step ht hbehind₁ hi₁ hop₁ hquota₁).2] at hready haccounted hquota₂ ⊢
  have hi : i₂ ≠ i₁ := (hf.inode_ne hne hbehind₁ hbehind₂).symm
  refine hready.told_and_step haccounted ?_ ?_ hop₂ hquota₂
  · rw [behind_after hop₁ hne, hbehind₂]
  · rw [after, node?_altered hi₁, if_neg hi, hi₂]

/-- The file of a descriptor that is mapped is there, and locked. -/
theorem Ready.behind_of_file? (hf : f.Ready) {k : Nat} {fd : Int} (h : (f.file? k fd).isSome) :
    ∃ i data, f.behind (Holding.memory a) (k, fd) = some i ∧
      f.store.node? i = some (.file data true) := by
  obtain ⟨file, hfile⟩ := Option.isSome_iff_exists.1 h
  have hbehind : f.behind (Holding.memory a) (k, fd) = some (MemoryAccess.inode file.handle) := by
    rw [behind, hfile]
    rfl
  obtain ⟨data, hdata⟩ : MemoryAccess.inode file.handle ∈ f.store.locked :=
    (hf.sound.exclusive.held_iff _).2 ⟨(k, fd), hbehind⟩
  exact ⟨_, data, hbehind, hdata⟩

/-- **Operations on different files commute.**  Two operations are made through different
descriptors, of one bridge or of two, whatever the bridges over a storage in memory went through.
Unless a call answers that the quota is exceeded, both orders give the same replies, statuses and
bytes, and lead to the same tree and the same bridges. -/
theorem run_commute (a : Allocator) (quota : UInt64) (ops : List FleetOp) {k₁ k₂ : Nat}
    {fd₁ fd₂ : Int} {op₁ op₂ : BridgeOp} (hne : (k₁, fd₁) ≠ (k₂, fd₂))
    (hop₁ : op₁.descriptor? = some fd₁) (hop₂ : op₂.descriptor? = some fd₂) :
    let f := (start (Tree.empty quota) : Fleet (memory a)).run ops
    let x₁ := FleetOp.act k₁ op₁
    let x₂ := FleetOp.act k₂ op₂
    (f.file? k₁ fd₁).isSome → (f.file? k₂ fd₂).isSome →
    ¬ f.Exceeds x₁ → ¬ (f.step x₁).Exceeds x₂ → ¬ f.Exceeds x₂ → ¬ (f.step x₂).Exceeds x₁ →
    (∃ r₁ r₂, f.told x₁ = some r₁ ∧ (f.step x₁).told x₂ = some r₂ ∧
      f.told x₂ = some r₂ ∧ (f.step x₂).told x₁ = some r₁) ∧
    (f.step x₁).step x₂ = (f.step x₂).step x₁ := by
  intro f x₁ x₂ hfile₁ hfile₂ hquota₁ hquota₁₂ hquota₂ hquota₂₁
  have hf : f.Ready := ready_run a quota ops
  have ht : f.store.Accounted quota := accounted_run a quota ops
  obtain ⟨i₁, data₁, hbehind₁, hi₁⟩ := hf.behind_of_file? hfile₁
  obtain ⟨i₂, data₂, hbehind₂, hi₂⟩ := hf.behind_of_file? hfile₂
  have hi : i₁ ≠ i₂ := hf.inode_ne hne hbehind₁ hbehind₂
  obtain ⟨htold₁, -⟩ := hf.told_and_step ht hbehind₁ hi₁ hop₁ hquota₁
  obtain ⟨htold₂, -⟩ := hf.told_and_step ht hbehind₂ hi₂ hop₂ hquota₂
  obtain ⟨htold₁₂, hstep₁₂⟩ :=
    hf.told_and_step_after ht hne hbehind₁ hbehind₂ hi₁ hi₂ hop₁ hop₂ hquota₁ hquota₁₂
  obtain ⟨htold₂₁, hstep₂₁⟩ :=
    hf.told_and_step_after ht (Ne.symm hne) hbehind₂ hbehind₁ hi₂ hi₁ hop₂ hop₁ hquota₂ hquota₂₁
  refine ⟨⟨_, _, htold₁, htold₁₂, htold₂, htold₂₁⟩, ?_⟩
  rw [hstep₁₂, hstep₂₁, after_comm ht hi hi₁ hi₂]

/-- A file is written to and another one of the same bridge is made shorter, in a tree that the
bytes written fill. -/
theorem run_commute_filling :
    let f : Fleet (memory .addressSpace) := (start (Tree.empty 6)).run
      [.create 0, .act 0 .probe, .act 0 (.openFile "f" 1), .act 0 (.openFile "g" 1),
        .act 0 (.write 2 [1, 2, 3] 0)]
    let x₁ := FleetOp.act 0 (.write 1 [7, 8] 1)
    let x₂ := FleetOp.act 0 (.truncate 2 1)
    (((0 : Nat), (1 : Int)) ≠ (0, 2) ∧ (f.file? 0 1).isSome ∧ (f.file? 0 2).isSome) ∧
    (¬ f.Exceeds x₁ ∧ ¬ (f.step x₁).Exceeds x₂ ∧ ¬ f.Exceeds x₂ ∧ ¬ (f.step x₂).Exceeds x₁) ∧
    (f.step x₁).store.used = 6 ∧ (f.step x₁).step x₂ = (f.step x₂).step x₁ := by
  intro f x₁ x₂
  have hne : ((0 : Nat), (1 : Int)) ≠ (0, 2) := by decide
  have hfile₁ : (f.file? 0 1).isSome := by decide +kernel
  have hfile₂ : (f.file? 0 2).isSome := by decide +kernel
  have hquota₁ : ¬ f.Exceeds x₁ := not_exceeds (n := 2) (by decide +kernel) (by decide)
  have hquota₁₂ : ¬ (f.step x₁).Exceeds x₂ := not_exceeds (n := 0) (by decide +kernel) (by decide)
  have hquota₂ : ¬ f.Exceeds x₂ := not_exceeds (n := 0) (by decide +kernel) (by decide)
  have hquota₂₁ : ¬ (f.step x₂).Exceeds x₁ := not_exceeds (n := 2) (by decide +kernel) (by decide)
  have hused : (f.step x₁).store.used = 6 := by decide +kernel
  obtain ⟨-, hsame⟩ := run_commute .addressSpace 6 _ hne rfl rfl hfile₁ hfile₂ hquota₁ hquota₁₂
    hquota₂ hquota₂₁
  exact ⟨⟨hne, hfile₁, hfile₂⟩, ⟨hquota₁, hquota₁₂, hquota₂, hquota₂₁⟩, hused, hsame⟩

end Fleet

end EngineHost
