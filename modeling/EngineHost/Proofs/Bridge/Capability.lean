import EngineHost.Proofs.Bridge.Descriptors
import EngineHost.Proofs.Bridge.Entry
import EngineHost.Proofs.Bridge.Matching
import EngineHost.Storage.Noted

/-!
# Whether there is a storage is decided once

A storage may answer differently each time it is asked for its root.  A bridge asks once, when it is
first probed, and goes by that answer from then on.  The calls that an operation makes are those
that the storage notes down (`BridgeOp.calls`); noting them changes nothing else
(`BridgeOp.perform_noted`).

* `BridgeOp.calls_subset_kinds` : an operation makes no calls but of its kinds.
* `Bridge.perform_of_unavailable` : without a root every operation fails, and makes no call.
* `Life.Decided.step` : every operation keeps to the answer to the first probe.
* `Life.run_capability` : all of it for a bridge over any storage, whatever it went through.
-/

namespace EngineHost

open Bridge

variable {σ α : Type} {S : Storage σ}

/-! ### Noting calls down -/

namespace Storage

/-- The calls that were noted down since are all of some kinds. -/
def Calls (kinds : List CallKind) (w w' : σ × List CallKind) : Prop :=
  ∃ more, w'.2 = w.2 ++ more ∧ ∀ kind ∈ more, kind ∈ kinds

variable {kinds : List CallKind} {kind : CallKind}

instance : Std.Refl (Calls (σ := σ) kinds) := ⟨fun _ => ⟨[], (List.append_nil _).symm, nofun⟩⟩

instance : IsTrans (σ × List CallKind) (Calls kinds) := by
  refine ⟨fun u v w huv hvw => ?_⟩
  obtain ⟨more, hv, hmore⟩ := huv
  obtain ⟨more', hw, hmore'⟩ := hvw
  refine ⟨more ++ more', by rw [hw, hv, List.append_assoc], fun kind hkind => ?_⟩
  exact (List.mem_append.1 hkind).elim (hmore kind) (hmore' kind)

theorem calls_concat (h : kind ∈ kinds) (s s' : σ) (calls : List CallKind) :
    Calls kinds (s, calls) (s', calls ++ [kind]) :=
  ⟨[kind], rfl, fun _ hmem => List.mem_singleton.1 hmem ▸ h⟩

theorem note_moves (h : kind ∈ kinds) (x : StorageM σ α) : Moves (Calls kinds) (note kind x) := by
  rintro ⟨s, calls⟩
  simp only [note]
  cases x s with
  | ok a s' => exact calls_concat h s s' calls
  | error e s' => exact calls_concat h s s' calls

/-- A call of a kind is noted down as one of that kind. -/
theorem noted_keeps (S : Storage σ) (h : kind ∈ kinds) : S.noted.Keeps (Calls kinds) kind := by
  cases kind with
  | root => exact note_moves h _
  | directory | file => exact fun d name create => note_moves h _
  | remove => exact fun d name => note_moves h _
  | acquire => exact fun f => note_moves h _
  | read => exact fun x count offset => note_moves h _
  | write => exact fun x data offset => note_moves h _
  | truncate => exact fun x size => note_moves h _
  | flush | size => exact fun x => note_moves h _
  | close => exact ⟨fun x s => calls_concat h _ _ _, fun x s => calls_concat h _ _ _⟩

/-- A call goes like itself when it is noted down. -/
theorem goAlike_note (kind : CallKind) (x : StorageM σ α) :
    GoAlike Eq Eq (fun s w => s = w.1) x (note kind x) := by
  rintro s ⟨_, calls⟩ rfl
  simp only [note]
  cases x s with
  | ok a s' => exact .ok rfl rfl
  | error e s' => exact .error rfl rfl

/-- A storage matches itself with its calls noted down. -/
def noting (S : Storage σ) : S.Match S.noted where
  State s w := s = w.1
  Directory := Eq
  File := Eq
  Access := Eq
  root := goAlike_note _ _
  directory := by rintro d _ name create rfl; exact goAlike_note _ _
  file := by rintro d _ name create rfl; exact goAlike_note _ _
  remove := by rintro d _ name rfl; exact goAlike_note _ _
  acquire := by rintro f _ rfl; exact goAlike_note _ _
  read := by rintro h _ count offset rfl; exact goAlike_note _ _
  write := by rintro h _ data offset rfl; exact goAlike_note _ _
  truncate := by rintro h _ size rfl; exact goAlike_note _ _
  flush := by rintro h _ rfl; exact goAlike_note _ _
  size := by rintro h _ rfl; exact goAlike_note _ _
  close := by rintro h _ s ⟨_, calls⟩ rfl rfl; exact ⟨rfl, rfl, rfl⟩
  release := by rintro h _ s ⟨_, calls⟩ rfl rfl; rfl

/-- Whether a storage answers with a root. -/
def hasRoot (S : Storage σ) (s : σ) : Bool :=
  match S.root s with
  | .ok .. => true
  | .error .. => false

end Storage

/-! ### The calls of an operation -/

/-- A bridge over the storage that notes its calls down. -/
def Bridge.noted (b : Bridge S) : Bridge S.noted := b.mapped (S := S) (T := S.noted) id id

namespace BridgeOp

/-- The calls that an operation makes, the first first. -/
def calls (op : BridgeOp) (b : Bridge S) (s : σ) : List CallKind :=
  (op.perform (b.noted, (s, []))).2.2.2

/-- Noting the calls down changes neither the answer nor what is done. -/
theorem perform_noted (op : BridgeOp) (b : Bridge S) (s : σ) :
    let r := op.perform (b, s)
    op.perform (b.noted, (s, [])) = (r.1, r.2.1.noted, (r.2.2, op.calls b s)) := by
  intro r
  obtain ⟨hanswer, hleft, hstate⟩ := perform_mapped (M := S.noting) (f := id) (g := id)
    eq_comm eq_comm op b (s := s) (t := (s, [])) rfl
  exact Prod.ext hanswer (Prod.ext hleft (Prod.ext hstate.symm rfl))

/-- **An operation makes no calls but of its kinds.** -/
theorem calls_subset_kinds (op : BridgeOp) (b : Bridge S) (s : σ) :
    ∀ kind ∈ op.calls b s, kind ∈ op.kinds := by
  obtain ⟨more, hmore, hkinds⟩ := op.perform_keeps (R := Storage.Calls op.kinds)
    (fun kind hkind => S.noted_keeps hkind) (b.noted, (s, []))
  have hcalls : op.calls b s = more := hmore
  rwa [hcalls]

theorem root_notMem_calls {op : BridgeOp} (hop : op ≠ .probe) (b : Bridge S) (s : σ) :
    .root ∉ op.calls b s := by
  intro hroot
  have hkinds := op.calls_subset_kinds b s _ hroot
  cases op with
  | probe => exact hop rfl
  | _ => simp [kinds] at hkinds

/-- Every operation but the probe is given a path or a descriptor. -/
theorem path?_or_descriptor? {op : BridgeOp} (hop : op ≠ .probe) :
    (∃ path, op.path? = some path) ∨ ∃ fd, op.descriptor? = some fd := by
  cases op with
  | probe => exact absurd rfl hop
  | openFile | delete | access => exact .inl ⟨_, rfl⟩
  | closeFile | read | write | truncate | sync | fileSize | lock | unlock => exact .inr ⟨_, rfl⟩

end BridgeOp

namespace Bridge

variable {b : Bridge S} {op : BridgeOp}

/-- **Without a root and open files every operation fails**, and does nothing. -/
theorem perform_of_unavailable (hroot : b.root = none) (hfiles : b.files = []) (hop : op ≠ .probe)
    (s : σ) : op.perform (b, s) = (-1, b, s) := by
  rcases BridgeOp.path?_or_descriptor? hop with ⟨path, hpath⟩ | ⟨fd, hfd⟩
  · obtain ⟨haccess, hdelete, hopen⟩ := refused_of_unavailable hroot path s
    cases op with
    | openFile _ flags => cases hpath; exact hopen flags
    | delete => cases hpath; exact hdelete
    | access => cases hpath; exact haccess
    | _ => cases hpath
  · have hnone : b.file? fd = none := by rw [file?, hfiles, List.lookup_nil]
    exact perform_of_none hnone hfd s

theorem calls_of_unavailable (hroot : b.root = none) (hfiles : b.files = []) (hop : op ≠ .probe)
    (s : σ) : op.calls b s = [] := by
  have hroot' : b.noted.root = none := congrArg (Option.map id) hroot
  have hfiles' : b.noted.files = [] := by simp only [noted, mapped, hfiles, List.map_nil]
  rw [BridgeOp.calls, perform_of_unavailable hroot' hfiles' hop]

/-- A bridge that was probed goes by what it knows. -/
theorem probe_of_probed (h : b.probed = true) (s : σ) :
    probe (b, s) = (b.isAvailable, b, s) ∧ BridgeOp.probe.calls b s = [] := by
  refine ⟨by simp only [probe, h, if_true], ?_⟩
  simp only [BridgeOp.calls, BridgeOp.perform, probe, noted, mapped, h, if_true]

/-- A bridge that was not probed asks its storage. -/
theorem probe_of_unprobed (h : b.probed = false) (hroot : b.root = none) (s : σ) :
    (probe (b, s)).1 = S.hasRoot s ∧ (probe (b, s)).2.1.probed = true ∧
      (probe (b, s)).2.1.isAvailable = S.hasRoot s ∧ BridgeOp.probe.calls b s = [.root] := by
  have hprobed : b.noted.probed = false := h
  simp only [BridgeOp.calls, BridgeOp.perform, probe, hprobed, h, Storage.hasRoot,
    Storage.noted, Storage.note]
  cases S.root s with
  | ok root s' => exact ⟨rfl, rfl, rfl, rfl⟩
  | error e s' =>
    refine ⟨rfl, rfl, ?_, rfl⟩
    simp [isAvailable, hroot]

end Bridge

/-! ### Lives -/

namespace Life

/-- The state that an operation finds the storage in, if the operation is the probe. -/
def probedIn? : BridgeOp × σ → Option σ
  | (.probe, s) => some s
  | _ => none

theorem probedIn?_of_ne {op : BridgeOp} (hop : op ≠ .probe) (s : σ) : probedIn? (op, s) = none := by
  cases op with
  | probe => exact absurd rfl hop
  | _ => rfl

/-- The state in which the first of some operations to probe finds the storage. -/
def firstProbe? (xs : List (BridgeOp × σ)) : Option σ := xs.findSome? probedIn?

theorem firstProbe?_cons (x : BridgeOp × σ) (xs : List (BridgeOp × σ)) :
    firstProbe? (x :: xs) = (probedIn? x).or (firstProbe? xs) := by
  rw [firstProbe?, List.findSome?_cons]
  cases probedIn? x <;> rfl

/-- The calls that operations one after another make. -/
def calls : Life S → List (BridgeOp × σ) → List CallKind
  | _, [] => []
  | l, x :: xs => x.1.calls l.bridge x.2 ++ (l.step x).calls xs

/-- A bridge goes by the answer to the first probe, if there was one; without a root it has no
file open. -/
structure Decided (first : Option σ) (b : Bridge S) : Prop where
  probed : b.probed = first.isSome
  available : b.isAvailable = first.any S.hasRoot
  files : b.root = none → b.files = []

variable {first : Option σ} {b : Bridge S} {l : Life S}

theorem decided_new : Decided none (new : Bridge S) := ⟨rfl, rfl, fun _ => rfl⟩

theorem Decided.root_of_none (h : Decided none b) : b.root = none := by
  have havailable := h.available
  rwa [isAvailable, Option.any_none, Option.isSome_eq_false_iff, Option.isNone_iff_eq_none]
    at havailable

/-- The first probe decides. -/
theorem Decided.probe (h : Decided none b) (s : σ) :
    Decided (some s) (BridgeOp.probe.perform (b, s)).2.1 := by
  obtain ⟨-, hprobed, havailable, -⟩ := probe_of_unprobed h.probed h.root_of_none s
  refine ⟨hprobed, havailable, fun _ => ?_⟩
  have hfiles : (BridgeOp.probe.perform (b, s)).2.1.files = b.files :=
    (probe_moves (S.keeps_anywhere .root) (b, s)).1.1
  rw [hfiles, h.files h.root_of_none]

/-- What is no probe keeps what was decided. -/
theorem Decided.other (h : Decided first b) {op : BridgeOp} (hop : op ≠ .probe) (s : σ) :
    Decided first (op.perform (b, s)).2.1 := by
  obtain ⟨hroot, hprobed⟩ := op.perform_root_of_ne hop (b, s)
  refine ⟨hprobed.trans h.probed, ?_, fun hnone => ?_⟩
  · rw [isAvailable, hroot]
    exact h.available
  · rw [hroot] at hnone
    rw [perform_of_unavailable hnone (h.files hnone) hop]
    exact h.files hnone

/-- **Every operation keeps to the answer to the first probe.** -/
theorem Decided.step (h : Decided first l.bridge) (x : BridgeOp × σ) :
    Decided (first.or (probedIn? x)) (l.step x).bridge := by
  obtain ⟨op, s⟩ := x
  by_cases hop : op = .probe
  · subst hop
    cases first with
    | none => exact h.probe s
    | some s₀ =>
      have hprobe := (probe_of_probed h.probed s).1
      change Decided _ (Bridge.probe (l.bridge, s)).2.1
      rw [hprobe]
      exact h
  · rw [probedIn?_of_ne hop, Option.or_none]
    exact h.other hop s

theorem Decided.run (h : Decided first l.bridge) (xs : List (BridgeOp × σ)) :
    Decided (first.or (firstProbe? xs)) (l.run xs).bridge := by
  induction xs generalizing first l with
  | nil =>
    rw [firstProbe?, List.findSome?_nil, Option.or_none]
    exact h
  | cons x xs ih =>
    rw [firstProbe?_cons, ← Option.or_assoc]
    exact ih (h.step x)

/-- Only the first probe asks for the root. -/
theorem Decided.root_mem_calls_iff (h : Decided first b) (op : BridgeOp) (s : σ) :
    .root ∈ op.calls b s ↔ op = .probe ∧ first = none := by
  by_cases hop : op = .probe
  · subst hop
    cases first with
    | none =>
      rw [(probe_of_unprobed h.probed h.root_of_none s).2.2.2]
      exact iff_of_true (List.mem_singleton.2 rfl) ⟨rfl, rfl⟩
    | some s₀ =>
      rw [(probe_of_probed h.probed s).2]
      exact iff_of_false List.not_mem_nil fun h => absurd h.2 nofun
  · exact iff_of_false (BridgeOp.root_notMem_calls hop b s) fun h => hop h.1

theorem Decided.count_root_calls (h : Decided first b) (x : BridgeOp × σ) :
    (x.1.calls b x.2).count .root = if first.isNone && (probedIn? x).isSome then 1 else 0 := by
  obtain ⟨op, s⟩ := x
  by_cases hop : op = .probe
  · subst hop
    cases first with
    | none =>
      rw [(probe_of_unprobed h.probed h.root_of_none s).2.2.2]
      rfl
    | some s₀ =>
      rw [(probe_of_probed h.probed s).2]
      rfl
  · rw [probedIn?_of_ne hop, List.count_eq_zero.2 (BridgeOp.root_notMem_calls hop b s),
      Option.isSome_none, Bool.and_false]
    rfl

/-- **The root is asked for once**, if there is a probe. -/
theorem Decided.count_root (h : Decided first l.bridge) (xs : List (BridgeOp × σ)) :
    (l.calls xs).count .root = if first.isNone && (firstProbe? xs).isSome then 1 else 0 := by
  induction xs generalizing first l with
  | nil =>
    rw [firstProbe?, List.findSome?_nil, Option.isSome_none, Bool.and_false]
    rfl
  | cons x xs ih =>
    rw [calls, List.count_append, h.count_root_calls, ih (h.step x), firstProbe?_cons]
    cases first with
    | some s => rfl
    | none => cases probedIn? x <;> simp

/-- **Whether there is a storage is decided once**, whatever a storage answers when, and whatever
the bridge went through.

* The storage is available just when it answered the first probe with a root; before there was a
  probe it is not.
* Among all calls of the operations there is one for the root if there was a probe, and none
  otherwise.  The first probe makes it, and no call besides.
* Every later probe answers what the first one found, makes no call and changes nothing.
* While there is no storage, no file is open, and every operation but the probe answers `-1`,
  changes nothing and makes no call of any kind.
* The calls are those that a storage notes down that is otherwise the same.
-/
theorem run_capability (S : Storage σ) (xs : List (BridgeOp × σ)) :
    let b := (start.run xs : Life S).bridge
    b.isAvailable = (firstProbe? xs).any S.hasRoot ∧
    ((start : Life S).calls xs).count .root = (if (firstProbe? xs).isSome then 1 else 0) ∧
    (∀ (op : BridgeOp) s, .root ∈ op.calls b s ↔ op = .probe ∧ firstProbe? xs = none) ∧
    (firstProbe? xs = none → ∀ s,
      let r := Bridge.probe (b, s)
      r.1 = S.hasRoot s ∧ r.2.1.isAvailable = r.1 ∧ BridgeOp.probe.calls b s = [.root]) ∧
    (∀ s₀, firstProbe? xs = some s₀ → ∀ s,
      Bridge.probe (b, s) = (S.hasRoot s₀, b, s) ∧ BridgeOp.probe.calls b s = []) ∧
    (b.isAvailable = false → b.files = [] ∧ ∀ (op : BridgeOp) s, op ≠ .probe →
      op.perform (b, s) = (-1, b, s) ∧ op.calls b s = []) ∧
    ∀ (op : BridgeOp) s,
      let r := op.perform (b, s)
      op.perform (b.noted, (s, [])) = (r.1, r.2.1.noted, (r.2.2, op.calls b s)) := by
  intro b
  have hnew : Decided none (start : Life S).bridge := decided_new
  have hb : Decided (firstProbe? xs) b := hnew.run xs
  refine ⟨hb.available, hnew.count_root xs, hb.root_mem_calls_iff, fun hnone s => ?_,
    fun s₀ hsome s => ?_, fun hunavailable => ?_, fun op s => op.perform_noted b s⟩
  · rw [hnone] at hb
    obtain ⟨hanswer, -, havailable, hcalls⟩ := probe_of_unprobed hb.probed hb.root_of_none s
    exact ⟨hanswer, havailable.trans hanswer.symm, hcalls⟩
  · rw [hsome] at hb
    obtain ⟨hprobe, hcalls⟩ := probe_of_probed hb.probed s
    rw [hprobe, hb.available]
    exact ⟨rfl, hcalls⟩
  · have hroot : b.root = none := Option.isNone_iff_eq_none.1 (Option.isSome_eq_false_iff.1
      hunavailable)
    exact ⟨hb.files hroot, fun op s hop => ⟨perform_of_unavailable hroot (hb.files hroot) hop s,
      calls_of_unavailable hroot (hb.files hroot) hop s⟩⟩

end Life

end EngineHost
