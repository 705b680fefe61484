import EngineHost.Proofs.Bridge.Fleet
import Mathlib.Data.List.Pairwise

/-!
# Descriptors are given out once

The life of one bridge over any storage.  Each of its operations finds the storage in some state:
others may use the storage in between, and any call may fail in any way.

* `Bridge.Turn` : what an operation answers, and what it does to the table of open files and to the
  number that comes next.
* `Life.Sound.step` : every operation keeps the numbers given out so far in step with the table: they
  are those from 1 up to the next one, and those that are open are those not closed since.
* `Life.run_descriptors` : hence a descriptor is never given out twice, and one that was closed
  answers nothing but `-1` from then on.
-/

namespace EngineHost

open Bridge

variable {σ : Type} {S : Storage σ}

/-- The descriptor that an operation is made on. -/
def BridgeOp.descriptor? : BridgeOp → Option Int
  | closeFile fd | read fd .. | write fd .. | truncate fd _ | sync fd | fileSize fd
  | lock fd _ | unlock fd _ => some fd
  | probe | openFile .. | delete _ | access _ => none

/-! ### Histories -/

/-- What was asked of a bridge and what it answered, the first first. -/
abbrev History := List (BridgeOp × Int)

namespace History

/-- The descriptor that was given out, if a file was opened. -/
def given? : BridgeOp × Int → Option Int
  | (.openFile .., n) => if 0 < n then some n else none
  | _ => none

/-- The descriptors that were given out, the first first. -/
def issued (h : History) : List Int := h.filterMap given?

/-- A descriptor was given out and closed since. -/
def Closed (h : History) (fd : Int) : Prop :=
  ∃ (before after : History) (n : Int),
    h = before ++ (.closeFile fd, n) :: after ∧ fd ∈ before.issued

variable {h : History} {e : BridgeOp × Int} {fd : Int}

theorem issued_concat (h : History) (e : BridgeOp × Int) :
    (h ++ [e]).issued = h.issued ++ (given? e).toList := by
  rw [issued, issued, List.filterMap_append]
  cases he : given? e <;> simp [he]

/-- Only what was given out is closed. -/
theorem Closed.mem_issued (hc : h.Closed fd) : fd ∈ h.issued := by
  obtain ⟨before, after, n, rfl, hfd⟩ := hc
  rw [issued, List.filterMap_append]
  exact List.mem_append_left _ hfd

theorem closed_concat_iff :
    (h ++ [e]).Closed fd ↔ h.Closed fd ∨ (∃ n, e = (.closeFile fd, n)) ∧ fd ∈ h.issued := by
  constructor
  · rintro ⟨before, after, n, heq, hfd⟩
    rcases List.eq_nil_or_concat' after with rfl | ⟨rest, last, rfl⟩
    · obtain ⟨rfl, hlast⟩ := List.append_inj' heq rfl
      exact .inr ⟨⟨n, List.head_eq_of_cons_eq hlast⟩, hfd⟩
    · rw [← List.cons_append, ← List.append_assoc] at heq
      exact .inl ⟨before, rest, n, List.append_inj_left' heq rfl, hfd⟩
  · rintro (⟨before, after, n, rfl, hfd⟩ | ⟨⟨n, rfl⟩, hfd⟩)
    · exact ⟨before, after ++ [e], n, by simp, hfd⟩
    · exact ⟨h, [], n, rfl, hfd⟩

end History

/-! ### One operation -/

namespace Bridge

/-- What an operation of a bridge answers and what it makes of the table of open files. -/
inductive Turn (b : Bridge S) : BridgeOp → Int → Bridge S → Prop
  /-- A file is opened, under the next number. -/
  | opened {path : String} {flags : Int32} (file : OpenFile S) : b.nextFd < lastFd →
      Turn b (.openFile path flags) b.nextFd (b.entered file)
  /-- No file is opened. -/
  | refused {path : String} {flags : Int32} {n : Int} : n < 0 → Turn b (.openFile path flags) n b
  /-- An open file is closed, whatever the storage answers. -/
  | closed {fd n : Int} {file : OpenFile S} : b.file? fd = some file → n = 0 ∨ n = -1 →
      Turn b (.closeFile fd) n (b.left fd)
  /-- No file is opened and no open file is closed. -/
  | other {op : BridgeOp} {n : Int} {b' : Bridge S} : (∀ path flags, op ≠ .openFile path flags) →
      (∀ fd, op = .closeFile fd → b.file? fd = none) → b'.files = b.files →
      b'.nextFd = b.nextFd → Turn b op n b'

variable {b : Bridge S} {fd : Int}

/-- A file that is open is closed, and closing answers `0` or `-1`. -/
theorem closeFile_fst {file : OpenFile S} (h : b.file? fd = some file) (s : σ) :
    (closeFile fd (b, s)).1 = 0 ∨ (closeFile fd (b, s)).1 = -1 := by
  simp only [closeFile, h]
  cases (S.close file.handle s).1 with
  | ok u => exact .inl rfl
  | error e => exact .inr rfl

/-- An open answers the next number and enters a file under it, or it fails and leaves the bridge
as it is. -/
theorem openFile_turn (path : String) (flags : Int32) (b : Bridge S) (s : σ) :
    Turn b (.openFile path flags) (openFile path flags (b, s)).1 (openFile path flags (b, s)).2.1 := by
  have hopened := tryOpen_opened path (.ofWord flags) b s
  unfold openFile
  cases hr : tryOpen path (.ofWord flags) (b, s) with
  | ok fd w =>
    rw [hr] at hopened
    rw [answer_of_ok hr]
    cases hopened with
    | entered _ _ _ hfd => exact .opened _ hfd
  | error e w =>
    rw [hr] at hopened
    rw [answer_of_error hr]
    have hneg := e.status_neg
    cases hopened <;> exact .refused hneg

theorem perform_turn (op : BridgeOp) (b : Bridge S) (s : σ) :
    Turn b op (op.perform (b, s)).1 (op.perform (b, s)).2.1 := by
  by_cases hop : op.isQuiet = true
  · obtain ⟨⟨hfiles, hnext⟩, -⟩ :=
      op.perform_quiet hop (fun kind _ => S.keeps_anywhere kind) (b, s)
    refine .other (fun path flags h => ?_) (fun fd h => ?_) hfiles hnext
    · rw [h] at hop
      cases hop
    · rw [h] at hop
      cases hop
  · cases op with
    | openFile path flags => exact openFile_turn path flags b s
    | closeFile fd =>
      change Turn b _ (closeFile fd (b, s)).1 (closeFile fd (b, s)).2.1
      cases hfd : b.file? fd with
      | none =>
        rw [closeFile_none hfd]
        refine .other nofun (fun fd' h => ?_) rfl rfl
        cases h
        exact hfd
      | some file =>
        rw [closeFile_snd hfd]
        exact .closed hfd (closeFile_fst hfd s)
    | _ => exact absurd rfl hop

/-- **A descriptor that is not open answers `-1`**, whatever is asked of it, and neither the bridge
nor the storage is touched. -/
theorem perform_of_none (h : b.file? fd = none) {op : BridgeOp} (hop : op.descriptor? = some fd)
    (s : σ) : op.perform (b, s) = (-1, b, s) := by
  have hrequire : requireFile fd (b, s) = .error (.badDescriptor fd) (b, s) := by
    simp only [requireFile, h]
  cases op with
  | probe | openFile | delete | access => cases hop
  | closeFile =>
    cases hop
    exact closeFile_none h s
  | read | write | truncate | sync | fileSize | lock | unlock =>
    cases hop
    simp only [BridgeOp.perform, Bridge.read, Bridge.write, Bridge.truncate, Bridge.sync,
      Bridge.fileSize, Bridge.lock, Bridge.unlock, answer, bind, EStateM.bind, hrequire]
    rfl

/-- Without a number left, every open fails. -/
theorem openFile_of_last (hlast : b.nextFd = lastFd) (path : String) (flags : Int32) (s : σ) :
    let r := openFile path flags (b, s)
    r.1 < 0 ∧ r.2.1.nextFd = lastFd := by
  intro r
  have hturn : Turn b _ r.1 r.2.1 := openFile_turn path flags b s
  generalize r.1 = n at hturn ⊢
  generalize r.2.1 = b' at hturn ⊢
  cases hturn with
  | opened file hfd => exact absurd hlast (Int.ne_of_lt hfd)
  | refused hn => exact ⟨hn, hlast⟩
  | other hopen => exact absurd rfl (hopen path flags)

/-- The number that comes next never goes down. -/
theorem nextFd_le_perform (op : BridgeOp) (b : Bridge S) (s : σ) :
    b.nextFd ≤ (op.perform (b, s)).2.1.nextFd := by
  have hturn := perform_turn op b s
  generalize (op.perform (b, s)).1 = n at hturn
  generalize (op.perform (b, s)).2.1 = b' at hturn ⊢
  cases hturn with
  | opened => exact Int.le_of_lt (Int.lt_succ _)
  | refused | closed => exact Int.le_refl _
  | other _ _ _ hnext => exact Int.le_of_eq hnext.symm

end Bridge

/-! ### Lives -/

/-- A bridge and what it went through. -/
structure Life (S : Storage σ) where
  history : History
  bridge : Bridge S

namespace Life

/-- A new bridge. -/
def start : Life S := ⟨[], .new⟩

/-- One more operation, which finds the storage in a state. -/
def step (l : Life S) (x : BridgeOp × σ) : Life S :=
  let r := x.1.perform (l.bridge, x.2)
  ⟨l.history ++ [(x.1, r.1)], r.2.1⟩

/-- Operations one after another, each with the state in which it finds the storage. -/
def run (l : Life S) (xs : List (BridgeOp × σ)) : Life S := xs.foldl step l

/-- What every operation keeps, operations one after another keep. -/
theorem run_keeps {P : Life S → Prop} (hP : ∀ {l} x, P l → P (l.step x)) {l : Life S} (hl : P l)
    (xs : List (BridgeOp × σ)) : P (l.run xs) := by
  induction xs generalizing l with
  | nil => exact hl
  | cons x xs ih => exact ih (hP x hl)

/-- The numbers given out are those below the next one, in order, and those that are open are those
that were not closed since. -/
structure Sound (l : Life S) : Prop where
  numbered : l.bridge.Numbered
  increasing : l.history.issued.Pairwise (· < ·)
  issued_iff : ∀ {fd}, fd ∈ l.history.issued ↔ 1 ≤ fd ∧ fd < l.bridge.nextFd
  open_iff : ∀ {fd}, (∃ file, l.bridge.file? fd = some file) ↔
    fd ∈ l.history.issued ∧ ¬ l.history.Closed fd

theorem sound_start : (start : Life S).Sound where
  numbered := numbered_new
  increasing := List.Pairwise.nil
  issued_iff {fd} := by
    have hnone : fd ∉ (start : Life S).history.issued := List.not_mem_nil
    have hnext : (start : Life S).bridge.nextFd = 1 := rfl
    rw [hnext]
    refine ⟨fun h => absurd h hnone, fun h => ?_⟩
    omega
  open_iff {fd} := by
    refine ⟨fun h => ?_, fun h => absurd h.1 List.not_mem_nil⟩
    obtain ⟨file, hfile⟩ := h
    cases hfile

variable {l : Life S} {op : BridgeOp} {n fd : Int} {b' : Bridge S}

theorem Sound.mem_issued (hl : l.Sound) {file : OpenFile S}
    (h : l.bridge.file? fd = some file) : fd ∈ l.history.issued :=
  (hl.open_iff.1 ⟨file, h⟩).1

/-- A number that was given out and is not open was closed. -/
theorem Sound.closed_of_none (hl : l.Sound) (hissued : fd ∈ l.history.issued)
    (h : l.bridge.file? fd = none) : l.history.Closed fd := by
  by_contra hc
  obtain ⟨file, hfile⟩ := hl.open_iff.2 ⟨hissued, hc⟩
  rw [h] at hfile
  cases hfile

/-- An operation that gives out no number and closes nothing that is open. -/
theorem Sound.same (hl : l.Sound) (hgiven : History.given? (op, n) = none)
    (hclose : ∀ fd, op = .closeFile fd → l.bridge.file? fd = none)
    (hfiles : b'.files = l.bridge.files) (hnext : b'.nextFd = l.bridge.nextFd) :
    Sound (S := S) ⟨l.history ++ [(op, n)], b'⟩ := by
  have hissued : History.issued (l.history ++ [(op, n)]) = l.history.issued := by
    rw [History.issued_concat, hgiven, Option.toList_none, List.append_nil]
  have hclosed : ∀ {fd}, History.Closed (l.history ++ [(op, n)]) fd ↔ l.history.Closed fd := by
    intro fd
    rw [History.closed_concat_iff]
    refine ⟨fun h => h.elim id fun ⟨⟨m, heq⟩, hfd⟩ => ?_, .inl⟩
    exact hl.closed_of_none hfd (hclose fd (congrArg Prod.fst heq))
  have hfile : ∀ fd, b'.file? fd = l.bridge.file? fd := by
    intro fd
    rw [Bridge.file?, Bridge.file?, hfiles]
  refine ⟨hl.numbered.of_same hfiles hnext, ?_, fun {fd} => ?_, fun {fd} => ?_⟩
  · rw [hissued]
    exact hl.increasing
  · rw [hissued, hnext]
    exact hl.issued_iff
  · rw [hissued, hclosed, hfile]
    exact hl.open_iff

/-- A file is opened: the next number is given out. -/
theorem Sound.opened (hl : l.Sound) (hfd : l.bridge.nextFd < lastFd) (path : String)
    (flags : Int32) (file : OpenFile S) :
    Sound (S := S) ⟨l.history ++ [(.openFile path flags, l.bridge.nextFd)],
      l.bridge.entered file⟩ := by
  have hpos := hl.numbered.next_pos
  have hissued : History.issued (l.history ++ [(.openFile path flags, l.bridge.nextFd)]) =
      l.history.issued ++ [l.bridge.nextFd] := by
    rw [History.issued_concat, History.given?, if_pos hpos, Option.toList_some]
  have hclosed : ∀ {fd}, History.Closed (l.history ++ [(.openFile path flags,
      l.bridge.nextFd)]) fd ↔ l.history.Closed fd := by
    intro fd
    rw [History.closed_concat_iff]
    refine ⟨fun h => h.elim id fun ⟨⟨m, heq⟩, _⟩ => ?_, .inl⟩
    cases heq
  have hnext : (l.bridge.entered file).nextFd = l.bridge.nextFd + 1 := rfl
  refine ⟨hl.numbered.entered hfd file, ?_, fun {fd} => ?_, fun {fd} => ?_⟩
  · rw [hissued, List.pairwise_append]
    refine ⟨hl.increasing, List.pairwise_singleton _ _, fun m hm m' hm' => ?_⟩
    rw [List.mem_singleton.1 hm']
    exact (hl.issued_iff.1 hm).2
  · rw [hissued, List.mem_append, List.mem_singleton, hl.issued_iff, hnext]
    omega
  · rw [hissued, List.mem_append, List.mem_singleton, hclosed, file?_entered]
    split_ifs with heq
    · -- the number was not given out before, so it was not closed either
      subst heq
      refine iff_of_true ⟨file, rfl⟩ ⟨.inr rfl, fun hc => ?_⟩
      exact absurd (hl.issued_iff.1 hc.mem_issued).2 (Int.lt_irrefl _)
    · rw [hl.open_iff]
      simp [heq]

/-- An open file is closed. -/
theorem Sound.closed (hl : l.Sound) {file : OpenFile S} (hfd : l.bridge.file? fd = some file)
    (n : Int) : Sound (S := S) ⟨l.history ++ [(.closeFile fd, n)], l.bridge.left fd⟩ := by
  have hissued : History.issued (l.history ++ [(.closeFile fd, n)]) = l.history.issued := by
    have hgiven : History.given? (.closeFile fd, n) = none := rfl
    rw [History.issued_concat, hgiven, Option.toList_none, List.append_nil]
  have hclosed : ∀ {fd'}, History.Closed (l.history ++ [(.closeFile fd, n)]) fd' ↔
      l.history.Closed fd' ∨ fd' = fd := by
    intro fd'
    rw [History.closed_concat_iff]
    refine or_congr_right ⟨fun ⟨⟨m, heq⟩, _⟩ => ?_, fun heq => ?_⟩
    · cases heq
      rfl
    · subst heq
      exact ⟨⟨n, rfl⟩, hl.mem_issued hfd⟩
  refine ⟨hl.numbered.left fd, ?_, fun {fd'} => ?_, fun {fd'} => ?_⟩
  · rw [hissued]
    exact hl.increasing
  · rw [hissued]
    exact hl.issued_iff
  · rw [hissued, hclosed, file?_left]
    split_ifs with heq
    · simp [heq]
    · rw [hl.open_iff]
      simp [heq]

/-- **Every operation keeps the numbers given out in step with the table.** -/
theorem Sound.step (hl : l.Sound) (x : BridgeOp × σ) : (l.step x).Sound := by
  obtain ⟨op, s⟩ := x
  have hturn := perform_turn op l.bridge s
  show Sound (S := S) ⟨l.history ++ [(op, (op.perform (l.bridge, s)).1)],
    (op.perform (l.bridge, s)).2.1⟩
  generalize (op.perform (l.bridge, s)).1 = n at hturn ⊢
  generalize (op.perform (l.bridge, s)).2.1 = b' at hturn ⊢
  cases hturn with
  | opened file hfd => exact hl.opened hfd _ _ file
  | refused hn =>
    exact hl.same (if_neg (Int.not_lt.2 (Int.le_of_lt hn))) nofun rfl rfl
  | closed hfd _ => exact hl.closed hfd n
  | other hopen hclose hfiles hnext =>
    refine hl.same ?_ hclose hfiles hnext
    cases op with
    | openFile path flags => exact absurd rfl (hopen path flags)
    | _ => rfl

theorem sound_run (xs : List (BridgeOp × σ)) : (start.run xs : Life S).Sound :=
  run_keeps (P := Sound) (fun x hl => hl.step x) sound_start xs

/-- An open answers a number that no open answered before and enters one file under it, or it fails
and leaves the bridge as it is. -/
theorem Sound.openFile (hl : l.Sound) (path : String) (flags : Int32) (s : σ) :
    let r := Bridge.openFile path flags (l.bridge, s)
    (0 < r.1 ∧ (∀ fd ∈ l.history.issued, fd < r.1) ∧
      ∃ file, r.2.1.files = (r.1, file) :: l.bridge.files ∧ r.2.1.nextFd = r.1 + 1) ∨
    (r.1 < 0 ∧ r.2.1 = l.bridge) := by
  intro r
  have hturn : Turn l.bridge _ r.1 r.2.1 := openFile_turn path flags l.bridge s
  generalize r.1 = n at hturn ⊢
  generalize r.2.1 = b' at hturn ⊢
  cases hturn with
  | opened file hfd =>
    exact .inl ⟨hl.numbered.next_pos, fun fd hfd => (hl.issued_iff.1 hfd).2, file, rfl, rfl⟩
  | refused hn => exact .inr ⟨hn, rfl⟩
  | other hopen => exact absurd rfl (hopen path flags)

/-- **Descriptors are fresh, positive and never come back**, over any storage and whatever others do
to it.  The numbers given out so far are those from 1 up to the next one, each greater than all
before it, and those in the table are those that were not closed since.  An open adds the next
number or leaves the bridge as it is, closing an open file removes its entry whatever it answers,
and nothing else touches the table.  A descriptor that was closed, or never given out, answers `-1`
to everything and changes nothing.  The next number never goes down, and at the greatest one every
open fails. -/
theorem run_descriptors (S : Storage σ) (xs : List (BridgeOp × σ)) :
    let l : Life S := start.run xs
    let b := l.bridge
    ((b.files.map Prod.fst).Nodup ∧ ∀ fd ∈ b.files.map Prod.fst, 1 ≤ fd ∧ fd < b.nextFd) ∧
    l.history.issued.Pairwise (· < ·) ∧
    (∀ fd, fd ∈ l.history.issued ↔ 1 ≤ fd ∧ fd < b.nextFd) ∧
    (∀ fd, (∃ file, b.file? fd = some file) ↔ fd ∈ l.history.issued ∧ ¬ l.history.Closed fd) ∧
    (∀ path flags s,
      let r := Bridge.openFile path flags (b, s)
      (0 < r.1 ∧ (∀ fd ∈ l.history.issued, fd < r.1) ∧
        ∃ file, r.2.1.files = (r.1, file) :: b.files ∧ r.2.1.nextFd = r.1 + 1) ∨
      (r.1 < 0 ∧ r.2.1 = b)) ∧
    (∀ fd file s, b.file? fd = some file →
      let r := Bridge.closeFile fd (b, s)
      (r.1 = 0 ∨ r.1 = -1) ∧ r.2.1 = { b with files := b.files.filter fun f => f.1 ≠ fd }) ∧
    (∀ (op : BridgeOp) s, op.isQuiet = true →
      (op.perform (b, s)).2.1.files = b.files ∧ (op.perform (b, s)).2.1.nextFd = b.nextFd) ∧
    (∀ fd, l.history.Closed fd ∨ fd ∉ l.history.issued →
      ∀ op : BridgeOp, op.descriptor? = some fd → ∀ s, op.perform (b, s) = (-1, b, s)) ∧
    (b.nextFd ≤ 0x7fffffff ∧ ∀ (op : BridgeOp) s, b.nextFd ≤ (op.perform (b, s)).2.1.nextFd) ∧
    (b.nextFd = 0x7fffffff → ∀ path flags s,
      let r := Bridge.openFile path flags (b, s)
      r.1 < 0 ∧ r.2.1.nextFd = 0x7fffffff) := by
  intro l b
  have hl : l.Sound := sound_run xs
  refine ⟨⟨hl.numbered.distinct, fun fd hfd => ⟨hl.numbered.pos hfd, hl.numbered.lt_next hfd⟩⟩,
    hl.increasing, fun fd => hl.issued_iff, fun fd => hl.open_iff, hl.openFile,
    fun fd file s hfd => ⟨closeFile_fst hfd s, congrArg Prod.fst (closeFile_snd hfd s)⟩,
    fun op s hop => ?_, fun fd hfd op hop s => ?_,
    ⟨hl.numbered.next_le, fun op s => nextFd_le_perform op b s⟩, openFile_of_last⟩
  · exact (op.perform_quiet hop (fun kind _ => S.keeps_anywhere kind) (b, s)).1
  · refine perform_of_none ?_ hop s
    cases hfile : b.file? fd with
    | none => rfl
    | some file =>
      -- an open descriptor was given out and not closed since
      obtain ⟨hissued, hopen⟩ := hl.open_iff.1 ⟨file, hfile⟩
      exact hfd.elim (absurd · hopen) (absurd hissued)

end Life

end EngineHost
