import EngineHost.Proofs.Attempt
import EngineHost.Proofs.Storage.Matching
import EngineHost.Storage.Played

/-!
# Who answers the steps of a program

* `Storage.played_onSystem` : the storage whose player does what a system does is the one on disk.
* `Program.play_watched` : a program does the same when its steps are noted down.
* `Storage.watching` : hence a storage matches itself with its steps noted down.
-/

namespace EngineHost

variable {τ α β : Type} {P : Player τ}

namespace Program

/-- A program is played to its end before the next one starts. -/
theorem play_bind (p : Program α) (f : α → Program β) (m : τ) :
    (p.bind f).play P m = (f (p.play P m).1).play P (p.play P m).2 := by
  induction p generalizing m with
  | done a => rfl
  | system c next ih => exact ih _ _
  | table t next ih => exact ih _ _

/-- A system plays a program as it runs it. -/
theorem play_onSystem (p : Program α) (w : System) : p.play .onSystem w = p.run w := by
  induction p generalizing w with
  | done a => rfl
  | system c next ih => exact ih _ _
  | table t next ih => exact ih _ _

/-- A program does the same when its steps are noted down. -/
theorem play_watched (p : Program α) (m : τ) (steps : List DiskStep) :
    (p.play P.watched (m, steps)).1 = (p.play P m).1 ∧
      (p.play P.watched (m, steps)).2.1 = (p.play P m).2 := by
  induction p generalizing m steps with
  | done a => exact ⟨rfl, rfl⟩
  | system c next ih => exact ih _ _ _
  | table t next ih => exact ih _ _ _

end Program

namespace DiskProgram

/-- The end of a program as the end of a call of a storage. -/
def outcome : Except StorageError α × τ → EStateM.Result StorageError τ α
  | (.ok a, m) => .ok a m
  | (.error e, m) => .error e m

theorem playedBy_eq_outcome (p : DiskProgram α) (m : τ) :
    p.playedBy P m = outcome (Program.play P p m) := rfl

theorem playedBy_onSystem (p : DiskProgram α) : p.playedBy .onSystem = p.perform := by
  funext w
  simp only [playedBy, perform, Program.play_onSystem]
  rcases Program.run p w with ⟨e | a, w'⟩ <;> rfl

theorem playedBy_bind (p : DiskProgram α) (f : α → DiskProgram β) :
    (p >>= f).playedBy P = p.playedBy P >>= fun a => (f a).playedBy P := by
  funext m
  have hplay : Program.play P (p >>= f : DiskProgram β) m =
      (ExceptT.bindCont f (Program.play P p m).1).play P (Program.play P p m).2 :=
    Program.play_bind _ _ m
  change _ = EStateM.bind (p.playedBy P) (fun a => (f a).playedBy P) m
  rw [playedBy_eq_outcome, hplay, EStateM.bind, playedBy_eq_outcome]
  obtain ⟨r, m'⟩ := Program.play P p m
  cases r <;> rfl

theorem playedBy_system (c : SystemCall) (m : τ) :
    (system c).playedBy P m = .ok (P.system c m).1 (P.system c m).2 := rfl

theorem playedBy_table (t : TableStep) (m : τ) :
    (table t).playedBy P m = .ok (P.table t m).1 (P.table t m).2 := rfl

/-- A program that answers an error, too, answers as a step of a storage. -/
theorem playedBy_lift (p : Program α) (m : τ) :
    DiskProgram.playedBy P (ExceptT.lift p) m = .ok (p.play P m).1 (p.play P m).2 := by
  have hplay : Program.play P (ExceptT.lift p : DiskProgram α) m =
      (.ok (p.play P m).1, (p.play P m).2) := Program.play_bind p _ m
  rw [playedBy_eq_outcome, hplay]
  rfl

/-- A system call that succeeds has its answer from the player. -/
theorem playedBy_call_ok {c : SystemCall} {v : c.Value} {m m' : τ}
    (h : (call c).playedBy P m = .ok v m') : (P.system c m).1 = .ok v := by
  rw [call, playedBy_bind, attempt_bind_ok_iff] at h
  obtain ⟨r, m₁, hsystem, hnext⟩ := h
  cases hsystem
  cases hr : (P.system c m).1 with
  | ok v' =>
    rw [hr] at hnext
    cases hnext
    rfl
  | error e =>
    rw [hr] at hnext
    cases hnext

end DiskProgram

namespace Storage

/-- **The storage on disk is the one whose player does what a system does.** -/
theorem played_onSystem (root : String) : played .onSystem root = onDisk root := by
  simp only [played, onDisk, DiskProgram.playedBy_onSystem, Program.play_onSystem]

/-- The root of the storage is what the player says that its path is without links back up. -/
theorem played_root_ok {root : String} {place : DiskPath} {m m' : τ}
    (h : (played P root).root m = .ok place m') :
    ∃ m₁, (P.system (.canonical root) m₁).1 = .ok place := by
  simp only [played, DiskProgram.root, DiskProgram.playedBy_bind, attempt_bind_ok_iff] at h
  obtain ⟨-, m₁, -, place', m₂, hcanonical, r, m₃, -, hend⟩ := h
  have hplace : place' = place := by
    rcases r with e | kind
    · cases hend
    · cases kind with
      | directory => cases hend; rfl
      | file => cases hend
  exact ⟨m₁, hplace ▸ DiskProgram.playedBy_call_ok hcanonical⟩

/-- A call goes like itself with its steps noted down. -/
theorem goAlike_watched (p : DiskProgram α) :
    GoAlike Eq Eq (fun m w => m = w.1) (p.playedBy P) (p.playedBy P.watched) := by
  rintro m ⟨_, steps⟩ rfl
  obtain ⟨hanswer, hleft⟩ :=
    Program.play_watched (P := P) (p : Program (Except StorageError α)) m steps
  rw [DiskProgram.playedBy_eq_outcome, DiskProgram.playedBy_eq_outcome]
  generalize Program.play P.watched _ (m, steps) = r at hanswer hleft ⊢
  generalize Program.play P _ m = r' at hanswer hleft ⊢
  obtain ⟨a, m', steps'⟩ := r
  obtain ⟨_, _⟩ := r'
  obtain rfl : a = _ := hanswer
  obtain rfl : m' = _ := hleft
  cases a with
  | ok a => exact .ok rfl rfl
  | error e => exact .error rfl rfl

/-- A storage matches itself with its steps noted down. -/
def watching (P : Player τ) (root : String) : (played P root).Match (watched P root) where
  State m w := m = w.1
  Directory := Eq
  File := Eq
  Access := Eq
  root := goAlike_watched _
  directory := by rintro d _ name create rfl; exact goAlike_watched _
  file := by rintro d _ name create rfl; exact goAlike_watched _
  remove := by rintro d _ name rfl; exact goAlike_watched _
  acquire := by rintro f _ rfl; exact goAlike_watched _
  read := by rintro h _ count offset rfl; exact goAlike_watched _
  write := by rintro h _ data offset rfl; exact goAlike_watched _
  truncate := by rintro h _ size rfl; exact goAlike_watched _
  flush := by rintro h _ rfl; exact goAlike_watched _
  size := by rintro h _ rfl; exact goAlike_watched _
  close := by
    rintro h _ m ⟨_, steps⟩ rfl rfl
    obtain ⟨hanswer, hleft⟩ := Program.play_watched (P := P) (DiskProgram.close h) m steps
    exact ⟨congrArg Prod.fst hanswer.symm, congrArg Prod.snd hanswer.symm, hleft.symm⟩
  release := by
    rintro h _ m ⟨_, steps⟩ rfl rfl
    exact (Program.play_watched (P := P) (DiskProgram.close h) m steps).2.symm

end Storage

end EngineHost
