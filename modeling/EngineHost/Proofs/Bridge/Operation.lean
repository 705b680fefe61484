import EngineHost.Bridge.Basic
import EngineHost.Proofs.Attempt
import EngineHost.Proofs.Storage.Keeps

/-!
# The operations of a bridge

`BridgeOp` lists what can be asked of a bridge and `BridgeOp.perform` does it.

* `BridgeOp.perform_keeps` : an operation does to the storage only what the storage calls it makes
  do to it, and `BridgeOp.kinds` lists these.
* `BridgeOp.perform_quiet` : only opening and closing touch the files of a bridge.
* `BridgeOp.perform_leaves` : an operation opens a file, closes one or leaves the open files.
-/

namespace EngineHost

variable {σ ε α β : Type} {S : Storage σ}

/-- The operations of a bridge. -/
inductive BridgeOp where
  | probe
  | openFile (path : String) (flags : Int32)
  | closeFile (fd : Int)
  | read (fd : Int) (buffer : List UInt8) (offset : UInt64)
  | write (fd : Int) (data : List UInt8) (offset : UInt64)
  | truncate (fd : Int) (size : UInt64)
  | sync (fd : Int)
  | fileSize (fd : Int)
  | delete (path : String)
  | access (path : String)
  | lock (fd : Int) (level : Int32)
  | unlock (fd : Int) (level : Int32)

namespace BridgeOp

/-- Performs an operation; answers its status. -/
def perform : BridgeOp → BridgeM S Int
  | probe => fun w =>
    let (available, w) := Bridge.probe w
    (if available then 1 else 0, w)
  | openFile path flags => Bridge.openFile path flags
  | closeFile fd => Bridge.closeFile fd
  | read fd buffer offset => fun w =>
    let (answer, w) := Bridge.read fd buffer offset w
    (answer.1, w)
  | write fd data offset => Bridge.write fd data offset
  | truncate fd size => Bridge.truncate fd size
  | sync fd => Bridge.sync fd
  | fileSize fd => Bridge.fileSize fd
  | delete path => Bridge.delete path
  | access path => Bridge.access path
  | lock fd level => Bridge.lock fd level
  | unlock fd level => Bridge.unlock fd level

/-- The kinds of storage calls that an operation makes. -/
def kinds : BridgeOp → List CallKind
  | probe => [.root]
  | openFile .. => [.directory, .file, .acquire, .truncate, .flush, .size, .close]
  | closeFile _ => [.close]
  | read .. => [.read]
  | write .. => [.write, .flush]
  | truncate .. => [.truncate, .flush]
  | sync _ => [.flush]
  | fileSize _ => [.size]
  | delete _ => [.directory, .remove]
  | access _ => [.directory, .file]
  | lock .. => []
  | unlock .. => []

/-- The path that an operation is given. -/
def path? : BridgeOp → Option String
  | openFile path _ => some path
  | delete path => some path
  | access path => some path
  | _ => none

/-- Whether an operation leaves the files of a bridge alone. -/
def isQuiet : BridgeOp → Bool
  | openFile .. => false
  | closeFile _ => false
  | _ => true

end BridgeOp

/-- The status of an error is negative. -/
theorem VfsError.status_neg (e : VfsError) : e.status < 0 := by
  have herror : Status.error < 0 := by decide
  have hcannot : Status.cannotOpen < 0 := by decide
  have hio : Status.ioError < 0 := by decide
  cases e with
  | unavailable | badDescriptor | descriptorsExhausted => exact herror
  | notFound path => exact hcannot
  | invalidPath op path => cases op <;> assumption
  | storage op cause => cases op <;> assumption

namespace Bridge

variable {R : σ → σ → Prop} {M : Bridge S × σ → Bridge S × σ → Prop}

/-- The bridge stays as it is while the storage goes along a relation. -/
def Beside (R : σ → σ → Prop) (w w' : Bridge S × σ) : Prop := w'.1 = w.1 ∧ R w.2 w'.2

instance [Std.Refl R] : Std.Refl (Beside (S := S) R) := ⟨fun _ => ⟨rfl, Std.Refl.refl _⟩⟩

instance [IsTrans σ R] : IsTrans (Bridge S × σ) (Beside R) :=
  ⟨fun _ _ _ h h' => ⟨h'.1.trans h.1, trans_of R h.2 h'.2⟩⟩

/-- The storage goes along a relation, whatever becomes of the bridge. -/
def Below (R : σ → σ → Prop) (w w' : Bridge S × σ) : Prop := R w.2 w'.2

instance [Std.Refl R] : Std.Refl (Below (S := S) R) := ⟨fun w => Std.Refl.refl w.2⟩

instance [IsTrans σ R] : IsTrans (Bridge S × σ) (Below R) :=
  ⟨fun _ _ _ h h' => trans_of R h h'⟩

/-! ### Steps -/

theorem callWith_moves {x : StorageM σ α} (hx : Moves R x) (cause : StorageError → VfsError) :
    Moves (Beside (S := S) R) (callWith cause x) := by
  rintro ⟨b, s⟩
  have hs := hx s
  simp only [callWith]
  cases h : x s with
  | ok a s' => rw [h] at hs; exact ⟨rfl, hs⟩
  | error e s' => rw [h] at hs; exact ⟨rfl, hs⟩

theorem call_moves {x : StorageM σ α} (hx : Moves R x) (op : IoOp) :
    Moves (Beside (S := S) R) (call op x) :=
  callWith_moves hx _

theorem callWith_ok_iff {cause : StorageError → VfsError} {x : StorageM σ α} {b : Bridge S}
    {s : σ} {a : α} {w : Bridge S × σ} :
    callWith cause x (b, s) = .ok a w ↔ ∃ s', x s = .ok a s' ∧ w = (b, s') := by
  simp only [callWith]
  cases x s with
  | ok a' s' =>
    refine ⟨fun h => ?_, ?_⟩
    · cases h
      exact ⟨s', rfl, rfl⟩
    · rintro ⟨s'', h, rfl⟩
      cases h
      rfl
  | error e s' => simp

theorem requireRoot_ok_iff {w w' : Bridge S × σ} {root : S.Directory} :
    requireRoot w = .ok root w' ↔ w.1.root = some root ∧ w' = w := by
  obtain ⟨b, s⟩ := w
  simp only [requireRoot]
  cases b.root <;> simp [eq_comm]

theorem requireRoot_moves [Std.Refl M] : Moves M (requireRoot (S := S)) := by
  rintro ⟨b, s⟩
  simp only [requireRoot]
  cases b.root <;> exact Std.Refl.refl (r := M) _

theorem requireFile_moves [Std.Refl M] (fd : Int) : Moves M (requireFile (S := S) fd) := by
  rintro ⟨b, s⟩
  simp only [requireFile]
  cases b.file? fd <;> exact Std.Refl.refl (r := M) _

theorem walk_moves [Std.Refl R] [IsTrans σ R] {create : Bool}
    (hk : ∀ d name, Moves R (S.directory d name create)) (d : S.Directory) (names : List String) :
    Moves R (S.walk create d names) := by
  induction names generalizing d with
  | nil => exact .pure d
  | cons name rest ih => exact (hk d name).bind ih

theorem lookupParent_moves [Std.Refl R] [IsTrans σ R]
    (hk : ∀ d name, Moves R (S.directory d name false)) (root : S.Directory) (p : StoragePath) :
    Moves (Beside (S := S) R) (attempt (lookupParent root p)) := by
  rintro ⟨b, s⟩
  have hs := walk_moves hk root p.parents s
  simp only [attempt, lookupParent]
  cases h : S.walk false root p.parents s with
  | ok parent s' => rw [h] at hs; exact ⟨rfl, hs⟩
  | error e s' => rw [h] at hs; exact ⟨rfl, hs⟩

theorem answer_of_ok {x : BridgeAttempt S α} {w w' : Bridge S × σ} {a : α} (h : x w = .ok a w')
    (value : α → Int) : answer x value w = (value a, w') := by
  simp only [answer, h]

theorem answer_of_error {x : BridgeAttempt S α} {w w' : Bridge S × σ} {e : VfsError}
    (h : x w = .error e w') (value : α → Int) : answer x value w = (e.status, w') := by
  simp only [answer, h]

/-- What an operation leaves is what its attempt leaves. -/
theorem answer_snd (x : BridgeAttempt S α) (value : α → Int) (w : Bridge S × σ) :
    (answer x value w).2 = stateAfter (x w) := by
  unfold answer
  cases x w <;> rfl

/-- Finding a file to open leaves the bridge as it is. -/
theorem locate_moves [Std.Refl R] [IsTrans σ R] (hd : S.Keeps R .directory)
    (hf : S.Keeps R .file) (path : String) (flags : OpenFlags) :
    Moves (Beside (S := S) R) (locate path flags) := by
  refine requireRoot_moves.bind fun root => ?_
  cases StoragePath.parse path with
  | none => exact .throw _
  | some p =>
    have hwalk := walk_moves (fun d name => hd d name true) root p.parents
    refine (call_moves hwalk _).bind fun parent => ?_
    exact (callWith_moves (hf parent p.fileName _) _).bind fun file => .pure _

/-- Finding a file takes a root, a path that names a file, the walk to its parent and the file. -/
theorem locate_ok_iff {path : String} {flags : OpenFlags} {b : Bridge S} {s : σ}
    {x : S.File × String} {w : Bridge S × σ} :
    locate path flags (b, s) = .ok x w ↔
      ∃ root p parent s₁ s₂, b.root = some root ∧ StoragePath.parse path = some p ∧
        S.walk true root p.parents s = .ok parent s₁ ∧
        S.file parent p.fileName (flags.has .create) s₁ = .ok x.1 s₂ ∧
        x.2 = p.normalized ∧ w = (b, s₂) := by
  unfold locate call
  simp only [attempt_bind_ok_iff, requireRoot_ok_iff]
  cases StoragePath.parse path with
  | none =>
    constructor
    · rintro ⟨_, _, -, hthrow⟩
      cases hthrow
    · rintro ⟨_, _, _, _, _, -, hparse, -⟩
      cases hparse
  | some p =>
    simp only [attempt_bind_ok_iff]
    constructor
    · rintro ⟨root, _, ⟨hroot, rfl⟩, parent, _, hparent, file, _, hleaf, hx⟩
      obtain ⟨s₁, hwalk, rfl⟩ := callWith_ok_iff.1 hparent
      obtain ⟨s₂, hfile, rfl⟩ := callWith_ok_iff.1 hleaf
      cases hx
      exact ⟨root, p, parent, s₁, s₂, hroot, rfl, hwalk, hfile, rfl, rfl⟩
    · rintro ⟨root, _, parent, s₁, s₂, hroot, ⟨⟩, hwalk, hfile, hx, rfl⟩
      refine ⟨root, (b, s), ⟨hroot, rfl⟩, parent, (b, s₁), callWith_ok_iff.2 ⟨s₁, hwalk, rfl⟩,
        x.1, (b, s₂), callWith_ok_iff.2 ⟨s₂, hfile, rfl⟩, ?_⟩
      rw [← hx]
      rfl

/-- Preparing a file leaves the bridge as it is. -/
theorem prepare_moves [Std.Refl R] [IsTrans σ R] (ht : S.Keeps R .truncate)
    (hf : S.Keeps R .flush) (hs : S.Keeps R .size) (h : S.Access) (flags : OpenFlags) :
    Moves (Beside (S := S) R) (prepare h flags) := by
  have hsize : Moves (Beside (S := S) R) (do let _ ← call .openFile (S.size h); pure ()) :=
    (call_moves (hs h) _).bind fun _ => .pure _
  unfold prepare
  split
  · exact (call_moves (ht h 0) _).bind fun _ => (call_moves (hf h) _).bind fun _ => hsize
  · exact hsize

/-- Holding a handle adds the end of the handle to what is done. -/
theorem holding_moves [IsTrans σ R] (hc : S.Keeps R .close) {x : BridgeAttempt S α}
    (h : S.Access) (hx : Moves (Below R) x) : Moves (Below R) (holding h x) := by
  intro w
  have hw := hx w
  simp only [holding]
  cases hr : x w with
  | ok a w' => rw [hr] at hw; exact hw
  | error e w' => rw [hr] at hw; exact trans_of R hw (hc.2 h w'.2)

/-- Entering a file leaves the storage as it is. -/
theorem enter_moves [Std.Refl R] (file : OpenFile S) : Moves (Below R) (enter file) := by
  rintro ⟨b, s⟩
  simp only [enter]
  split <;> exact Std.Refl.refl (r := R) s

theorem tryOpen_moves [Std.Refl R] [IsTrans σ R]
    (hk : ∀ kind ∈ [.directory, .file, .acquire, .truncate, .flush, .size, .close],
      S.Keeps R kind) (path : String) (flags : OpenFlags) :
    Moves (Below (S := S) R) (tryOpen path flags) := by
  have hbelow : ∀ {w w' : Bridge S × σ}, Beside R w w' → Below R w w' := And.right
  have hlocate : Moves (Below (S := S) R) (locate path flags) :=
    (locate_moves (hk .directory (by simp)) (hk .file (by simp)) path flags).mono hbelow
  refine hlocate.bind fun file => ?_
  -- from here on a failure also ends the handle, which is a close of the storage
  have hacquire := hk .acquire (by simp) file.1
  refine ((call_moves hacquire _).mono hbelow).bind fun h => ?_
  refine holding_moves (hk .close (by simp)) h ?_
  have hprepare : Moves (Below (S := S) R) (prepare h flags) :=
    (prepare_moves (hk .truncate (by simp)) (hk .flush (by simp)) (hk .size (by simp)) h
      flags).mono hbelow
  exact hprepare.bind fun _ => enter_moves _

theorem tryDelete_moves [Std.Refl R] [IsTrans σ R]
    (hd : ∀ d name, Moves R (S.directory d name false))
    (hr : ∀ d name, Moves R (S.remove d name)) (path : String) :
    Moves (Beside (S := S) R) (tryDelete path) := by
  refine requireRoot_moves.bind fun root => ?_
  cases StoragePath.parse path with
  | none => exact .throw _
  | some p =>
    refine (lookupParent_moves hd root p).bind fun parent => ?_
    cases parent with
    | none => exact .pure ()
    | some parent =>
      rintro ⟨b, s⟩
      have hs := hr parent p.fileName s
      dsimp only
      cases h : S.remove parent p.fileName s with
      | ok _ s' => rw [h] at hs; exact ⟨rfl, hs⟩
      | error e s' => rw [h] at hs; cases e <;> exact ⟨rfl, hs⟩

theorem tryAccess_moves [Std.Refl R] [IsTrans σ R]
    (hd : ∀ d name, Moves R (S.directory d name false))
    (hf : ∀ d name, Moves R (S.file d name false)) (path : String) :
    Moves (Beside (S := S) R) (tryAccess path) := by
  refine requireRoot_moves.bind fun root => ?_
  cases StoragePath.parse path with
  | none => exact .pure false
  | some p =>
    refine (lookupParent_moves hd root p).bind fun parent => ?_
    cases parent with
    | none => exact .pure false
    | some parent =>
      rintro ⟨b, s⟩
      have hs := hf parent p.fileName s
      dsimp only
      cases h : S.file parent p.fileName false s with
      | ok _ s' => rw [h] at hs; exact ⟨rfl, hs⟩
      | error e s' => rw [h] at hs; cases e <;> exact ⟨rfl, hs⟩

/-! ### Opening and closing -/

/-- The bridge with a file under the next descriptor. -/
def entered (b : Bridge S) (file : OpenFile S) : Bridge S :=
  { b with files := (b.nextFd, file) :: b.files, nextFd := b.nextFd + 1 }

/-- The bridge without a descriptor. -/
def left (b : Bridge S) (fd : Int) : Bridge S :=
  { b with files := b.files.filter fun f => f.1 ≠ fd }

/-- The ways in which opening a file ends.  In all but the last the bridge is as it was, and a
handle that was taken on the way is given up. -/
inductive Opened (path : String) (flags : OpenFlags) (b : Bridge S) (s : σ) :
    EStateM.Result VfsError (Bridge S × σ) Int → Prop
  /-- There is no file to open. -/
  | lost {e : VfsError} {s₁ : σ} : locate path flags (b, s) = .error e (b, s₁) →
      Opened path flags b s (.error e (b, s₁))
  /-- The access handle is refused. -/
  | refused {x : S.File × String} {e : StorageError} {s₁ s₂ : σ} :
      locate path flags (b, s) = .ok x (b, s₁) → S.acquire x.1 s₁ = .error e s₂ →
      Opened path flags b s (.error (.storage .openFile e) (b, s₂))
  /-- The file cannot be prepared. -/
  | unprepared {x : S.File × String} {h : S.Access} {e : VfsError} {s₁ s₂ s₃ : σ} :
      locate path flags (b, s) = .ok x (b, s₁) → S.acquire x.1 s₁ = .ok h s₂ →
      prepare h flags (b, s₂) = .error e (b, s₃) →
      Opened path flags b s (.error e (b, S.release h s₃))
  /-- There is no descriptor left. -/
  | exhausted {x : S.File × String} {h : S.Access} {s₁ s₂ s₃ : σ} :
      locate path flags (b, s) = .ok x (b, s₁) → S.acquire x.1 s₁ = .ok h s₂ →
      prepare h flags (b, s₂) = .ok () (b, s₃) → lastFd ≤ b.nextFd →
      Opened path flags b s (.error .descriptorsExhausted (b, S.release h s₃))
  /-- The file is open. -/
  | entered {x : S.File × String} {h : S.Access} {s₁ s₂ s₃ : σ} :
      locate path flags (b, s) = .ok x (b, s₁) → S.acquire x.1 s₁ = .ok h s₂ →
      prepare h flags (b, s₂) = .ok () (b, s₃) → b.nextFd < lastFd →
      Opened path flags b s (.ok b.nextFd (b.entered ⟨h, x.2⟩, s₃))

theorem tryOpen_opened (path : String) (flags : OpenFlags) (b : Bridge S) (s : σ) :
    Opened path flags b s (tryOpen path flags (b, s)) := by
  have hlocate := locate_moves (S.keeps_anywhere .directory) (S.keeps_anywhere .file) path flags
    (b, s)
  simp only [tryOpen, bind, EStateM.bind]
  cases hl : locate path flags (b, s) with
  | error e w =>
    obtain ⟨b', s₁⟩ := w
    obtain rfl : b' = b := by simpa [hl] using hlocate.1
    exact .lost hl
  | ok x w =>
    obtain ⟨b', s₁⟩ := w
    obtain rfl : b' = b := by simpa [hl] using hlocate.1
    simp only [call, callWith]
    cases ha : S.acquire x.1 s₁ with
    | error e s₂ => exact .refused hl ha
    | ok h s₂ =>
      have hprepare := prepare_moves (S.keeps_anywhere .truncate) (S.keeps_anywhere .flush)
        (S.keeps_anywhere .size) h flags (b', s₂)
      simp only [holding, EStateM.bind]
      cases hp : prepare h flags (b', s₂) with
      | error e w =>
        obtain ⟨b'', s₃⟩ := w
        obtain rfl : b'' = b' := by simpa [hp] using hprepare.1
        exact .unprepared hl ha hp
      | ok u w =>
        obtain ⟨b'', s₃⟩ := w
        obtain rfl : b'' = b' := by simpa [hp] using hprepare.1
        by_cases hfd : b''.nextFd < lastFd
        · simp only [enter, if_pos hfd]
          exact .entered hl ha hp hfd
        · simp only [enter, if_neg hfd]
          exact .exhausted hl ha hp (Int.not_lt.1 hfd)

/-- An open that answers a positive number has opened a file. -/
theorem openFile_of_pos {path : String} {flags : Int32} {b : Bridge S} {s : σ}
    (hn : 0 < (openFile path flags (b, s)).1) :
    ∃ x h s₁ s₂ s₃, locate path (.ofWord flags) (b, s) = .ok x (b, s₁) ∧
      S.acquire x.1 s₁ = .ok h s₂ ∧ prepare h (.ofWord flags) (b, s₂) = .ok () (b, s₃) ∧
      openFile path flags (b, s) = (b.nextFd, b.entered ⟨h, x.2⟩, s₃) := by
  have hopened := tryOpen_opened path (.ofWord flags) b s
  unfold openFile at hn ⊢
  cases hr : tryOpen path (.ofWord flags) (b, s) with
  | ok fd w =>
    rw [hr] at hopened
    cases hopened with
    | entered hl ha hp hfd => exact ⟨_, _, _, _, _, hl, ha, hp, answer_of_ok hr id⟩
  | error e w =>
    rw [answer_of_error hr] at hn
    exact absurd e.status_neg (Int.not_lt.2 (Int.le_of_lt hn))

/-- Closing gives the handle up and forgets the descriptor, whatever it answers. -/
theorem closeFile_snd {b : Bridge S} {fd : Int} {file : OpenFile S} (h : b.file? fd = some file)
    (s : σ) :
    (closeFile fd (b, s)).2 = (b.left fd, S.giveUp file.handle s) := by
  simp only [closeFile, h]
  rfl

/-- A bridge that goes gives its files up. -/
theorem dispose_moves [Std.Refl R] [IsTrans σ R] (hc : S.Keeps R .close) (b : Bridge S) (s : σ) :
    R s (b.dispose s) := by
  show R s (b.files.foldl (fun s f => S.giveUp f.2.handle s) s)
  induction b.files generalizing s with
  | nil => exact Std.Refl.refl s
  | cons f files ih => exact trans_of R (hc.giveUp f.2.handle s) (ih _)

/-- Closing a descriptor that is not open does nothing. -/
theorem closeFile_none {b : Bridge S} {fd : Int} (h : b.file? fd = none) (s : σ) :
    closeFile fd (b, s) = ((VfsError.badDescriptor fd).status, b, s) := by
  simp only [closeFile, h]

end Bridge

open Bridge

variable {R : σ → σ → Prop}

/-- Asking for the root leaves the files of a bridge alone. -/
theorem Bridge.probe_moves [Std.Refl R] (hr : S.Keeps R .root) (w : Bridge S × σ) :
    ((probe w).2.1.files = w.1.files ∧ (probe w).2.1.nextFd = w.1.nextFd) ∧
      R w.2 (probe w).2.2 := by
  obtain ⟨b, s⟩ := w
  have hs := hr s
  simp only [probe]
  split
  · exact ⟨⟨rfl, rfl⟩, Std.Refl.refl s⟩
  · cases h : S.root s with
    | ok root s' => rw [h] at hs; exact ⟨⟨rfl, rfl⟩, hs⟩
    | error e s' => rw [h] at hs; exact ⟨⟨rfl, rfl⟩, hs⟩

/-- The state that reading leaves. -/
theorem Bridge.read_moves [Std.Refl R] [IsTrans σ R] (hr : S.Keeps R .read) (fd : Int)
    (buffer : List UInt8) (offset : UInt64) (w : Bridge S × σ) :
    Beside R w (Bridge.read fd buffer offset w).2 := by
  have hw : Beside R w (stateAfter ((do
      let file ← requireFile fd
      call .read (S.read file.handle buffer.length offset) : BridgeAttempt S Chunk) w)) :=
    (requireFile_moves fd).bind (fun file => call_moves (hr file.handle buffer.length offset) _) w
  simp only [Bridge.read]
  split
  · rename_i h; rw [h] at hw; exact hw
  · rename_i h; rw [h] at hw; exact hw

namespace BridgeOp

/-- An operation that neither opens nor closes nor asks for the root leaves the bridge as it is, and
takes the storage along what its calls keep. -/
theorem perform_beside [Std.Refl R] [IsTrans σ R] (op : BridgeOp) (hop : op.isQuiet = true)
    (hprobe : op ≠ .probe) (hk : ∀ kind ∈ op.kinds, S.Keeps R kind) (w : Bridge S × σ) :
    Beside R w (op.perform w).2 := by
  have hanswer : ∀ {α : Type} {x : BridgeAttempt S α} (value : α → Int), Moves (Beside R) x →
      Beside R w (answer x value w).2 := by
    intro α x value hx
    rw [answer_snd]
    exact hx w
  cases op with
  | probe => exact absurd rfl hprobe
  | openFile path flags => cases hop
  | closeFile fd => cases hop
  | read fd buffer offset => exact read_moves (hk .read (by simp [kinds])) fd buffer offset w
  | write fd data offset =>
    refine hanswer _ ((requireFile_moves fd).bind fun file => ?_)
    refine (call_moves (hk .write (by simp [kinds]) file.handle data offset) _).bind fun n => ?_
    exact (call_moves (hk .flush (by simp [kinds]) file.handle) _).bind fun _ => .pure n
  | truncate fd size =>
    refine hanswer _ ((requireFile_moves fd).bind fun file => ?_)
    refine (call_moves (hk .truncate (by simp [kinds]) file.handle size) _).bind fun _ => ?_
    exact call_moves (hk .flush (by simp [kinds]) file.handle) _
  | sync fd =>
    refine hanswer _ ((requireFile_moves fd).bind fun file => ?_)
    exact call_moves (hk .flush (by simp [kinds]) file.handle) _
  | fileSize fd =>
    refine hanswer _ ((requireFile_moves fd).bind fun file => ?_)
    exact call_moves (hk .size (by simp [kinds]) file.handle) _
  | delete path =>
    have hdirectory := hk .directory (by simp [kinds])
    exact hanswer _ (tryDelete_moves (fun d name => hdirectory d name false)
      (hk .remove (by simp [kinds])) path)
  | access path =>
    have hdirectory := hk .directory (by simp [kinds])
    have hfile := hk .file (by simp [kinds])
    exact hanswer _ (tryAccess_moves (fun d name => hdirectory d name false)
      (fun d name => hfile d name false) path)
  | lock fd level => exact hanswer _ (requireFile_moves fd)
  | unlock fd level => exact hanswer _ (requireFile_moves fd)

/-- An operation that is neither opening nor closing leaves the files of the bridge. -/
theorem perform_quiet [Std.Refl R] [IsTrans σ R] (op : BridgeOp) (hop : op.isQuiet = true)
    (hk : ∀ kind ∈ op.kinds, S.Keeps R kind) (w : Bridge S × σ) :
    ((op.perform w).2.1.files = w.1.files ∧ (op.perform w).2.1.nextFd = w.1.nextFd) ∧
      R w.2 (op.perform w).2.2 := by
  by_cases hprobe : op = .probe
  · subst hprobe
    exact probe_moves (hk .root (by simp [kinds])) w
  · obtain ⟨hb, hs⟩ := op.perform_beside hop hprobe hk w
    rw [hb]
    exact ⟨⟨rfl, rfl⟩, hs⟩

/-- What an operation makes of a bridge and its storage, told by the open files. -/
inductive Leaves (b : Bridge S) (s : σ) : BridgeOp → Bridge S × σ → Prop
  /-- The open files are as they were. -/
  | same {op : BridgeOp} {b' : Bridge S} {s' : σ} : b'.files = b.files →
      b'.nextFd = b.nextFd → Leaves b s op (b', s')
  /-- A file was opened. -/
  | entered {path : String} {flags : Int32} {x : S.File × String} {h : S.Access} {s₁ s₂ s₃ : σ} :
      locate path (.ofWord flags) (b, s) = .ok x (b, s₁) → S.acquire x.1 s₁ = .ok h s₂ →
      prepare h (.ofWord flags) (b, s₂) = .ok () (b, s₃) →
      Leaves b s (.openFile path flags) (b.entered ⟨h, x.2⟩, s₃)
  /-- A file was closed. -/
  | left {fd : Int} {s' : σ} : Leaves b s (.closeFile fd) (b.left fd, s')

theorem perform_leaves (op : BridgeOp) (b : Bridge S) (s : σ) :
    Leaves b s op (op.perform (b, s)).2 := by
  by_cases hop : op.isQuiet = true
  · obtain ⟨⟨hfiles, hnext⟩, -⟩ :=
      op.perform_quiet hop (fun kind _ => S.keeps_anywhere kind) (b, s)
    exact .same hfiles hnext
  · cases op with
    | openFile path flags =>
      change Leaves b s _ (answer (tryOpen path _) id (b, s)).2
      rw [answer_snd]
      have hopened := tryOpen_opened path (.ofWord flags) b s
      generalize tryOpen path (.ofWord flags) (b, s) = r at hopened
      cases hopened with
      | entered hl ha hp hfd => exact .entered hl ha hp
      | lost | refused | unprepared | exhausted => exact .same rfl rfl
    | closeFile fd =>
      change Leaves b s _ (Bridge.closeFile fd (b, s)).2
      cases hfd : b.file? fd with
      | none =>
        rw [closeFile_none hfd]
        exact .same rfl rfl
      | some file =>
        rw [closeFile_snd hfd]
        exact .left
    | _ => exact absurd rfl hop

/-- Only asking for the root changes what a bridge knows of it. -/
theorem perform_root_of_ne (op : BridgeOp) (hprobe : op ≠ .probe) (w : Bridge S × σ) :
    (op.perform w).2.1.root = w.1.root ∧ (op.perform w).2.1.probed = w.1.probed := by
  obtain ⟨b, s⟩ := w
  by_cases hop : op.isQuiet = true
  · rw [(op.perform_beside hop hprobe (fun kind _ => S.keeps_anywhere kind) (b, s)).1]
    exact ⟨rfl, rfl⟩
  · cases op with
    | openFile path flags =>
      change (answer (tryOpen path _) id (b, s)).2.1.root = b.root ∧
        (answer (tryOpen path _) id (b, s)).2.1.probed = b.probed
      rw [answer_snd]
      have hopened := tryOpen_opened path (.ofWord flags) b s
      -- however opening ends, the bridge keeps its root
      generalize tryOpen path (.ofWord flags) (b, s) = r at hopened
      cases hopened <;> exact ⟨rfl, rfl⟩
    | closeFile fd =>
      change (Bridge.closeFile fd (b, s)).2.1.root = b.root ∧
        (Bridge.closeFile fd (b, s)).2.1.probed = b.probed
      cases hfd : b.file? fd with
      | none =>
        rw [closeFile_none hfd]
        exact ⟨rfl, rfl⟩
      | some file =>
        rw [closeFile_snd hfd]
        exact ⟨rfl, rfl⟩
    | _ => exact absurd rfl hop

/-- The root that a bridge has is one that its storage answered. -/
theorem perform_root {P : S.Directory → Prop} (hP : ∀ {s d s'}, S.root s = .ok d s' → P d)
    (op : BridgeOp) {w : Bridge S × σ} (hw : ∀ {d}, w.1.root = some d → P d) {d : S.Directory}
    (hd : (op.perform w).2.1.root = some d) : P d := by
  by_cases hprobe : op = .probe
  · subst hprobe
    obtain ⟨b, s⟩ := w
    change (Bridge.probe (b, s)).2.1.root = some d at hd
    simp only [Bridge.probe] at hd
    split at hd
    · exact hw hd
    · cases hr : S.root s with
      | ok root s' =>
        simp only [hr, Option.some.injEq] at hd
        exact hd ▸ hP hr
      | error e s' =>
        simp only [hr] at hd
        exact hw hd
  · rw [(op.perform_root_of_ne hprobe w).1] at hd
    exact hw hd

/-- **An operation does to the storage what its calls do to it.** -/
theorem perform_keeps [Std.Refl R] [IsTrans σ R] (op : BridgeOp)
    (hk : ∀ kind ∈ op.kinds, S.Keeps R kind) (w : Bridge S × σ) : R w.2 (op.perform w).2.2 := by
  by_cases hop : op.isQuiet = true
  · exact (op.perform_quiet hop hk w).2
  · cases op with
    | openFile path flags =>
      change R w.2 (answer (tryOpen path _) id w).2.2
      rw [answer_snd]
      exact tryOpen_moves hk path _ w
    | closeFile fd =>
      have hc : S.Keeps R .close := hk .close (by simp [kinds])
      obtain ⟨b, s⟩ := w
      change R s (Bridge.closeFile fd (b, s)).2.2
      simp only [Bridge.closeFile]
      cases b.file? fd with
      | none => exact Std.Refl.refl s
      | some file => exact hc.giveUp file.handle s
    | _ => exact absurd rfl hop

end BridgeOp

end EngineHost
