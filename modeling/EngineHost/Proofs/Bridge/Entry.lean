import EngineHost.Proofs.Bridge.InMemory

/-!
# The entry of a path

Asking for a path, deleting its entry and finding it to open walk to the parent and make one call on
the last name.

* `Bridge.access_of_parse`, `Bridge.delete_of_parse`, `Bridge.locate_of_parse` : the answers, told
  by the walk and the call, over any storage.
* `Bridge.access_snd`, `Bridge.delete_snd`, `Bridge.locate_snd` : what they do to the storage.
* `Bridge.openFile_of_lost`, `Bridge.openFile_of_refused`, `Bridge.openFile_of_entered`,
  `Bridge.openFile_of_exhausted` : the answers to opening a file, told by its steps.
* `Bridge.access_of_named`, `Bridge.delete_of_held`, `Bridge.openFile_of_held` : the answers for a
  file in the tree that somebody holds.
-/

namespace EngineHost

namespace Bridge

section AnyStorage

variable {σ : Type} {S : Storage σ} {b : Bridge S} {root : S.Directory} {p : StoragePath}
  {path : String}

/-- Asking for a path: without its parent or its last entry it is absent. -/
theorem access_of_parse (hb : b.root = some root) (hp : StoragePath.parse path = some p) (s : σ) :
    access path (b, s) =
      match S.walk false root p.parents s with
      | .error _ s₁ => (Status.absent, b, s₁)
      | .ok d s₁ =>
        match S.file d p.fileName false s₁ with
        | .ok _ s₂ => (Status.present, b, s₂)
        | .error e s₂ => (if e = .notFound then Status.absent else Status.error, b, s₂) := by
  simp only [access, answer, tryAccess, bind, EStateM.bind, requireRoot, hb, hp, attempt,
    lookupParent]
  cases S.walk false root p.parents s with
  | error e s₁ => rfl
  | ok d s₁ =>
    dsimp only
    cases S.file d p.fileName false s₁ with
    | ok i s₂ => rfl
    | error e s₂ => cases e <;> rfl

/-- Deleting the entry of a path: without its parent or its last entry there is nothing to do. -/
theorem delete_of_parse (hb : b.root = some root) (hp : StoragePath.parse path = some p) (s : σ) :
    delete path (b, s) =
      match S.walk false root p.parents s with
      | .error _ s₁ => (Status.ok, b, s₁)
      | .ok d s₁ =>
        match S.remove d p.fileName s₁ with
        | .ok _ s₂ => (Status.ok, b, s₂)
        | .error e s₂ => (if e = .notFound then Status.ok else Status.ioError, b, s₂) := by
  simp only [delete, answer, tryDelete, bind, EStateM.bind, requireRoot, hb, hp, attempt,
    lookupParent]
  cases S.walk false root p.parents s with
  | error e s₁ => rfl
  | ok d s₁ =>
    dsimp only
    cases S.remove d p.fileName s₁ with
    | ok i s₂ => rfl
    | error e s₂ => cases e <;> rfl

/-- Finding the file of a path: its parent is made, and then it may be found missing. -/
theorem locate_of_parse (hb : b.root = some root) (hp : StoragePath.parse path = some p)
    (flags : OpenFlags) (s : σ) :
    locate path flags (b, s) =
      match S.walk true root p.parents s with
      | .error e s₁ => .error (.storage .openFile e) (b, s₁)
      | .ok d s₁ =>
        match S.file d p.fileName (flags.has .create) s₁ with
        | .ok i s₂ => .ok (i, p.normalized) (b, s₂)
        | .error e s₂ =>
          .error (if e = .notFound then .notFound p.normalized else .storage .openFile e)
            (b, s₂) := by
  simp only [locate, bind, EStateM.bind, requireRoot, hb, hp, call, callWith]
  cases S.walk true root p.parents s with
  | error e s₁ => rfl
  | ok d s₁ =>
    dsimp only
    cases S.file d p.fileName (flags.has .create) s₁ with
    | ok i s₂ => rfl
    | error e s₂ => cases e <;> rfl

/-- A path without a segment is absent. -/
theorem access_of_no_parse (hb : b.root = some root) (hp : StoragePath.parse path = none) (s : σ) :
    access path (b, s) = (Status.absent, b, s) := by
  simp only [access, answer, tryAccess, bind, EStateM.bind, requireRoot, hb, hp]
  rfl

/-- A path without a segment cannot be deleted. -/
theorem delete_of_no_parse (hb : b.root = some root) (hp : StoragePath.parse path = none) (s : σ) :
    delete path (b, s) = ((VfsError.invalidPath .delete path).status, b, s) := by
  simp only [delete, answer, tryDelete, bind, EStateM.bind, requireRoot, hb, hp]
  rfl

/-- A path without a segment cannot be opened. -/
theorem openFile_of_no_parse (hb : b.root = some root) (hp : StoragePath.parse path = none)
    (flags : Int32) (s : σ) : openFile path flags (b, s) = (Status.cannotOpen, b, s) := by
  simp only [openFile, answer, tryOpen, locate, bind, EStateM.bind, requireRoot, hb, hp]
  rfl

/-- Without a root nothing is found, deleted or opened. -/
theorem refused_of_unavailable (hb : b.root = none) (path : String) (s : σ) :
    access path (b, s) = (-1, b, s) ∧ delete path (b, s) = (-1, b, s) ∧
      ∀ flags, openFile path flags (b, s) = (-1, b, s) := by
  have hroot : requireRoot (b, s) = .error .unavailable (b, s) := by simp only [requireRoot, hb]
  refine ⟨?_, ?_, fun flags => ?_⟩
  · simp only [access, answer, tryAccess, bind, EStateM.bind, hroot]
    rfl
  · simp only [delete, answer, tryDelete, bind, EStateM.bind, hroot]
    rfl
  · simp only [openFile, answer, tryOpen, locate, bind, EStateM.bind, hroot]
    rfl

/-- Asking for a path does to the storage what walking to it and looking for the file does. -/
theorem access_snd (hb : b.root = some root) (hp : StoragePath.parse path = some p) (s : σ) :
    (access path (b, s)).2 = (b, stateAfter
      ((S.walk false root p.parents >>= fun d => S.file d p.fileName false) s)) := by
  rw [access_of_parse hb hp]
  simp only [bind, EStateM.bind]
  cases S.walk false root p.parents s with
  | error e s₁ => rfl
  | ok d s₁ => dsimp only; cases S.file d p.fileName false s₁ <;> rfl

/-- Deleting does to the storage what walking to the entry and removing it does. -/
theorem delete_snd (hb : b.root = some root) (hp : StoragePath.parse path = some p) (s : σ) :
    (delete path (b, s)).2 = (b, stateAfter
      ((S.walk false root p.parents >>= fun d => S.remove d p.fileName) s)) := by
  rw [delete_of_parse hb hp]
  simp only [bind, EStateM.bind]
  cases S.walk false root p.parents s with
  | error e s₁ => rfl
  | ok d s₁ => dsimp only; cases S.remove d p.fileName s₁ <;> rfl

/-- Finding a file to open does to the storage what walking to it and getting it does. -/
theorem locate_snd (hb : b.root = some root) (hp : StoragePath.parse path = some p)
    (flags : OpenFlags) (s : σ) :
    stateAfter (locate path flags (b, s)) = (b, stateAfter
      ((S.walk true root p.parents >>= fun d => S.file d p.fileName (flags.has .create)) s)) := by
  rw [locate_of_parse hb hp]
  simp only [bind, EStateM.bind]
  cases S.walk true root p.parents s with
  | error e s₁ => rfl
  | ok d s₁ => dsimp only; cases S.file d p.fileName (flags.has .create) s₁ <;> rfl

/-- Without a root, and for a path without a segment, nothing is done. -/
theorem perform_of_unread {op : BridgeOp} (hop : op.path? = some path)
    (h : b.root = none ∨ StoragePath.parse path = none) (s : σ) :
    (op.perform (b, s)).2 = (b, s) := by
  cases hb : b.root with
  | none =>
    obtain ⟨haccess, hdelete, hopen⟩ := refused_of_unavailable hb path s
    cases op with
    | openFile _ flags => cases hop; exact congrArg Prod.snd (hopen flags)
    | delete => cases hop; exact congrArg Prod.snd hdelete
    | access => cases hop; exact congrArg Prod.snd haccess
    | _ => cases hop
  | some root =>
    have hp : StoragePath.parse path = none := h.resolve_left (by rw [hb]; nofun)
    cases op with
    | openFile _ flags => cases hop; exact congrArg Prod.snd (openFile_of_no_parse hb hp flags s)
    | delete => cases hop; exact congrArg Prod.snd (delete_of_no_parse hb hp s)
    | access => cases hop; exact congrArg Prod.snd (access_of_no_parse hb hp s)
    | _ => cases hop

variable {flags : Int32} {x : S.File × String} {h : S.Access} {s s₁ s₂ s₃ : σ}

/-- Where there is no file to open, the answer says why. -/
theorem openFile_of_lost {e : VfsError} {w : Bridge S × σ}
    (hl : locate path (.ofWord flags) (b, s) = .error e w) :
    openFile path flags (b, s) = (e.status, w) := by
  simp only [openFile, answer, tryOpen, bind, EStateM.bind, hl]

/-- A file whose handle is refused is not opened. -/
theorem openFile_of_refused {e : StorageError}
    (hl : locate path (.ofWord flags) (b, s) = .ok x (b, s₁))
    (ha : S.acquire x.1 s₁ = .error e s₂) :
    openFile path flags (b, s) = (Status.error, b, s₂) := by
  simp only [openFile, answer, tryOpen, bind, EStateM.bind, hl, call, callWith, ha]
  rfl

/-- A file that is found, taken and prepared is opened while there are descriptors. -/
theorem openFile_of_entered (hl : locate path (.ofWord flags) (b, s) = .ok x (b, s₁))
    (ha : S.acquire x.1 s₁ = .ok h s₂) (hp : prepare h (.ofWord flags) (b, s₂) = .ok () (b, s₃))
    (hfd : b.nextFd < lastFd) :
    openFile path flags (b, s) = (b.nextFd, b.entered ⟨h, x.2⟩, s₃) := by
  simp only [openFile, answer, tryOpen, bind, EStateM.bind, hl, call, callWith, ha, holding, hp,
    enter, if_pos hfd]
  rfl

/-- A file that is found, taken and prepared is given up when there is no descriptor for it. -/
theorem openFile_of_exhausted (hl : locate path (.ofWord flags) (b, s) = .ok x (b, s₁))
    (ha : S.acquire x.1 s₁ = .ok h s₂) (hp : prepare h (.ofWord flags) (b, s₂) = .ok () (b, s₃))
    (hfd : lastFd ≤ b.nextFd) :
    openFile path flags (b, s) = (Status.error, b, S.release h s₃) := by
  simp only [openFile, answer, tryOpen, bind, EStateM.bind, hl, call, callWith, ha, holding, hp,
    enter, if_neg (Int.not_lt.2 hfd)]
  rfl

end AnyStorage

/-! ### Files that are held -/

section Held

open EngineHost.Storage EngineHost.Tree

variable {a : Allocator} {t : Tree} {b : Bridge (memory a)} {path : String} {i : Inode}
  {data : Content} {locked : Bool}

/-- A file that a path names is there when the path is asked for. -/
theorem access_of_named (hb : b.root = some rootInode) (ht : t.WellFormed) (hnames : t.Names path i)
    (hi : t.node? i = some (.file data locked)) : access path (b, t) = (Status.present, b, t) := by
  obtain ⟨p, hp, hd⟩ := hnames
  obtain ⟨d, -, -, hwalk, hfile⟩ := ht.reach_file a hd hi
  simp only [access_of_parse hb hp, hwalk, hfile]

/-- A file that is held is not deleted. -/
theorem delete_of_held (hb : b.root = some rootInode) (ht : t.WellFormed) (hnames : t.Names path i)
    (hi : t.node? i = some (.file data true)) : delete path (b, t) = (Status.ioError, b, t) := by
  obtain ⟨p, hp, hd⟩ := hnames
  obtain ⟨d, hc, hname, hwalk, -⟩ := ht.reach_file a hd hi
  have hremove : (memory a).remove d p.fileName t = .error .noModificationAllowed t :=
    memory_remove_of_locked hname hc hi
  simp only [delete_of_parse hb hp, hwalk, hremove]
  rfl

/-- A file that is held is not opened, whatever the flags. -/
theorem openFile_of_held (hb : b.root = some rootInode) (ht : t.WellFormed)
    (hnames : t.Names path i) (hi : t.node? i = some (.file data true)) (flags : Int32) :
    openFile path flags (b, t) = (Status.error, b, t) := by
  obtain ⟨p, hp, hd⟩ := hnames
  obtain ⟨d, -, -, hwalk, hfile⟩ := ht.reach_file a hd hi
  have hlocate : locate path (.ofWord flags) (b, t) = .ok (i, p.normalized) (b, t) :=
    locate_ok_iff.2 ⟨rootInode, p, d, t, t, hb, hp, hwalk true, hfile _, rfl, rfl⟩
  exact openFile_of_refused hlocate (memory_acquire_of_locked hi)

end Held

end Bridge

end EngineHost
