import EngineHost.Proofs.Disk.OpenFile

/-!
# The calls of the storage on a disk

What the calls that make and open files, and those through an access handle, do to the disk when
they succeed, told by the functions of the disk.

* `Storage.onDisk_file_ok` : a file is found, or made where none was.
* `Storage.onDisk_acquire_ok` : a handle is a new open file with its lock taken.
* `Storage.onDisk_read_ok`, `Storage.onDisk_write_ok` and so on : a call through a handle is one
  call to the system.
-/

namespace EngineHost

namespace Storage

open Disk DiskProgram

variable {root : String} {w w' : System} {d f : DiskPath} {name : String} {create : Bool}
  {y : DiskAccess} {id : DescriptionId}

theorem perform_childPath_ok_iff {p : DiskPath} :
    perform (childPath d name) w = .ok p w' ↔
      isEntryName name = true ∧ p = d ++ [name] ∧ w' = w := by
  rw [childPath, checkName]
  split_ifs with hname
  · simp only [perform_pure, attempt_pure_ok_iff, hname, true_and]
  · simp only [perform_throw, attempt_throw_ok_iff, hname, Bool.false_eq_true, false_and]

/-- What stands at a path, asked for by a program. -/
theorem perform_kind_ok_iff {p : DiskPath} {r : Except IoError EntryKind} :
    perform (system (.kind p)) w = .ok r w' ↔ r = (routeOf p >>= w.disk.kindAt) ∧ w' = w := by
  have hsystem : perform (system (.kind p)) w = .ok (routeOf p >>= w.disk.kindAt) w := rfl
  rw [hsystem, EStateM.Result.ok.injEq, eq_comm, eq_comm (a := w)]

theorem perform_createFile_ok_iff {p : DiskPath} {u : Unit} :
    perform (call (.createFile p)) w = .ok u w' ↔
      ∃ i disk, (routeOf p >>= w.disk.createFile) = .ok (i, disk) ∧
        w' = { w with disk := disk } := by
  refine perform_call_ok_iff.trans ?_
  cases hmade : routeOf p >>= w.disk.createFile with
  | ok made =>
    obtain ⟨i, disk⟩ := made
    simp [SystemCall.perform, hmade, Except.map, SystemCall.changing]
  | error e => simp [SystemCall.perform, hmade, Except.map, SystemCall.changing]

/-- A file is found as it is, or it is missing and made. -/
theorem onDisk_file_ok_iff :
    (onDisk root).file d name create w = .ok f w' ↔ isEntryName name = true ∧ f = d ++ [name] ∧
      (((routeOf f >>= w.disk.kindAt) = .ok .file ∧ w' = w) ∨
        (create = true ∧ (∃ e, (routeOf f >>= w.disk.kindAt) = .error e ∧ e.kind = .notFound) ∧
          ∃ i disk, (routeOf f >>= w.disk.createFile) = .ok (i, disk) ∧
            w' = { w with disk := disk })) := by
  simp only [onDisk, DiskProgram.file, perform_bind, attempt_bind_ok_iff, perform_childPath_ok_iff]
  constructor
  · rintro ⟨_, _, ⟨hname, rfl, rfl⟩, r, w₁, hkind, h⟩
    obtain ⟨rfl, rfl⟩ := perform_kind_ok_iff.1 hkind
    cases hr : routeOf (d ++ [name]) >>= w₁.disk.kindAt with
    | ok kind =>
      rw [hr] at h
      cases kind with
      | file =>
        obtain ⟨rfl, rfl⟩ := attempt_pure_ok_iff.1 h
        exact ⟨hname, rfl, .inl ⟨hr, rfl⟩⟩
      | directory => cases h
    | error e =>
      rw [hr] at h
      dsimp only at h
      split_ifs at h with hmake
      · rw [Bool.and_eq_true, decide_eq_true_eq] at hmake
        rw [perform_bind, attempt_bind_ok_iff] at h
        obtain ⟨_, w₂, hmade, h⟩ := h
        obtain ⟨rfl, rfl⟩ := attempt_pure_ok_iff.1 h
        exact ⟨hname, rfl, .inr ⟨hmake.2, ⟨e, hr, hmake.1⟩, perform_createFile_ok_iff.1 hmade⟩⟩
      · cases h
  · rintro ⟨hname, rfl, h⟩
    refine ⟨_, w, ⟨hname, rfl, rfl⟩, _, w, perform_kind_ok_iff.2 ⟨rfl, rfl⟩, ?_⟩
    rcases h with ⟨hr, rfl⟩ | ⟨rfl, ⟨e, hr, hmissing⟩, hmade⟩
    · rw [hr]
      exact attempt_pure_ok_iff.2 ⟨rfl, rfl⟩
    · rw [hr]
      dsimp only
      rw [if_pos (by simp [hmissing]), perform_bind, attempt_bind_ok_iff]
      exact ⟨(), w', perform_createFile_ok_iff.2 hmade, attempt_pure_ok_iff.2 ⟨rfl, rfl⟩⟩

theorem perform_openFile_ok_iff {p : DiskPath} {write : Bool} :
    perform (call (.openFile p write)) w = .ok id w' ↔
      ∃ disk, (routeOf p >>= fun r => w.disk.openFile r write) = .ok (id, disk) ∧
        w' = { w with disk := disk } := by
  refine perform_call_ok_iff.trans ?_
  cases hopened : routeOf p >>= fun r => w.disk.openFile r write with
  | ok opened => simp [SystemCall.perform, hopened, Prod.ext_iff, and_assoc, eq_comm]
  | error e => simp [SystemCall.perform, hopened]

theorem perform_lockOrClose_ok_iff {u : Unit} :
    perform (lockOrClose id) w = .ok u w' ↔
      ∃ disk, w.disk.tryLock id = .ok disk ∧ w' = { w with disk := disk } := by
  have hsystem : perform (system (.tryLock id)) w =
      .ok (SystemCall.changing w.disk (w.disk.tryLock id)).1
        { w with disk := (SystemCall.changing w.disk (w.disk.tryLock id)).2 } := rfl
  rw [lockOrClose, perform_bind, attempt_bind_ok_iff]
  constructor
  · rintro ⟨r, w₁, hlock, h⟩
    rw [hsystem] at hlock
    cases hlocked : w.disk.tryLock id with
    | ok disk =>
      rw [hlocked] at hlock
      cases hlock
      cases h
      exact ⟨disk, rfl, rfl⟩
    | error e =>
      rw [hlocked] at hlock
      cases hlock
      cases h
  · rintro ⟨disk, hlocked, rfl⟩
    exact ⟨_, _, hsystem, by rw [hlocked]; rfl⟩

/-- A handle is a new open file, of which the lock is taken. -/
theorem onDisk_acquire_ok (h : (onDisk root).acquire f w = .ok y w') :
    f ∉ w.held ∧ ∃ id opened locked,
      (routeOf f >>= fun r => w.disk.openFile r true) = .ok (id, opened) ∧
        opened.tryLock id = .ok locked ∧ y = ⟨f, some id⟩ ∧ w' = ⟨locked, f :: w.held⟩ := by
  replace h : perform (DiskProgram.acquire f) w = .ok y w' := h
  rw [DiskProgram.acquire, perform_bind, attempt_bind_ok_iff] at h
  obtain ⟨entered, w₁, hregister, h⟩ := h
  rw [perform_table, TableStep.perform] at hregister
  split_ifs at hregister with hheld
  · -- the path is in the table already
    cases hregister
    cases h
  · cases hregister
    refine ⟨hheld, ?_⟩
    replace h : (perform (ExceptT.lift (openLocked f) >>= _)) _ = _ := h
    rw [perform_bind, attempt_bind_ok_iff] at h
    obtain ⟨r, w₂, hlift, h⟩ := h
    rw [perform_lift] at hlift
    cases r with
    | error e => cases h
    | ok id =>
      obtain ⟨hy, rfl⟩ := attempt_pure_ok_iff.1 h
      obtain ⟨hanswer, hstate⟩ := EStateM.Result.ok.inj hlift
      have hopened : perform (openLocked f) ⟨w.disk, f :: w.held⟩ = .ok id w' :=
        perform_ok_iff.2 (Prod.ext hanswer hstate)
      simp only [openLocked, perform_bind, attempt_bind_ok_iff] at hopened
      obtain ⟨id', w₁, hopen, _, w₂, hlock, hpure⟩ := hopened
      obtain ⟨rfl, rfl⟩ := attempt_pure_ok_iff.1 hpure
      obtain ⟨opened, hopens, rfl⟩ := perform_openFile_ok_iff.1 hopen
      obtain ⟨locked, hlocks, rfl⟩ := perform_lockOrClose_ok_iff.1 hlock
      exact ⟨id, opened, locked, hopens, hlocks, hy, rfl⟩

/-! ### Calls through a handle -/

/-- What is called through a handle is called on its open file. -/
theorem perform_opened {α : Type} {p : DescriptionId → DiskProgram α} {a : α}
    (hfile : y.file = some id) (h : perform (p id) w = .ok a w') :
    perform (DiskProgram.openFile y >>= p) w = .ok a w' := by
  rwa [DiskProgram.openFile, hfile, perform_bind, perform_pure, pure_bind]

theorem perform_call_map {α : Type} {c : SystemCall} {v : c.Value} {disk : Disk}
    (h : c.perform w.disk = (.ok v, disk)) (g : c.Value → α) :
    perform (call c >>= fun v => pure (g v)) w = .ok (g v) { w with disk := disk } := by
  rw [perform_bind]
  exact attempt_bind_ok_iff.2 ⟨v, _, perform_call_ok_iff.2 ⟨disk, h, rfl⟩, rfl⟩

theorem onDisk_read_ok {count : Nat} {offset : UInt64} {bytes : List UInt8}
    (hfile : y.file = some id) (h : w.disk.read id count offset.toNat = .ok bytes) :
    (onDisk root).read y count offset w = .ok (.ofBytes bytes) w :=
  perform_opened hfile (perform_call_map (by rw [SystemCall.perform, h]; rfl) _)

theorem onDisk_write_ok {bytes : List UInt8} {offset : UInt64} {disk : Disk}
    (hfile : y.file = some id) (h : w.disk.write id bytes offset.toNat = .ok disk) :
    (onDisk root).write y bytes offset w = .ok bytes.length { w with disk := disk } :=
  perform_opened hfile (perform_call_map (by rw [SystemCall.perform, h]; rfl) _)

theorem onDisk_truncate_ok {length : UInt64} {disk : Disk} (hfile : y.file = some id)
    (h : w.disk.setLength id length.toNat = .ok disk) :
    (onDisk root).truncate y length w = .ok () { w with disk := disk } :=
  perform_opened hfile (perform_call_ok_iff.2 ⟨disk, by rw [SystemCall.perform, h]; rfl, rfl⟩)

theorem onDisk_flush_ok {p : Nat × Content} (hfile : y.file = some id)
    (h : w.disk.contentOf id = .ok p) : (onDisk root).flush y w = .ok () w :=
  perform_opened hfile (perform_call_ok_iff.2 ⟨w.disk, by rw [SystemCall.perform, h]; rfl, rfl⟩)

theorem onDisk_size_ok {n : Nat} (hfile : y.file = some id) (h : w.disk.length id = .ok n) :
    (onDisk root).size y w = .ok n w :=
  perform_opened hfile (perform_call_ok_iff.2 ⟨w.disk, by rw [SystemCall.perform, h]; rfl, rfl⟩)

end Storage

end EngineHost
