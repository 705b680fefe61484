import EngineHost.Proofs.Bridge.Exclusion
import EngineHost.Proofs.Bridge.Walk
import EngineHost.Proofs.Tree.Bytes
import EngineHost.Proofs.Tree.Quota

/-!
# Bridges over the storage in memory

What the operations of a bridge come to when its files are those of a tree.

* `Bridge.read_memory`, `Bridge.write_memory`, `Bridge.truncate_memory`, `Bridge.fileSize_memory` :
  the operations on an open file, told by the calls of the storage.
* `Bridge.idleFile?` : the file that opening a path would find, if nobody holds it.  Opening takes
  the handle of this file or makes a new one (`Bridge.idleFile?_of_acquire`).
* `Fleet.Ready` : what holds of every fleet over the storage in memory (`Fleet.ready_run`).
-/

namespace EngineHost

open Bridge Bytes
open EngineHost.Storage EngineHost.Tree

variable {a : Allocator} {t t' : Tree} {i : Inode} {l : List UInt8}

namespace Bridge

variable {b : Bridge (memory a)} {fd : Int} {file : OpenFile (memory a)}

/-- Writing through an open handle; making the bytes durable never fails. -/
theorem write_memory (hfd : b.file? fd = some file)
    (hopen : MemoryAccess.closed file.handle = false) (data : List UInt8) (offset : UInt64)
    (t : Tree) :
    Bridge.write fd data offset (b, t) =
      match (memory a).write file.handle data offset t with
      | .ok n t' => (Status.ofCount n, b, t')
      | .error _ t' => (IoOp.write.failureStatus, b, t') := by
  have hflush := memory_flush_of_open (a := a) hopen
  simp only [Bridge.write, answer, bind, EStateM.bind, requireFile, hfd, call, callWith]
  cases (memory a).write file.handle data offset t with
  | ok n t' => simp only [hflush]; rfl
  | error e t' => rfl

/-- Changing the length through an open handle. -/
theorem truncate_memory (hfd : b.file? fd = some file)
    (hopen : MemoryAccess.closed file.handle = false) (size : UInt64) (t : Tree) :
    Bridge.truncate fd size (b, t) =
      match (memory a).truncate file.handle size t with
      | .ok _ t' => (Status.ok, b, t')
      | .error _ t' => (IoOp.truncate.failureStatus, b, t') := by
  have hflush := memory_flush_of_open (a := a) hopen
  simp only [Bridge.truncate, answer, bind, EStateM.bind, requireFile, hfd, call, callWith]
  cases (memory a).truncate file.handle size t with
  | ok n t' => simp only [hflush]
  | error e t' => rfl

/-- What a read finds, from the offset on and up to the end of the buffer or of the file. -/
theorem slice_eq_extract (data : Content) (offset count : Nat) :
    data.slice offset count =
      data.toList.extract offset (min (offset + count) data.toList.length) := by
  rw [Content.slice_eq, List.extract_eq_take_drop, List.take_eq_take_iff, List.length_drop]
  omega

/-- Reading through an open handle. -/
theorem read_memory (hfd : b.file? fd = some file)
    (hopen : MemoryAccess.closed file.handle = false)
    (hl : t.bytes? (MemoryAccess.inode file.handle) = some l) (buffer : List UInt8)
    (offset : UInt64) :
    let found := l.extract offset.toNat (min (offset.toNat + buffer.length) l.length)
    Bridge.read fd buffer offset (b, t) =
      ((Status.ofCount found.length, found ++ buffer.drop found.length), b, t) := by
  intro found
  obtain ⟨data, locked, hi, rfl⟩ := bytes?_eq_some_iff.1 hl
  have hread : (memory a).read file.handle buffer.length offset t = .ok (.ofBytes found) t :=
    memory_read_ok_iff.2 ⟨hopen, ⟨data, data_ok_iff.2 ⟨locked, hi⟩, by
      rw [slice_eq_extract]⟩, rfl⟩
  have hfits : found.length ≤ buffer.length := by
    simp only [found, List.extract_eq_take_drop, List.length_take, List.length_drop]
    omega
  simp only [Bridge.read, bind, EStateM.bind, requireFile, hfd, call, callWith, hread, fill,
    Chunk.ofBytes, List.take_of_length_le hfits]

/-- The length of a file with an open handle. -/
theorem fileSize_memory (hfd : b.file? fd = some file)
    (hopen : MemoryAccess.closed file.handle = false)
    (hl : t.bytes? (MemoryAccess.inode file.handle) = some l) :
    Bridge.fileSize fd (b, t) = (Status.ofSize l.length, b, t) := by
  obtain ⟨data, locked, hi, rfl⟩ := bytes?_eq_some_iff.1 hl
  have hsize : (memory a).size file.handle t = .ok data.toList.length t :=
    memory_size_ok_iff.2
      ⟨hopen, ⟨data, data_ok_iff.2 ⟨locked, hi⟩, Content.length_toList data⟩, rfl⟩
  simp only [Bridge.fileSize, answer, bind, EStateM.bind, requireFile, hfd, call, callWith, hsize]

/-- Making the bytes of an open file durable never fails. -/
theorem sync_memory (hfd : b.file? fd = some file)
    (hopen : MemoryAccess.closed file.handle = false) (t : Tree) :
    Bridge.sync fd (b, t) = (Status.ok, b, t) := by
  have hflush := memory_flush_of_open (a := a) hopen
  simp only [Bridge.sync, answer, bind, EStateM.bind, requireFile, hfd, call, callWith, hflush]

/-- Closing an open file never fails. -/
theorem closeFile_memory (hfd : b.file? fd = some file)
    (hopen : MemoryAccess.closed file.handle = false) (t : Tree) :
    Bridge.closeFile fd (b, t) =
      (Status.ok, b.left fd, t.unlock (MemoryAccess.inode file.handle)) := by
  obtain ⟨⟨i, closed⟩, path⟩ : OpenFile (memory a) := file
  cases hopen
  simp only [Bridge.closeFile, hfd]
  rfl

/-- Preparing a file through an open handle never fails. -/
theorem prepare_eq {h : MemoryAccess} (hopen : h.closed = false) {data : Content} {locked : Bool}
    (hi : t.node? h.inode = some (.file data locked)) (flags : OpenFlags)
    (b : Bridge (memory a)) :
    prepare (S := memory a) h flags (b, t) =
      .ok () (b, if flags.has .truncate then t.resized h.inode data locked 0 else t) := by
  have hflush := memory_flush_of_open (a := a) hopen
  have hsize : ∀ {t data locked}, t.node? h.inode = some (.file data locked) →
      (memory a).size h t = .ok data.length t := by
    intro t data locked hi
    exact memory_size_ok_iff.2 ⟨hopen, ⟨data, data_ok_iff.2 ⟨locked, hi⟩, rfl⟩, rfl⟩
  split_ifs with hflag
  · have htruncate : (memory a).truncate h 0 t = .ok () (t.resized h.inode data locked 0) :=
      memory_truncate_ok_iff.2 ⟨hopen, resize_ok_iff.2
        ⟨data, locked, hi, fun hgrow => absurd hgrow (Nat.not_lt_zero _), rfl⟩⟩
    have hi' : (t.resized h.inode data locked 0).node? h.inode =
        some (.file (data.resize 0) locked) := by rw [node?_resized hi, if_pos rfl]
    simp only [prepare, hflag, if_true, bind, EStateM.bind, call, callWith, htruncate, hflush,
      hsize hi']
    rfl
  · simp only [prepare, hflag, Bool.false_eq_true, if_false, bind, EStateM.bind, call, callWith,
      hsize hi]
    rfl

/-- What preparing a file leaves: the file is empty if that was asked, and nothing else changes. -/
theorem prepare_memory {h : MemoryAccess} (hopen : h.closed = false)
    (hl : t.bytes? h.inode = some l) (flags : OpenFlags) (b : Bridge (memory a)) :
    ∃ t', prepare (S := memory a) h flags (b, t) = .ok () (b, t') ∧
      if flags.has .truncate then SetsBytes h.inode [] t t' else t' = t := by
  obtain ⟨data, locked, hi, rfl⟩ := bytes?_eq_some_iff.1 hl
  refine ⟨_, prepare_eq hopen hi flags b, ?_⟩
  split_ifs with hflag
  · simpa using setsBytes_resized hi 0
  · rfl

/-- The file that opening a path would find, if nobody holds it. -/
def idleFile? (b : Bridge (memory a)) (t : Tree) (path : String) : Option Inode :=
  b.root.bind fun _ => t.idleFile? path

/-- The bridge has no other root than that of the tree. -/
def Rooted (b : Bridge (memory a)) : Prop := ∀ d, b.root = some d → d = rootInode

variable {path : String} {flags : OpenFlags} {x : Inode × String} {t₁ t₂ t₃ : Tree}
  {h : MemoryAccess}

/-- An idle file is found without a change to the tree. -/
theorem locate_of_idle (hb : b.Rooted) (ht : t.Grown) (hi : b.idleFile? t path = some i)
    (flags : OpenFlags) :
    ∃ normalized, locate path flags (b, t) = .ok (i, normalized) (b, t) := by
  obtain ⟨root, hroot, hi⟩ := Option.bind_eq_some_iff.1 hi
  obtain rfl := hb _ hroot
  obtain ⟨p, data, hp, hd, hdata⟩ := idleFile?_eq_some_iff.1 hi
  obtain ⟨d, -, -, hwalk, hfile⟩ := ht.wellFormed.reach_file a hd hdata
  exact ⟨p.normalized, locate_ok_iff.2
    ⟨rootInode, p, d, t, t, hroot, hp, hwalk true, hfile _, rfl, rfl⟩⟩

/-- A file whose handle an open took is the one that was found idle, or there was none and it is
new. -/
theorem idleFile?_of_acquire (hb : b.Rooted) (ht : t.Grown)
    (hl : locate path flags (b, t) = .ok x (b, t₁)) (ha : (memory a).acquire x.1 t₁ = .ok h t₂) :
    b.idleFile? t path = some x.1 ∨ (b.idleFile? t path = none ∧ t.nextInode ≤ x.1) := by
  obtain ⟨root, p, d, t', t'', hroot, hp, hwalk, hfile, -, hw⟩ := locate_ok_iff.1 hl
  obtain rfl := hb _ hroot
  cases hw
  cases hidle : b.idleFile? t path with
  | some i =>
    obtain ⟨normalized, hl'⟩ := locate_of_idle hb ht hidle flags
    rw [hl] at hl'
    cases hl'
    exact .inl rfl
  | none =>
    obtain ⟨hlock, -⟩ := memory_acquire_ok_iff.1 ha
    -- nobody held the file whose handle was taken, so had it been there it would have been found
    rcases ht.file_found_or_new hp hwalk hfile hlock with hi | hi
    · rw [Bridge.idleFile?, hroot] at hidle
      exact absurd (hidle.symm.trans hi) nofun
    · exact .inr ⟨rfl, hi⟩

/-- A handle is taken on an idle file. -/
theorem acquire_of_idle (hi : b.idleFile? t path = some i) :
    ∃ t', (memory a).acquire i t = .ok ⟨i, false⟩ t' := by
  obtain ⟨root, -, hi⟩ := Option.bind_eq_some_iff.1 hi
  obtain ⟨p, data, -, -, hdata⟩ := idleFile?_eq_some_iff.1 hi
  exact ⟨_, memory_acquire_ok_iff.2 ⟨lock_ok_iff.2 ⟨data, hdata, rfl⟩, rfl⟩⟩

/-- Where no file is found to open, none is idle. -/
theorem idleFile?_of_lost (hb : b.Rooted) (ht : t.Grown) {e : VfsError}
    {w : Bridge (memory a) × Tree} (hl : locate path flags (b, t) = .error e w) :
    b.idleFile? t path = none := by
  cases hi : b.idleFile? t path with
  | none => rfl
  | some i =>
    obtain ⟨_, hl'⟩ := locate_of_idle hb ht hi flags
    rw [hl] at hl'
    cases hl'

/-- A file whose handle is refused is not idle. -/
theorem idleFile?_of_refused (hb : b.Rooted) (ht : t.Grown) {e : StorageError}
    (hl : locate path flags (b, t) = .ok x (b, t₁))
    (ha : (memory a).acquire x.1 t₁ = .error e t₂) : b.idleFile? t path = none := by
  cases hi : b.idleFile? t path with
  | none => rfl
  | some i =>
    obtain ⟨_, hl'⟩ := locate_of_idle hb ht hi flags
    rw [hl] at hl'
    cases hl'
    obtain ⟨_, ha'⟩ := acquire_of_idle hi
    rw [ha] at ha'
    cases ha'

/-- Once its handle is taken, a file is prepared. -/
theorem prepare_of_acquire (b : Bridge (memory a)) (flags : OpenFlags) {i : Inode}
    (ha : (memory a).acquire i t₁ = .ok h t₂) :
    ∃ l t', t₂.bytes? i = some l ∧ prepare (S := memory a) h flags (b, t₂) = .ok () (b, t') ∧
      if flags.has .truncate then SetsBytes i [] t₂ t' else t' = t₂ := by
  obtain ⟨hlock, rfl⟩ := memory_acquire_ok_iff.1 ha
  obtain ⟨data, hdata, rfl⟩ := lock_ok_iff.1 hlock
  have hi : (t₁.setNode i (.file data true)).node? i = some (.file data true) := by
    rw [node?_setNode hdata, if_pos rfl]
  obtain ⟨t', hp, hset⟩ := prepare_memory (h := ⟨i, false⟩) rfl (bytes?_of_file hi) flags b
  exact ⟨data.toList, t', bytes?_of_file hi, hp, hset⟩

end Bridge

/-! ### Fleets -/

open Storage (Holding)

namespace Fleet

/-- What holds of every fleet over the storage in memory. -/
structure Ready (f : Fleet (memory a)) : Prop where
  sound : f.Sound (Holding.memory a)
  rooted : ∀ {k b}, f.bridges k = some b → b.Rooted
  grown : f.store.Grown
  short : f.store.Short

variable {f f' : Fleet (memory a)} {k : Nat} {fd : Int}

theorem ready_start (quota : UInt64) : Ready (a := a) (start (Tree.empty quota)) where
  sound := .start (Tree.locked_empty quota)
  rooted h := by cases h
  grown := grown_empty quota
  short := short_empty quota

theorem Ready.step (hf : f.Ready) (op : FleetOp) : (f.step op).Ready where
  sound := hf.sound.step op
  rooted {j b} hb := by
    refine bridges_step (P := Rooted) (fun d hd => ?_) (fun op w hw d hd => ?_) hf.rooted op hb
    · cases hd
    · refine op.perform_root (S := memory a) (P := fun d => d = rootInode) (fun h => ?_)
        (fun hd => hw _ hd) hd
      cases h
      rfl
  grown := (step_keeps (memory_keeps a) f op).keeps Step.grown hf.grown
  short := (step_keeps (memory_keeps a) f op).keeps Step.short hf.short

/-- The handle of a file that is open is not closed. -/
theorem Ready.open_of_file? (hf : f.Ready) {b : Bridge (memory a)} {file : OpenFile (memory a)}
    (hb : f.bridges k = some b) (hfd : b.file? fd = some file) :
    MemoryAccess.closed file.handle = false := by
  have hopen : (!MemoryAccess.closed file.handle) = true :=
    hf.sound.isOpen (file?_eq_some_iff.2 ⟨b, hb, hfd⟩)
  simpa using hopen

/-- The file behind a descriptor is there, and its handle is open. -/
theorem Ready.file (hf : f.Ready) (hi : f.behind (Holding.memory a) (k, fd) = some i) :
    ∃ b file l, f.bridges k = some b ∧ b.file? fd = some file ∧
      MemoryAccess.closed file.handle = false ∧ MemoryAccess.inode file.handle = i ∧
      f.store.bytes? i = some l := by
  obtain ⟨file, hfile, htarget⟩ := Option.map_eq_some_iff.1 hi
  obtain ⟨b, hb, hfd⟩ := file?_eq_some_iff.1 hfile
  obtain ⟨data, hdata⟩ : i ∈ f.store.locked := (hf.sound.exclusive.held_iff i).2 ⟨(k, fd), hi⟩
  exact ⟨b, file, data.toList, hb, hfd, hf.open_of_file? hb hfd, htarget, bytes?_of_file hdata⟩

theorem ready_run (a : Allocator) (quota : UInt64) (ops : List FleetOp) :
    Ready (a := a) ((start (Tree.empty quota)).run ops) :=
  run_keeps (P := Ready) (fun op hf => hf.step op) (ready_start quota) ops

/-- The used bytes are counted exactly in every reachable state. -/
theorem accounted_run (a : Allocator) (quota : UInt64) (ops : List FleetOp) :
    ((start (Tree.empty quota) : Fleet (memory a)).run ops).store.Accounted quota :=
  run_keeps (P := fun f : Fleet (memory a) => f.store.Accounted quota)
    (fun op hf => (step_keeps (memory_keeps a) _ op).keeps Step.accounted hf)
    (accounted_empty quota) ops

end Fleet

end EngineHost
