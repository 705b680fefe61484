import EngineHost.Proofs.Disk.Table
import EngineHost.Proofs.Tree.Session

/-!
# Processes with files on disk

A `Process` is a process that works with any number of directories of a disk as storages, and every
handle it obtained on them.  It makes the calls of `Tree.Call`, each on the storage of a directory
that comes with the call; a handle on an entry may be used with any of them, as it is a path.  Who
answers the system calls is a player, so that any of them may fail at any time.

The table of the process then tells of the handles what the process itself knows of them:

* `Process.holder` : the file of a handle, from when it was taken until it is closed or dropped.
* `Process.Sound.step`, `Process.sound_run` : a path is in the table when it is that of one such
  handle, and no two have the same one.
* `Process.run_registered` : what follows about the next call.
-/

namespace EngineHost

variable {τ α β : Type} {P : Player τ}

/-- An access handle, and what its owner did with it. -/
structure OwnedHandle where
  /-- The file it was taken on. -/
  path : DiskPath
  access : DiskAccess
  /-- Whether it was closed, whatever closing answered. -/
  closed : Bool
  dropped : Bool

namespace OwnedHandle

/-- The file that a handle is on, while it is neither closed nor dropped. -/
def file? (h : OwnedHandle) : Option DiskPath := if h.closed || h.dropped then none else some h.path

/-- A handle is on the file it was taken on, and open until it is closed. -/
structure Faithful (h : OwnedHandle) : Prop where
  path : h.access.path = h.path
  isOpen : h.access.file.isSome = !h.closed

end OwnedHandle

/-- A process and the handles it obtained on directories, files and their contents. -/
structure Process (τ : Type) where
  state : τ
  directories : List DiskPath
  files : List DiskPath
  handles : List OwnedHandle

namespace Process

open Storage

/-- A process that has not used any storage yet. -/
def start (m : τ) : Process τ := ⟨m, [], [], []⟩

/-- The access handle at a place, unless it was dropped. -/
def handle? (s : Process τ) (k : Nat) : Option OwnedHandle :=
  s.handles[k]?.filter fun h => !h.dropped

/-- A call on a handle; without one it is not made. -/
def through (s : Process τ) (handle : Option α) (x : α → StorageM τ β) : Process τ :=
  match handle with
  | some h => { s with state := stateAfter (x h s.state) }
  | none => s

/-- A call on a handle that obtains another one, and what is done with the new one. -/
def obtaining (s : Process τ) (handle : Option α) (x : α → StorageM τ β)
    (enter : α → β → Process τ → Process τ) : Process τ :=
  match handle with
  | some h =>
    match x h s.state with
    | .ok b m => enter h b { s with state := m }
    | .error _ m => { s with state := m }
  | none => s

def enterDirectory (d : DiskPath) (s : Process τ) : Process τ :=
  { s with directories := s.directories ++ [d] }

def enterFile (f : DiskPath) (s : Process τ) : Process τ := { s with files := s.files ++ [f] }

/-- Keeps a new access handle on a file. -/
def enterAccess (f : DiskPath) (h : DiskAccess) (s : Process τ) : Process τ :=
  { s with handles := s.handles ++ [⟨f, h, false, false⟩] }

/-- One call, on the storage below a directory of the disk. -/
def step (P : Player τ) (s : Process τ) (root : String) : Tree.Call → Process τ
  | .root => s.obtaining (some ()) (fun _ => (played P root).root) fun _ => enterDirectory
  | .directory d name create =>
    s.obtaining s.directories[d]? (fun d => (played P root).directory d name create)
      fun _ => enterDirectory
  | .file d name create =>
    s.obtaining s.directories[d]? (fun d => (played P root).file d name create) fun _ => enterFile
  | .remove d name => s.through s.directories[d]? fun d => (played P root).remove d name
  | .acquire f => s.obtaining s.files[f]? (played P root).acquire enterAccess
  | .read k count offset =>
    s.through (s.handle? k) fun h => (played P root).read h.access count offset
  | .write k bytes offset =>
    s.through (s.handle? k) fun h => (played P root).write h.access bytes offset
  | .truncate k size => s.through (s.handle? k) fun h => (played P root).truncate h.access size
  | .flush k => s.through (s.handle? k) fun h => (played P root).flush h.access
  | .size k => s.through (s.handle? k) fun h => (played P root).size h.access
  | .close k =>
    match s.handle? k with
    | some h =>
      let (_, access, m) := (played P root).close h.access s.state
      { s with state := m, handles := s.handles.set k { h with access, closed := true } }
    | none => s
  | .release k =>
    match s.handle? k with
    | some h =>
      { s with
        state := (played P root).release h.access s.state
        handles := s.handles.set k { h with dropped := true } }
    | none => s

/-- Calls one after another, each on the storage below a directory. -/
def run (P : Player τ) (s : Process τ) (calls : List (String × Tree.Call)) : Process τ :=
  calls.foldl (fun s c => s.step P c.1 c.2) s

/-- What every call keeps, calls one after another keep. -/
theorem run_keeps {I : Process τ → Prop} (hI : ∀ {s} root c, I s → I (s.step P root c))
    {s : Process τ} (hs : I s) (calls : List (String × Tree.Call)) : I (s.run P calls) := by
  induction calls generalizing s with
  | nil => exact hs
  | cons c calls ih => exact ih (hI c.1 c.2 hs)

/-! ### Handles -/

/-- The file that an access handle is on, from when it was taken until it is closed or dropped. -/
def holder (s : Process τ) (k : Nat) : Option DiskPath := s.handles[k]?.bind OwnedHandle.file?

variable {s s' : Process τ} {k : Nat} {h h' : OwnedHandle}

theorem handle?_eq_some_iff :
    s.handle? k = some h ↔ s.handles[k]? = some h ∧ h.dropped = false := by
  simp [handle?, Option.filter_eq_some_iff]

theorem holder_of_handle? (hk : s.handle? k = some h) :
    s.holder k = if h.closed then none else some h.path := by
  obtain ⟨hget, hdropped⟩ := handle?_eq_some_iff.1 hk
  simp [holder, hget, OwnedHandle.file?, hdropped]

theorem holder_length (s : Process τ) : s.holder s.handles.length = none := by simp [holder]

theorem holder_enterAccess (f : DiskPath) (y : DiskAccess) (s : Process τ) (k : Nat) :
    (s.enterAccess f y).holder k = if k = s.handles.length then some f else s.holder k := by
  simp only [holder, enterAccess, List.getElem?_append, List.getElem?_singleton]
  split_ifs
  all_goals grind [OwnedHandle.file?]

/-- Putting what became of a handle in its place. -/
theorem holder_set (hk : s.handle? k = some h) (m : τ) (h' : OwnedHandle) (j : Nat) :
    ({ s with state := m, handles := s.handles.set k h' } : Process τ).holder j =
      if j = k then h'.file? else s.holder j := by
  have hget : s.handles[k]? = some h := (handle?_eq_some_iff.1 hk).1
  have hlen : k < s.handles.length := (List.getElem?_eq_some_iff.1 hget).1
  by_cases hj : j = k
  · subst hj
    simp [holder, hlen]
  · simp [holder, hj, List.getElem?_set_ne (Ne.symm hj)]

/-! ### The table and the handles -/

variable {T : P.Tabled} {root : String}

/-- The table holds the files of the handles that are neither closed nor dropped, and no two of them
have the same one. -/
structure Sound (T : P.Tabled) (s : Process τ) : Prop where
  exclusive : Exclusive (T.registered s.state) s.holder
  faithful : ∀ h ∈ s.handles, h.Faithful

namespace Sound

theorem faithful_of_handle? (hs : s.Sound T) (hk : s.handle? k = some h) : h.Faithful :=
  hs.faithful h (List.mem_of_getElem? (handle?_eq_some_iff.1 hk).1)

/-- A call that leaves the table and the access handles alone. -/
theorem same (hs : s.Sound T) (hheld : T.registered s'.state = T.registered s.state)
    (hhandles : s'.handles = s.handles) : s'.Sound T where
  exclusive := by
    have hholder : s'.holder = s.holder := by
      funext k
      rw [holder, hhandles, holder]
    rw [hheld, hholder]
    exact hs.exclusive
  faithful := by
    rw [hhandles]
    exact hs.faithful

theorem through (hs : s.Sound T) (handle : Option α) {x : α → StorageM τ β}
    (hx : ∀ h, Moves (Unchanged T.registered) (x h)) : (s.through handle x).Sound T := by
  cases handle with
  | none => exact hs
  | some h => exact hs.same (hx h s.state) rfl

/-- Obtaining a handle on a directory or a file. -/
theorem obtaining (hs : s.Sound T) (handle : Option α) {x : α → StorageM τ β}
    {enter : α → β → Process τ → Process τ} (hx : ∀ h, Moves (Unchanged T.registered) (x h))
    (hstate : ∀ h b s, (enter h b s).state = s.state)
    (hhandles : ∀ h b s, (enter h b s).handles = s.handles) :
    (s.obtaining handle x enter).Sound T := by
  cases handle with
  | none => exact hs
  | some h =>
    have hheld := hx h s.state
    rw [Process.obtaining]
    cases hr : x h s.state with
    | ok b m =>
      rw [hr] at hheld
      exact hs.same (by rw [hstate]; exact hheld) (hhandles h b _)
    | error e m =>
      rw [hr] at hheld
      exact hs.same hheld rfl

theorem acquire (hs : s.Sound T) (root : String) (file : Option DiskPath) :
    (s.obtaining file (played P root).acquire enterAccess).Sound T := by
  cases file with
  | none => exact hs
  | some f =>
    simp only [Process.obtaining]
    cases hr : (played P root).acquire f s.state with
    | error e m => exact hs.same ((Holding.played T root).acquire_error hr) rfl
    | ok y m =>
      obtain ⟨hfree, id, rfl, hheld⟩ := T.acquire_ok root hr
      have hholder := holder_enterAccess f ⟨f, some id⟩ { s with state := m }
      constructor
      · -- the new handle stands behind the others, where there was none
        change Exclusive (T.registered m) _
        rw [Player.Tabled.registered_of_cons hheld]
        refine hs.exclusive.take (k := s.handles.length) hfree ?_ (fun k hk => ?_) ?_
        · rw [hholder, if_pos rfl]
        · rw [hholder, if_neg hk]
          rfl
        · exact s.holder_length
      · intro h hh
        rcases List.mem_append.1 hh with hh | hh
        · exact hs.faithful h hh
        · obtain rfl := List.mem_singleton.1 hh
          exact ⟨rfl, rfl⟩

/-- A handle is closed or dropped, which takes its path out of the table if it was open. -/
theorem giveUp (hs : s.Sound T) (hk : s.handle? k = some h) {h' : OwnedHandle}
    (hfile : h'.file? = none) (hfaithful : h'.Faithful) {m : τ}
    (hopen : h.closed = false → T.held m = (T.held s.state).filter (· ≠ h.path))
    (hclosed : h.closed = true → m = s.state) :
    ({ s with state := m, handles := s.handles.set k h' } : Process τ).Sound T := by
  have hset := holder_set hk m h'
  have hgone : ({ s with state := m, handles := s.handles.set k h' } : Process τ).holder k =
      none := by
    rw [hset, if_pos rfl, hfile]
  constructor
  · cases hc : h.closed with
    | false =>
      change Exclusive (T.registered m) _
      rw [Player.Tabled.registered_of_filter (hopen hc)]
      have hheld : s.holder k = some h.path := by
        rw [holder_of_handle? hk, hc]
        rfl
      exact hs.exclusive.giveUp hheld hgone fun j hj => by rw [hset, if_neg hj]
    | true =>
      obtain rfl := hclosed hc
      have hheld : s.holder k = none := by
        rw [holder_of_handle? hk, hc]
        rfl
      have hsame : ({ s with handles := s.handles.set k h' } : Process τ).holder = s.holder := by
        funext j
        by_cases hj : j = k
        · subst hj
          rw [hheld]
          exact hgone
        · rw [hset, if_neg hj]
      exact hsame ▸ hs.exclusive
  · intro h₁ hh₁
    rcases List.mem_or_eq_of_mem_set hh₁ with hh₁ | rfl
    · exact hs.faithful h₁ hh₁
    · exact hfaithful

/-- What closing does, told by what the owner knows of the handle. -/
theorem closing (hs : s.Sound T) (hk : s.handle? k = some h) (root : String) :
    ((played P root).close h.access s.state).2.1 = ⟨h.path, none⟩ ∧
      (h.closed = false → T.held ((played P root).close h.access s.state).2.2 =
        (T.held s.state).filter (· ≠ h.path)) ∧
      (h.closed = true →
        (played P root).close h.access s.state = (.ok (), h.access, s.state)) := by
  obtain ⟨hpath, hopen⟩ := hs.faithful_of_handle? hk
  cases hc : h.closed with
  | false =>
    rw [hc, Bool.not_false] at hopen
    obtain ⟨id, hfile⟩ := Option.isSome_iff_exists.1 hopen
    obtain ⟨r, m, hclose, hheld⟩ := T.close_of_open root hfile s.state
    rw [hclose, ← hpath]
    exact ⟨rfl, fun _ => hheld, nofun⟩
  | true =>
    rw [hc, Bool.not_true] at hopen
    have hfile : h.access.file = none :=
      Option.isNone_iff_eq_none.1 (Option.isSome_eq_false_iff.1 hopen)
    have hclose := played_close_of_closed (P := P) hfile root s.state
    rw [hclose, ← hpath]
    exact ⟨by rw [← hfile], nofun, fun _ => rfl⟩

theorem step (hs : s.Sound T) (root : String) (c : Tree.Call) : (s.step P root c).Sound T := by
  have hquiet := (Holding.played T root).quiet
  cases c with
  | root =>
    show (s.obtaining (some ()) (fun _ => (played P root).root) fun _ => enterDirectory).Sound T
    exact hs.obtaining _ (fun _ => hquiet .root nofun nofun) (fun _ _ _ => rfl) fun _ _ _ => rfl
  | directory d name create =>
    exact hs.obtaining _ (fun d => hquiet .directory nofun nofun d name create) (fun _ _ _ => rfl)
      fun _ _ _ => rfl
  | file d name create =>
    exact hs.obtaining _ (fun d => hquiet .file nofun nofun d name create) (fun _ _ _ => rfl)
      fun _ _ _ => rfl
  | remove d name => exact hs.through _ fun d => hquiet .remove nofun nofun d name
  | acquire f => exact hs.acquire root _
  | read k count offset =>
    exact hs.through _ fun h => hquiet .read nofun nofun h.access count offset
  | write k bytes offset =>
    exact hs.through _ fun h => hquiet .write nofun nofun h.access bytes offset
  | truncate k size => exact hs.through _ fun h => hquiet .truncate nofun nofun h.access size
  | flush k => exact hs.through _ fun h => hquiet .flush nofun nofun h.access
  | size k => exact hs.through _ fun h => hquiet .size nofun nofun h.access
  | close k =>
    rw [Process.step]
    cases hk : s.handle? k with
    | none => exact hs
    | some h =>
      obtain ⟨haccess, hopen, hclosed⟩ := hs.closing hk root
      refine hs.giveUp hk (by simp [OwnedHandle.file?]) ⟨?_, ?_⟩ hopen fun hc =>
        congrArg (fun r => r.2.2) (hclosed hc)
      · simp only [haccess]
      · simp only [haccess]
        rfl
  | release k =>
    rw [Process.step]
    cases hk : s.handle? k with
    | none => exact hs
    | some h =>
      obtain ⟨-, hopen, hclosed⟩ := hs.closing hk root
      obtain ⟨hpath, hfile⟩ := hs.faithful_of_handle? hk
      refine hs.giveUp hk (by simp [OwnedHandle.file?]) ?_ hopen fun hc =>
        congrArg (fun r => r.2.2) (hclosed hc)
      exact ⟨hpath, hfile⟩

end Sound

theorem sound_start {m : τ} (hm : T.held m = []) : (start m).Sound T where
  exclusive := by
    constructor
    · intro path
      simp [Player.Tabled.registered, start, holder, hm]
    · intro k k' path hk _
      cases hk
  faithful := nofun

/-- **The table tells which files have a handle**: after any calls it holds the files of the handles
that are neither closed nor dropped, and no two of them have the same one. -/
theorem sound_run {m : τ} (hm : T.held m = []) (calls : List (String × Tree.Call)) :
    ((start m).run P calls).Sound T :=
  run_keeps (fun root c hs => hs.step root c) (sound_start hm) calls

/-- **The table of files held open mirrors the live handles.**  After any calls on any number of
storages on the disk, of which any system call may have failed:

* a path is in the table when there is one access handle on it that was neither closed nor dropped,
  and there are never two;
* a file in the table is refused, and a handle that is refused, for this or because the file could
  not be opened or locked, leaves the table as it was;
* closing a handle and dropping it take its path out, whatever the system answers, and no other
  path; for a handle that is closed already they do nothing at all;
* what stands as a file at a path in the table is not removed: nothing but these two looks is done.
-/
theorem run_registered (T : P.Tabled) {m : τ} (hm : T.held m = [])
    (calls : List (String × Tree.Call)) :
    let s := (start m).run P calls
    (∀ path, path ∈ T.held s.state ↔ ∃! k, s.holder k = some path) ∧
    (∀ root f,
      (f ∈ T.held s.state →
        ∃ m', (played P root).acquire f s.state = .error .noModificationAllowed m') ∧
      ∀ e m', (played P root).acquire f s.state = .error e m' → T.held m' = T.held s.state) ∧
    (∀ root k h, s.handle? k = some h →
      (h.closed = false →
        T.held ((played P root).close h.access s.state).2.2 =
            (T.held s.state).filter (· ≠ h.path) ∧
          T.held ((played P root).release h.access s.state) =
            (T.held s.state).filter (· ≠ h.path)) ∧
      (h.closed = true →
        (played P root).close h.access s.state = (.ok (), h.access, s.state) ∧
          (played P root).release h.access s.state = s.state)) ∧
    (∀ root d name, isEntryName name = true → d ++ [name] ∈ T.held s.state →
      (P.system (.kind (d ++ [name])) s.state).1 = .ok .file →
      (played P root).remove d name s.state = .error .noModificationAllowed
        (P.table (.isRegistered (d ++ [name])) (P.system (.kind (d ++ [name])) s.state).2).2) := by
  intro s
  have hs : s.Sound T := sound_run hm calls
  refine ⟨fun path => hs.exclusive.mem_iff_existsUnique, fun root f => ⟨fun hf => ?_, fun e m' =>
    T.acquire_error root⟩, fun root k h hk => ?_, fun root d name => T.remove_of_held root⟩
  · obtain ⟨m', hrefused, -⟩ := T.acquire_of_held root hf
    exact ⟨m', hrefused⟩
  · obtain ⟨-, hopen, hclosed⟩ := hs.closing hk root
    refine ⟨fun hc => ⟨hopen hc, hopen hc⟩, fun hc => ⟨hclosed hc, ?_⟩⟩
    exact congrArg (fun r => r.2.2) (hclosed hc)

/-- A system that takes no lock back. -/
def stubborn : Player System :=
  Player.onSystem.refusing fun
    | .unlock _ => some .badFile
    | _ => none

/-- A file whose unlocking was refused is taken again. -/
theorem run_registered_stubborn :
    let s := (start ⟨.blank [], []⟩).run stubborn
      [("/", .root), ("/", .file 0 "f" true), ("/", .acquire 0), ("/", .close 0), ("/", .acquire 0)]
    s.handles.map (·.closed) = [true, false] ∧ ["f"] ∈ s.state.held ∧
      ∀ k, s.holder k = some ["f"] → k = 1 := by
  intro s
  obtain ⟨hregistered, -⟩ :=
    run_registered (P := stubborn) (Player.Tabled.onSystem.refusing _) (m := ⟨.blank [], []⟩) rfl
      [("/", .root), ("/", .file 0 "f" true), ("/", .acquire 0), ("/", .close 0), ("/", .acquire 0)]
  have hheld : ["f"] ∈ s.state.held := by decide +kernel
  have hholder : s.holder 1 = some ["f"] := by decide +kernel
  exact ⟨by decide +kernel, hheld, fun k hk => ((hregistered ["f"]).1 hheld).unique hk hholder⟩

end Process

end EngineHost
