import EngineHost.Proofs.Disk.Player
import EngineHost.Proofs.Storage.Holding

/-!
# The table of files held open

The storage on a disk enters the path of every access handle in a table of its process.  Here the
system may answer anything: it may refuse to open, to lock, to unlock or to remove.  All that is
asked of a player is that it keeps the table (`Player.Tabled`).

* `Player.Tabled.acquire_of_free`, `Player.Tabled.acquire_error` : taking a handle enters its path,
  which nobody had entered, or leaves the table as it was.
* `Player.Tabled.close_of_open` : closing takes the path out, also when the system refuses to
  unlock.
* `Storage.played_close_of_closed` : closing a handle that is closed does nothing at all.
* `Player.Tabled.remove_of_held` : a file in the table is not removed.
* `Storage.Holding.played` : so the table holds the files of the open handles, and whatever is built
  on exclusive handles may be built on this storage.
-/

namespace EngineHost

variable {τ α β : Type} {P : Player τ}

/-- A player has a table of files, which the system leaves alone. -/
structure Player.Tabled (P : Player τ) where
  held : τ → List DiskPath
  system_held : ∀ c m, held (P.system c m).2 = held m
  table_answer : ∀ t m, (P.table t m).1 = (t.perform (held m)).1
  table_held : ∀ t m, held (P.table t m).2 = (t.perform (held m)).2

/-- The paths in the table. -/
def Player.Tabled.registered (T : P.Tabled) (m : τ) : Set DiskPath := {path | path ∈ T.held m}

theorem Player.Tabled.registered_of_cons {T : P.Tabled} {m m' : τ} {path : DiskPath}
    (h : T.held m' = path :: T.held m) : T.registered m' = insert path (T.registered m) := by
  ext p
  simp [registered, h]

theorem Player.Tabled.registered_of_filter {T : P.Tabled} {m m' : τ} {path : DiskPath}
    (h : T.held m' = (T.held m).filter (· ≠ path)) : T.registered m' = T.registered m \ {path} := by
  ext p
  simp [registered, h]

/-- A system has a table. -/
def Player.Tabled.onSystem : Player.onSystem.Tabled where
  held := System.held
  system_held _ _ := rfl
  table_answer _ _ := rfl
  table_held _ _ := rfl

/-- A player that refuses some system calls. -/
def Player.refusing (P : Player τ) (refuses : SystemCall → Option IoError) : Player τ where
  system c m :=
    match refuses c with
    | some e => (.error e, m)
    | none => P.system c m
  table := P.table

/-- Refusing calls changes nothing about the table. -/
def Player.Tabled.refusing (T : P.Tabled) (refuses : SystemCall → Option IoError) :
    (P.refusing refuses).Tabled where
  held := T.held
  system_held c m := by
    simp only [Player.refusing]
    cases refuses c with
    | some e => rfl
    | none => exact T.system_held c m
  table_answer := T.table_answer
  table_held := T.table_held

namespace DiskProgram

/-! ### Programs that leave the table alone -/

variable {T : P.Tabled}

/-- A program leaves the table as it is. -/
def Quiet (T : P.Tabled) (p : DiskProgram α) : Prop := Moves (Unchanged T.held) (p.playedBy P)

theorem Quiet.pure (a : α) : Quiet T (Pure.pure a) := Moves.pure a

theorem Quiet.throw (e : StorageError) : Quiet T (MonadExcept.throw e : DiskProgram α) :=
  Moves.throw e

theorem Quiet.bind {p : DiskProgram α} {f : α → DiskProgram β} (hp : Quiet T p)
    (hf : ∀ a, Quiet T (f a)) : Quiet T (p >>= f) := by
  rw [Quiet, playedBy_bind]
  exact Moves.bind hp hf

/-- A quiet program leaves the table as it is, also where it is part of a program. -/
theorem Quiet.play {p : DiskProgram α} (hp : Quiet T p) (m : τ) :
    T.held (Program.play P p m).2 = T.held m := by
  have hleft : T.held (stateAfter (outcome (Program.play P p m))) = T.held m := hp m
  generalize Program.play P p m = r at hleft ⊢
  obtain ⟨r, m'⟩ := r
  cases r <;> exact hleft

theorem quiet_system (c : SystemCall) : Quiet T (system c) := fun m => T.system_held c m

theorem quiet_isRegistered (path : DiskPath) : Quiet T (table (.isRegistered path)) :=
  fun m => T.table_held (.isRegistered path) m

theorem quiet_call (c : SystemCall) : Quiet T (call c) := by
  refine (quiet_system c).bind fun r => ?_
  cases r with
  | ok v => exact .pure v
  | error e => exact .throw _

theorem quiet_childPath (d : DiskPath) (name : String) : Quiet T (childPath d name) := by
  rw [childPath]
  cases checkName name with
  | ok _ => exact .pure _
  | error e => exact .throw e

theorem quiet_root (path : String) : Quiet T (root path) := by
  refine (quiet_call _).bind fun _ => (quiet_call _).bind fun place =>
    (quiet_system _).bind fun r => ?_
  split
  · exact .pure place
  · exact .throw _

theorem quiet_directory (d : DiskPath) (name : String) (create : Bool) :
    Quiet T (directory d name create) := by
  refine (quiet_childPath d name).bind fun path => (quiet_system _).bind fun r => ?_
  split
  · exact .pure path
  · exact .throw _
  · split
    · refine (quiet_system _).bind fun made => ?_
      split
      · exact .pure path
      · split
        · exact .pure path
        · exact .throw _
    · exact .throw _

theorem quiet_file (d : DiskPath) (name : String) (create : Bool) :
    Quiet T (file d name create) := by
  refine (quiet_childPath d name).bind fun path => (quiet_system _).bind fun r => ?_
  split
  · exact .pure path
  · exact .throw _
  · split
    · exact (quiet_call _).bind fun _ => .pure path
    · exact .throw _

theorem quiet_lockOrClose (id : DescriptionId) : Quiet T (lockOrClose id) := by
  refine (quiet_system _).bind fun r => ?_
  split
  · exact .pure ()
  · exact (quiet_system _).bind fun _ => .throw _

/-- Removing asks the table, and changes nothing in it. -/
theorem quiet_remove (d : DiskPath) (name : String) : Quiet T (remove d name) := by
  refine (quiet_childPath d name).bind fun path => (quiet_call _).bind fun kind => ?_
  cases kind with
  | directory => exact quiet_call _
  | file =>
    refine (quiet_isRegistered path).bind fun registered => ?_
    cases registered with
    | true => exact .throw _
    | false =>
      exact (quiet_call _).bind fun id => (quiet_lockOrClose id).bind fun _ =>
        (quiet_system _).bind fun _ => quiet_call _

theorem quiet_openLocked (path : DiskPath) : Quiet T (openLocked path) :=
  (quiet_call _).bind fun id => (quiet_lockOrClose id).bind fun _ => .pure id

/-- What is done with the open file of a handle leaves the table alone. -/
theorem quiet_onFile (h : DiskAccess) {p : DescriptionId → DiskProgram α}
    (hp : ∀ id, Quiet T (p id)) : Quiet T (openFile h >>= p) := by
  refine Quiet.bind ?_ hp
  rw [openFile]
  cases h.file with
  | none => exact .throw _
  | some id => exact .pure id

theorem quiet_read (h : DiskAccess) (count : Nat) (offset : UInt64) :
    Quiet T (read h count offset) :=
  quiet_onFile h fun _ => (quiet_call _).bind fun _ => .pure _

theorem quiet_write (h : DiskAccess) (bytes : List UInt8) (offset : UInt64) :
    Quiet T (write h bytes offset) :=
  quiet_onFile h fun _ => (quiet_call _).bind fun _ => .pure _

theorem quiet_truncate (h : DiskAccess) (size : UInt64) : Quiet T (truncate h size) :=
  quiet_onFile h fun _ => quiet_call _

theorem quiet_flush (h : DiskAccess) : Quiet T (flush h) :=
  quiet_onFile h fun _ => quiet_call _

theorem quiet_size (h : DiskAccess) : Quiet T (size h) :=
  quiet_onFile h fun _ => quiet_call _

end DiskProgram

/-! ### Programs that change the table -/

namespace Storage

/-- **A handle that is closed does nothing when it is closed again.** -/
theorem played_close_of_closed {h : DiskAccess} (hfile : h.file = none) (root : String) (m : τ) :
    (played P root).close h m = (.ok (), h, m) := by
  obtain ⟨path, file⟩ := h
  cases hfile
  rfl

/-- A handle that is forgotten is closed. -/
theorem played_release (h : DiskAccess) (root : String) (m : τ) :
    (played P root).release h m = ((played P root).close h m).2.2 := rfl

end Storage

namespace Player.Tabled

open DiskProgram

variable (T : P.Tabled) {f d : DiskPath} {h : DiskAccess} {id : DescriptionId} {m : τ}
  {name : String} (root : String)

/-- A file in the table is refused. -/
theorem acquire_of_held (hf : f ∈ T.held m) :
    ∃ m', (Storage.played P root).acquire f m = .error .noModificationAllowed m' ∧
      T.held m' = T.held m := by
  have hanswer := T.table_answer (.register f) m
  have hheld := T.table_held (.register f) m
  rw [TableStep.perform, if_pos hf] at hanswer hheld
  refine ⟨(P.table (.register f) m).2, ?_, hheld⟩
  change (acquire f).playedBy P m = _
  rw [acquire, playedBy_bind, attempt_bind_of_ok (playedBy_table _ m), hanswer]
  rfl

/-- A file that is not in the table is entered, opened and locked, or it could not be opened and
locked, and is taken out again. -/
theorem acquire_of_free (hf : f ∉ T.held m) :
    (∃ id m', (Storage.played P root).acquire f m = .ok ⟨f, some id⟩ m' ∧
      T.held m' = f :: T.held m) ∨
    ∃ e m', (Storage.played P root).acquire f m = .error e m' ∧ T.held m' = T.held m := by
  have hanswer := T.table_answer (.register f) m
  have hheld := T.table_held (.register f) m
  rw [TableStep.perform, if_neg hf] at hanswer hheld
  generalize hm : (P.table (.register f) m).2 = m₁ at hheld
  have hopened : T.held (Program.play P (openLocked f) m₁).2 = f :: T.held m := by
    rw [(quiet_openLocked f).play, hheld]
  have hentered : (DiskProgram.table (.register f)).playedBy P m = .ok true m₁ := by
    rw [playedBy_table, hanswer, hm]
  change (∃ id m', (acquire f).playedBy P m = _ ∧ _) ∨ ∃ e m', (acquire f).playedBy P m = _ ∧ _
  rw [acquire, playedBy_bind, attempt_bind_of_ok hentered]
  simp only [Bool.not_true, Bool.false_eq_true, if_false]
  rw [playedBy_bind, attempt_bind_of_ok (playedBy_lift _ m₁)]
  generalize Program.play P (openLocked f) m₁ = r at hopened ⊢
  obtain ⟨e | id, m₂⟩ := r
  · have hout := T.table_held (.unregister f) m₂
    refine .inr ⟨e, (P.table (.unregister f) m₂).2, rfl, ?_⟩
    -- nobody else had entered the path, so taking it out leaves what was there
    rw [hout, hopened, TableStep.perform, List.filter_cons_of_neg (by simp)]
    exact List.filter_eq_self.2 fun p hp => by simpa using ne_of_mem_of_not_mem hp hf
  · exact .inl ⟨id, m₂, rfl, hopened⟩

/-- A handle is open, and its file is one that nobody had entered. -/
theorem acquire_ok {y : DiskAccess} {m' : τ}
    (h : (Storage.played P root).acquire f m = .ok y m') :
    f ∉ T.held m ∧ ∃ id, y = ⟨f, some id⟩ ∧ T.held m' = f :: T.held m := by
  by_cases hf : f ∈ T.held m
  · obtain ⟨m₁, herror, -⟩ := T.acquire_of_held root hf
    rw [herror] at h
    cases h
  · obtain ⟨id, m₁, hopened, hheld⟩ | ⟨e, m₁, herror, -⟩ := T.acquire_of_free root hf
    · rw [hopened] at h
      cases h
      exact ⟨hf, id, rfl, hheld⟩
    · rw [herror] at h
      cases h

/-- **A handle that is refused leaves the table as it was**, whatever refused it. -/
theorem acquire_error {e : StorageError} {m' : τ}
    (h : (Storage.played P root).acquire f m = .error e m') :
    T.held m' = T.held m := by
  by_cases hf : f ∈ T.held m
  · obtain ⟨m₁, herror, hheld⟩ := T.acquire_of_held root hf
    rw [herror] at h
    cases h
    exact hheld
  · obtain ⟨id, m₁, hopened, -⟩ | ⟨e, m₁, herror, hheld⟩ := T.acquire_of_free root hf
    · rw [hopened] at h
      cases h
    · rw [herror] at h
      cases h
      exact hheld

/-- **Closing takes the path out of the table**, also when the system refuses to unlock the file. -/
theorem close_of_open (hfile : h.file = some id) (m : τ) :
    ∃ r m', (Storage.played P root).close h m = (r, ⟨h.path, none⟩, m') ∧
      T.held m' = (T.held m).filter (· ≠ h.path) := by
  obtain ⟨path, file⟩ := h
  cases hfile
  refine ⟨_, _, rfl, ?_⟩
  exact (T.table_held (.unregister path) _).trans <|
    congrArg (List.filter _) ((T.system_held _ _).trans (T.system_held _ _))

/-- **A file in the table is not removed**: all that is done is to look what it is, and whether it
is in the table. -/
theorem remove_of_held (hname : isEntryName name = true) (hheld : d ++ [name] ∈ T.held m)
    (hkind : (P.system (.kind (d ++ [name])) m).1 = .ok .file) :
    (Storage.played P root).remove d name m = .error .noModificationAllowed
      (P.table (.isRegistered (d ++ [name])) (P.system (.kind (d ++ [name])) m).2).2 := by
  generalize hm : (P.system (.kind (d ++ [name])) m).2 = m₁
  have hregistered : (P.table (.isRegistered (d ++ [name])) m₁).1 = true := by
    have hheld₁ : d ++ [name] ∈ T.held m₁ := by rwa [← hm, T.system_held]
    rw [T.table_answer, TableStep.perform]
    exact decide_eq_true hheld₁
  have hlook : (call (.kind (d ++ [name]))).playedBy P m = .ok .file m₁ := by
    rw [call, playedBy_bind, attempt_bind_of_ok (playedBy_system _ m), hkind, hm]
    rfl
  have hpath : (childPath d name).playedBy P m = .ok (d ++ [name]) m := by
    rw [childPath, checkName, if_pos hname]
    rfl
  change (remove d name).playedBy P m = _
  rw [remove, playedBy_bind, attempt_bind_of_ok hpath, playedBy_bind, attempt_bind_of_ok hlook,
    playedBy_bind, attempt_bind_of_ok (playedBy_table _ m₁), hregistered]
  rfl

end Player.Tabled

namespace Storage

open DiskProgram Player.Tabled

/-- The table of a process as the files that its handles hold. -/
def Holding.played (T : P.Tabled) (root : String) : (Storage.played P root).Holding DiskPath where
  target h := h.path
  isOpen h := h.file.isSome
  held := T.registered
  quiet kind hacquire hclose := by
    have hquiet {α : Type} {p : DiskProgram α} (hp : Quiet T p) :
        Moves (Unchanged T.registered) (p.playedBy P) :=
      Moves.mono hp fun h => congrArg (fun held => {p | p ∈ held}) h
    cases kind with
    | root => exact hquiet (quiet_root root)
    | directory => exact fun d name create => hquiet (quiet_directory d name create)
    | file => exact fun d name create => hquiet (quiet_file d name create)
    | remove => exact fun d name => hquiet (quiet_remove d name)
    | acquire => exact absurd rfl hacquire
    | read => exact fun h count offset => hquiet (quiet_read h count offset)
    | write => exact fun h bytes offset => hquiet (quiet_write h bytes offset)
    | truncate => exact fun h size => hquiet (quiet_truncate h size)
    | flush => exact fun h => hquiet (quiet_flush h)
    | size => exact fun h => hquiet (quiet_size h)
    | close => exact absurd rfl hclose
  acquire_ok {f m h m'} hok := by
    obtain ⟨hf, id, rfl, hheld⟩ := T.acquire_ok root hok
    exact ⟨rfl, hf, registered_of_cons hheld⟩
  acquire_error {f m e m'} herr := by rw [registered, registered, T.acquire_error root herr]
  giveUp {h} m hopen := by
    obtain ⟨id, hfile⟩ := Option.isSome_iff_exists.1 hopen
    obtain ⟨r, m', hclose, hheld⟩ := T.close_of_open root hfile m
    -- the handle is closed by now, so that forgetting it does nothing more
    rw [Storage.giveUp, hclose, played_release, played_close_of_closed rfl]
    exact registered_of_filter hheld
  release {h} m hopen := by
    obtain ⟨id, hfile⟩ := Option.isSome_iff_exists.1 hopen
    obtain ⟨r, m', hclose, hheld⟩ := T.close_of_open root hfile m
    change T.registered ((Storage.played P root).close h m).2.2 = _
    rw [hclose]
    exact registered_of_filter hheld

end Storage

end EngineHost
