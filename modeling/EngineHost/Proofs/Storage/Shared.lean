import EngineHost.Proofs.Disk.Effect
import EngineHost.Proofs.Trace

/-!
# Who has the files of a shared disk

`remove` opens a file and locks it to see that nobody holds it, closes it again, and then removes
its name.  Closing gives the lock up, so that another thread can take the file before its name is
gone.

* `SharedDisk.Sound` : the files that are open belong each to one call or one access handle, and the
  lock that was given up is had by nobody who did not take it since.
* `SharedDisk.sound_run` : every run keeps it, by one case for each kind of step.
* `SharedDisk.run_unlinked` : when a file loses its name, its access handles are those whose locks
  were taken after the lock had been given up.
* `SharedDisk.run_unlinked_held` : there are runs in which there is such a handle.

A step changes one open file, which nobody else has (`Apart`), so that what the others have open
stays as it was (`Hold.Fits.spares`).
-/

namespace EngineHost

/-! ### Who has what open -/

/-- Who has a file open: the call that a thread makes, or an access handle of a process. -/
inductive Opener where
  | thread (t : ThreadId)
  | handle (process : Nat) (h : DiskAccess)
  deriving DecidableEq

/-- No file is open for two. -/
def Apart (held : Opener → Hold) : Prop :=
  ∀ o o' id, (held o).file? = some id → (held o').file? = some id → o = o'

/-- Files stay apart, if what one has open now is open for none of the others, and the others have
nothing open that they had not. -/
theorem Apart.change {held held' : Opener → Hold} (h : Apart held) (mover : Opener)
    (hothers : ∀ o, o ≠ mover → ∀ id, (held' o).file? = some id →
      (held o).file? = some id ∧ (held' mover).file? ≠ some id) : Apart held' := by
  intro o o' id ho ho'
  by_cases hm : o = mover
  · by_cases hm' : o' = mover
    · rw [hm, hm']
    · exact absurd (hm ▸ ho) (hothers o' hm' id ho').2
  · by_cases hm' : o' = mover
    · exact absurd (hm' ▸ ho') (hothers o hm id ho).2
    · exact h o o' id (hothers o hm id ho).1 (hothers o' hm' id ho').1

namespace SharedDisk

variable {w w' : SharedDisk} {t : ThreadId} {holds : ThreadId → Hold}
  {es : List (ThreadId × Deed)} {e : ThreadId × Deed} {path : DiskPath} {d d' : Disk}

/-- What everybody has open: a handle has what a call has open that closes it. -/
def held (w : SharedDisk) (holds : ThreadId → Hold) : Opener → Hold
  | .thread t => holds t
  | .handle process h =>
    if w.Allows process (.close h) then (SharedCall.close h).hold else .nothing

/-- A thread has closed the file of a path that it had locked, and has done nothing since.  Whoever
has the lock of that file now was granted it in between. -/
def Probed (es : List (ThreadId × Deed)) (t : ThreadId) (path : DiskPath) (d : Disk) : Prop :=
  ∃ before probe since i, es = before ++ (t, .system (.closeFile probe) true) :: since ∧
    (∀ e ∈ since, e.1 ≠ t) ∧ d.LeadsTo path i ∧
    ∀ id, d.description? id = some ⟨i, true⟩ →
      ∃ t', (t', Deed.system (.tryLock id) true) ∈ since

/-- How those who work on a disk stand to each other, after what has happened: every call goes on in
order from what it has open, which the disk knows of and nobody else has open, and every access
handle is a file that is open. -/
structure Sound (es : List (ThreadId × Deed)) (holds : ThreadId → Hold) (w : SharedDisk) :
    Prop where
  fresh : w.disk.FreshNames
  orderly : ∀ {t p}, w.threads t = some p → p.Orderly SharedAnswer.Leaves (holds t)
  fits : ∀ o, (w.held holds o).Fits w.disk
  apart : Apart (w.held holds)
  probed : ∀ {t path}, holds t = .probed path → Probed es t path w.disk
  handles : ∀ a ∈ w.handles, ∃ id, a.2.file = some id

/-- The step of another thread keeps what a thread has found. -/
theorem Probed.snoc (h : Probed es t path d) (ht : e.1 ≠ t) (hpath : ∀ {i}, d.LeadsTo path i →
    d'.LeadsTo path i) (hlocked : ∀ id i, d'.description? id = some ⟨i, true⟩ →
      d.description? id = some ⟨i, true⟩ ∨ e.2 = .system (.tryLock id) true) :
    Probed (es ++ [e]) t path d' := by
  obtain ⟨before, probe, since, i, rfl, hsince, hleads, hlocks⟩ := h
  refine ⟨before, probe, since ++ [e], i, by simp, ?_, hpath hleads, fun id hid => ?_⟩
  · intro e' he'
    rcases List.mem_append.1 he' with he' | he'
    · exact hsince e' he'
    · exact List.mem_singleton.1 he' ▸ ht
  · rcases hlocked id i hid with hid | he
    · obtain ⟨t', ht'⟩ := hlocks id hid
      exact ⟨t', List.mem_append_left _ ht'⟩
    · exact ⟨e.1, by simp [← he]⟩

theorem sound_start (d : Disk) : Sound [] (fun _ => .nothing) (start d) where
  fresh := nofun
  orderly := nofun
  fits o := by cases o <;> trivial
  apart o o' id ho := by cases o <;> cases ho
  probed := nofun
  handles := nofun

/-! ### One step -/

section Update

variable {s : Hold}

theorem held_update_self (w : SharedDisk) (holds : ThreadId → Hold) (t : ThreadId) (s : Hold) :
    w.held (Function.update holds t s) (.thread t) = s := by
  rw [held, Function.update_self]

theorem held_update_of_ne {o : Opener} (h : o ≠ .thread t) :
    w.held (Function.update holds t s) o = w.held holds o := by
  cases o with
  | thread t' => exact Function.update_of_ne (fun ht => h (congrArg Opener.thread ht)) s holds
  | handle => rfl

theorem fits_update (hs : s.Fits d) (hothers : ∀ o, o ≠ .thread t → (w.held holds o).Fits d)
    (o : Opener) : (w.held (Function.update holds t s) o).Fits d := by
  by_cases ho : o = .thread t
  · rw [ho, held_update_self]
    exact hs
  · rw [held_update_of_ne ho]
    exact hothers o ho

theorem apart_update (h : Apart (w.held holds))
    (hs : ∀ o, o ≠ .thread t → ∀ id, s.file? = some id → (w.held holds o).file? ≠ some id) :
    Apart (w.held (Function.update holds t s)) := by
  refine h.change (.thread t) fun o ho id hid => ?_
  rw [held_update_of_ne ho] at hid
  rw [held_update_self]
  exact ⟨hid, fun hself => hs o ho id hself hid⟩

/-- After a step of a thread: what is asked of the thread and of what is open now, if nothing else
that matters to the others has changed. -/
theorem Sound.resume {deed : Deed} {rest : Option (Program SharedAnswer)}
    (h : Sound es holds w) (hthreads : w'.threads = w.threads) (hfresh : w'.disk.FreshNames)
    (hleads : ∀ {path i}, w.disk.LeadsTo path i → w'.disk.LeadsTo path i)
    (hlocked : ∀ id i, w'.disk.description? id = some ⟨i, true⟩ →
      w.disk.description? id = some ⟨i, true⟩ ∨ deed = .system (.tryLock id) true)
    (hrest : ∀ p, rest = some p → p.Orderly SharedAnswer.Leaves s)
    (hprobed : ∀ path, s = .probed path → Probed (es ++ [(t, deed)]) t path w'.disk)
    (hfits : ∀ o, (w'.held (Function.update holds t s) o).Fits w'.disk)
    (hapart : Apart (w'.held (Function.update holds t s)))
    (hhandles : ∀ a ∈ w'.handles, ∃ id, a.2.file = some id) :
    Sound (es ++ [(t, deed)]) (Function.update holds t s) (w'.resume t rest) where
  fresh := hfresh
  fits := hfits
  apart := hapart
  handles := hhandles
  orderly {t' p} ht' := by
    by_cases ht : t' = t
    · subst ht
      rw [Function.update_self]
      exact hrest p ((if_pos rfl).symm.trans ht')
    · rw [Function.update_of_ne ht]
      exact h.orderly ((congrFun hthreads t').symm.trans ((if_neg ht).symm.trans ht'))
  probed {t' path} ht' := by
    by_cases ht : t' = t
    · subst ht
      rw [Function.update_self] at ht'
      exact hprobed path ht'
    · rw [Function.update_of_ne ht] at ht'
      exact (h.probed ht').snoc (fun h => ht h.symm) hleads hlocked

end Update

variable {s s' : Hold} {c : SystemCall} {granted : Bool} {own : Option DescriptionId}

/-- What is open for one is not open for another, and is not new. -/
theorem Sound.file?_ne (h : Sound es holds w) {o : Opener} (ho : o ≠ .thread t) {id : DescriptionId}
    (hid : (holds t).file? = some id ∨ w.disk.nextDescription ≤ id) :
    (w.held holds o).file? ≠ some id := by
  intro hfile
  rcases hid with hid | hid
  · exact ho (h.apart o (.thread t) id hfile hid)
  · obtain ⟨f, hf⟩ := (h.fits o).description? hfile
    exact absurd (h.fresh.lt hf) (Nat.not_lt.2 hid)

/-- A file that was locked is closed: nobody has its lock. -/
theorem probed_of_closesLocked {r : Except IoError Unit} {probe : DescriptionId}
    (hs : (Hold.locked path probe).Fits d)
    (hr : (SystemCall.closeFile probe).perform d = (r, d')) :
    Probed (es ++ [(t, .system (.closeFile probe) r.isOk)]) t path d' := by
  obtain ⟨i, hsole, hpath⟩ := hs
  cases hr
  refine ⟨es, probe, [], i, rfl, nofun, hpath, fun id hid => ?_⟩
  rw [Disk.description?_closeFile] at hid
  split_ifs at hid with hne
  exact absurd (hsole.sole id hid) hne

/-- **A system call keeps everybody sound.** -/
theorem Sound.system (h : Sound es holds w) {next : Except IoError c.Value → Program SharedAnswer}
    {r : Except IoError c.Value} (ht : w.threads t = some (.system c next))
    (hr : c.perform w.disk = (r, d')) :
    ∃ holds', Sound (es ++ [(t, .system c r.isOk)]) holds'
      ({ w with disk := d' }.resume t (some (next r))) := by
  obtain ⟨s', hafter, hnext⟩ := h.orderly ht r
  obtain ⟨own, heffect⟩ := SystemCall.effect hafter (h.fits (.thread t)) h.fresh hr
  have hothers : ∀ o, o ≠ .thread t → ∀ id, own = some id ∨ s'.file? = some id →
      (w.held holds o).file? ≠ some id :=
    fun o ho id hid => h.file?_ne ho (heffect.owned id hid)
  refine ⟨Function.update holds t s', h.resume rfl (heffect.spares.fresh h.fresh)
    heffect.spares.leadsTo ?_ ?_ ?_ ?_ ?_ h.handles⟩
  · intro id i hid
    exact (heffect.locked hid).imp_right fun ⟨hc, hgranted⟩ => by
      rw [hgranted, hc]
  · rintro p ⟨⟩
    exact hnext
  · -- the last step closed a file, which was locked
    rintro path rfl
    have hfits := h.fits (.thread t)
    simp only [held] at hfits
    generalize holds t = s at hafter hfits
    cases hafter
    exact probed_of_closesLocked hfits hr
  · refine fits_update heffect.fits fun o ho => ?_
    exact (h.fits o).spares heffect.spares fun id hid => hothers o ho id (.inl hid)
  · exact apart_update h.apart fun o ho id hid => hothers o ho id (.inr hid)

/-- **A look at the table keeps everybody sound.** -/
theorem Sound.table (h : Sound es holds w) {step : TableStep}
    {next : step.Value → Program SharedAnswer} (ht : w.threads t = some (.table step next))
    (r : step.Value) (tables : Nat → List DiskPath) :
    ∃ holds', Sound (es ++ [(t, .table step)]) holds'
      ({ w with tables }.resume t (some (next r))) := by
  refine ⟨Function.update holds t (holds t).settled, h.resume rfl h.fresh id
    (fun _ _ => .inl) ?_ ?_ ?_ ?_ h.handles⟩
  · rintro p ⟨⟩
    exact h.orderly ht r
  · intro path hs
    cases hheld : holds t <;> rw [hheld] at hs <;> cases hs
  · exact fits_update (Hold.fits_settled (h.fits (.thread t))) fun o _ => h.fits o
  · refine apart_update h.apart fun o ho id hid => h.file?_ne ho (.inl ?_)
    rwa [← Hold.settled_file?]

/-- A thread that has nothing open now. -/
theorem Sound.rest (h : Sound es holds w) (deed : Deed) {rest : Option (Program SharedAnswer)}
    (hrest : ∀ p, rest = some p → p.Orderly SharedAnswer.Leaves .nothing) :
    ∃ holds', Sound (es ++ [(t, deed)]) holds' (w.resume t rest) :=
  ⟨Function.update holds t .nothing, h.resume rfl h.fresh id (fun _ _ => .inl) hrest nofun
    (fits_update trivial fun o _ => h.fits o)
    (apart_update h.apart nofun) h.handles⟩

/-- What is open without a handle that is being closed. -/
theorem held_beginning (w : SharedDisk) (holds : ThreadId → Hold) (process : Nat) (a : DiskAccess)
    (o : Opener) : (w.beginning process (.close a)).held holds o =
      if o = .handle process a then .nothing else w.held holds o := by
  cases o with
  | thread t => rfl
  | handle process' a' =>
    by_cases ha : process' = process ∧ a' = a
    · obtain ⟨rfl, rfl⟩ := ha
      simp [held, Allows, beginning]
    · simp [held, Allows, beginning, ha]

/-- What is open with a handle that was taken. -/
theorem held_ending (w : SharedDisk) (holds : ThreadId → Hold) (process : Nat) (a : DiskAccess)
    (o : Opener) : (w.ending process (.acquired (.ok a))).held holds o =
      if o = .handle process a then (SharedCall.close a).hold else w.held holds o := by
  cases o with
  | thread t => rfl
  | handle process' a' =>
    by_cases ha : process' = process ∧ a' = a
    · obtain ⟨rfl, rfl⟩ := ha
      simp [held, Allows, ending]
    · simp [held, Allows, ending, ha]

/-- **A call that begins keeps everybody sound.**  One that closes a handle has open what came with
the handle. -/
theorem Sound.begins (h : Sound es holds w) {c : SharedCall} (hallows : w.Allows t.process c) :
    ∃ holds', Sound (es ++ [(t, .begins c)]) holds'
      ((w.beginning t.process c).resume t (some c.program)) := by
  have horderly : ∀ p, some c.program = some p → p.Orderly SharedAnswer.Leaves c.hold := by
    rintro p ⟨⟩
    exact c.orderly
  cases c with
  | remove | acquire => exact h.rest _ horderly
  | close a =>
    -- the open file goes from the handle to the thread
    have hgiven : w.held holds (.handle t.process a) = (SharedCall.close a).hold :=
      if_pos hallows
    refine ⟨Function.update holds t (SharedCall.close a).hold, h.resume rfl h.fresh id
      (fun _ _ => .inl) horderly ?_ ?_ ?_ ?_⟩
    · obtain ⟨path, file⟩ := a
      cases file <;> exact nofun
    · refine fits_update (hgiven ▸ h.fits (.handle t.process a)) fun o _ => ?_
      rw [held_beginning]
      split_ifs
      · trivial
      · exact h.fits o
    · refine h.apart.change (.thread t) fun o ho id hid => ?_
      rw [held_update_of_ne ho, held_beginning] at hid
      rw [held_update_self]
      split_ifs at hid with hhandle
      · cases hid
      · refine ⟨hid, fun hself => hhandle ?_⟩
        exact h.apart o (.handle t.process a) id hid (hgiven ▸ hself)
    · exact fun b hb => h.handles b (List.mem_filter.1 hb).1

/-- **A call that ends keeps everybody sound.**  A handle that was taken has what the call had
open. -/
theorem Sound.ends (h : Sound es holds w) {a : SharedAnswer} (ht : w.threads t = some (.done a)) :
    ∃ holds', Sound (es ++ [(t, .ends a)]) holds' ((w.ending t.process a).resume t none) := by
  cases a with
  | removed | closed => exact h.rest _ nofun
  | acquired r =>
    cases r with
    | error e => exact h.rest _ nofun
    | ok a =>
      obtain ⟨id, hfile, hlocked⟩ : ∃ id, a.file = some id ∧ holds t = .locked a.path id :=
        h.orderly ht
      -- the open file goes from the thread to the handle
      have hgiven : (SharedCall.close a).hold = w.held holds (.thread t) := by
        obtain ⟨path, file⟩ := a
        cases hfile
        exact hlocked.symm
      refine ⟨Function.update holds t .nothing, h.resume rfl h.fresh (fun h => h)
        (fun _ _ => .inl) nofun nofun ?_ ?_ ?_⟩
      · refine fits_update trivial fun o _ => ?_
        rw [held_ending]
        split_ifs
        · exact hgiven ▸ h.fits (.thread t)
        · exact h.fits o
      · refine h.apart.change (.handle t.process a) fun o ho id hid => ?_
        by_cases hthread : o = .thread t
        · rw [hthread, held_update_self] at hid
          cases hid
        · rw [held_update_of_ne hthread, held_ending, if_neg ho] at hid
          rw [held_update_of_ne (by simp), held_ending, if_pos rfl, hgiven]
          exact ⟨hid, fun hself => hthread (h.apart o (.thread t) id hid hself)⟩
      · intro b hb
        rcases List.mem_cons.1 hb with rfl | hb
        · exact ⟨id, hfile⟩
        · exact h.handles b hb

/-- Every step keeps everybody sound. -/
theorem Sound.step (h : Sound es holds w) (hstep : Step w e w') :
    ∃ holds', Sound (es ++ [e]) holds' w' := by
  cases hstep with
  | begins _ hallows => exact h.begins hallows
  | system ht hr => exact h.system ht hr
  | table ht _ => exact h.table ht _ _
  | ends ht => exact h.ends ht

/-- **Those who work on a disk stay sound.** -/
theorem sound_run {d : Disk} (hrun : Trace Step (start d) es w) : ∃ holds, Sound es holds w := by
  induction hrun with
  | nil => exact ⟨_, sound_start d⟩
  | snoc _ hstep ih =>
    obtain ⟨holds, hsound⟩ := ih
    exact hsound.step hstep

/-! ### Schedules -/

theorem step_of_turn (call : Option SharedCall) {deed : Deed}
    (h : w.turn t call = some (deed, w')) : Step w (t, deed) w' := by
  cases ht : w.threads t with
  | none =>
    cases call with
    | none => simp [turn, ht] at h
    | some c =>
      simp only [turn, ht] at h
      split_ifs at h with hallows
      cases h
      exact .begins ht hallows
  | some p =>
    cases p <;> simp only [turn, ht] at h <;> cases h
    · exact .ends ht
    · exact .system ht rfl
    · exact .table ht rfl

/-- What threads do when they take turns is a run. -/
theorem trace_schedule (w : SharedDisk) (turns : List (ThreadId × Option SharedCall)) :
    Trace Step w (w.schedule turns).1 (w.schedule turns).2 := by
  induction turns generalizing w with
  | nil => exact .nil w
  | cons turn rest ih =>
    obtain ⟨t, call⟩ := turn
    rw [schedule]
    cases h : w.turn t call with
    | none => exact ih w
    | some next => exact .cons (step_of_turn call h) (ih next.2)

/-! ### Removing a file -/

/-- An access handle has the lock of its file. -/
theorem Sound.locked (h : Sound es holds w) {a : Nat × DiskAccess} (ha : a ∈ w.handles) :
    ∃ id i, a.2.file = some id ∧ w.disk.description? id = some ⟨i, true⟩ := by
  obtain ⟨id, hfile⟩ := h.handles a ha
  have hallows : w.Allows a.1 (.close a.2) := ha
  have hfits := h.fits (.handle a.1 a.2)
  rw [held, if_pos hallows] at hfits
  obtain ⟨process, path, file⟩ := a
  cases hfile
  obtain ⟨i, hsole, -⟩ := hfits
  exact ⟨id, i, rfl, hsole.locked⟩

/-- A file is removed by a thread that has probed it. -/
theorem Sound.probed_of_removes (h : Sound es holds w)
    (hstep : Step w (t, .system (.removeFile path) true) w') :
    holds t = .probed path ∧ ∃ d', w.disk.removeFile ⟨[], path, false⟩ = .ok d' := by
  generalize he : (t, Deed.system (.removeFile path) true) = e at hstep
  cases hstep with
  | begins | table | ends => cases he
  | @system t' c next r d' ht hr =>
    obtain ⟨rfl, hdeed⟩ := Prod.mk.inj he
    injection hdeed with hc hgranted
    subst hc
    obtain ⟨s', hafter, -⟩ := h.orderly ht r
    refine ⟨?_, ?_⟩
    · generalize holds t = s at hafter
      cases hafter
      rfl
    · cases r with
      | ok _ => exact ⟨d', SystemCall.routeOf_bind_ok (SystemCall.changing_ok hr)⟩
      | error e => cases hgranted

/-- **When a file loses its name, its access handles are those that were taken after its lock had
been given up.**  An open access handle has the lock of its file.  The thread that removes the file
had locked it and closed it in its last step; whoever has the lock when the name goes was granted it
in between. -/
theorem run_unlinked {d : Disk} {es : List (ThreadId × Deed)} {w w' : SharedDisk} {t : ThreadId}
    {path : DiskPath} (hrun : Trace Step (start d) es w)
    (hstep : Step w (t, .system (.removeFile path) true) w') :
    ∃ before probe since trail data,
      es = before ++ (t, .system (.closeFile probe) true) :: since ∧
      (∀ e ∈ since, e.1 ≠ t) ∧
      w.disk.follow [] path = .ok trail ∧ w.disk.node? trail.node = some (.file data) ∧
      (∀ a ∈ w.handles, ∃ id i, a.2.file = some id ∧ w.disk.description? id = some ⟨i, true⟩) ∧
      ∀ id, w.disk.description? id = some ⟨trail.node, true⟩ →
        ∃ t', (t', .system (.tryLock id) true) ∈ since := by
  obtain ⟨holds, hsound⟩ := sound_run hrun
  obtain ⟨hprobed, d', hremoved⟩ := hsound.probed_of_removes hstep
  obtain ⟨-, trail, data, htrail, hnode⟩ := Disk.spares_removeFile hremoved
  obtain ⟨before, probe, since, i, hes, hsince, hpath, hlocked⟩ := hsound.probed hprobed
  obtain rfl : trail.node = i := hpath trail htrail
  exact ⟨before, probe, since, trail, data, hes, hsince, htrail, hnode,
    fun a ha => hsound.locked ha, hlocked⟩

/-- A disk with a file, and nothing else. -/
def oneFile : SharedDisk := start ⟨[.directory [("f", 1)], .file .empty], [], 0, []⟩

/-- A process has found that nobody holds the file, and is about to remove it when another process
takes it. -/
def overtaken : List (ThreadId × Deed) × SharedDisk :=
  oneFile.schedule
    ((⟨0, 0⟩, some (.remove [] "f")) :: List.replicate 5 (⟨0, 0⟩, none) ++
      (⟨1, 0⟩, some (.acquire ["f"])) :: List.replicate 4 (⟨1, 0⟩, none))

/-- The file is removed all the same. -/
theorem overtaken_removes :
    ∃ w', Step overtaken.2 (⟨0, 0⟩, .system (.removeFile ["f"]) true) w' :=
  ⟨_, step_of_turn none rfl⟩

theorem run_unlinked_overtaken :
    Trace Step oneFile overtaken.1 overtaken.2 ∧
    (∃ w', Step overtaken.2 (⟨0, 0⟩, .system (.removeFile ["f"]) true) w') ∧
    ∃ before probe since,
      overtaken.1 = before ++ (⟨0, 0⟩, .system (.closeFile probe) true) :: since ∧
      ∃ t', (t', .system (.tryLock 1) true) ∈ since := by
  have hrun : Trace Step oneFile overtaken.1 overtaken.2 := trace_schedule _ _
  obtain ⟨w', hstep⟩ := overtaken_removes
  obtain ⟨before, probe, since, trail, data, hes, -, htrail, -, -, hlocked⟩ :=
    run_unlinked hrun hstep
  cases htrail
  exact ⟨hrun, ⟨w', hstep⟩, before, probe, since, hes, hlocked 1 rfl⟩

/-- It is not so that nobody holds a file when it is removed. -/
theorem run_unlinked_held :
    ¬ ∀ (d : Disk) (es : List (ThreadId × Deed)) (w w' : SharedDisk) (t : ThreadId)
      (path : DiskPath) (trail : Disk.Trail), Trace Step (start d) es w →
      Step w (t, .system (.removeFile path) true) w' → w.disk.follow [] path = .ok trail →
      ∀ a ∈ w.handles, ∀ id f, a.2.file = some id → w.disk.description? id = some f →
        f.node ≠ trail.node := by
  intro hclaim
  obtain ⟨w', hstep⟩ := overtaken_removes
  exact hclaim _ _ _ _ _ _ _ (trace_schedule _ _) hstep rfl (1, ⟨["f"], some 1⟩) (by decide +kernel)
    1 _ rfl rfl rfl

end SharedDisk

end EngineHost
