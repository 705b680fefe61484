import EngineHost.Proofs.Disk.Holds

/-!
# What a system call does for whoever makes it

A call that makes its system calls in order has at most one file open.  Here the disk comes in: what
it knows of that file, and what each system call changes.

* `Hold.Fits` : what a call has open, as the disk knows it.
* `SystemCall.Effect` : what a system call does to the disk, as others see it and as the call itself
  does.
* `SystemCall.effect` : every system call that is made in its place is such a change.
-/

namespace EngineHost

namespace Hold

variable {d d' : Disk} {s s' : Hold} {own : Option DescriptionId} {id : DescriptionId}

/-- What is open, as a disk knows it: an open file without a lock, or one that alone has its lock;
its path leads to it, unless it leads nowhere any more. -/
def Fits (d : Disk) : Hold → Prop
  | opened path id => ∃ i, d.description? id = some ⟨i, false⟩ ∧ d.LeadsTo path i
  | locked path id => ∃ i, d.SoleLock id i ∧ d.LeadsTo path i
  | nothing | probed _ => True

theorem fits_settled (h : s.Fits d) : s.settled.Fits d := by
  cases s <;> exact h

/-- A file that is open is known to the disk. -/
theorem Fits.description? (h : s.Fits d) (hs : s.file? = some id) :
    ∃ f, d.description? id = some f := by
  cases s with
  | opened path id' =>
    obtain ⟨i, hi, -⟩ := h
    cases hs
    exact ⟨_, hi⟩
  | locked path id' =>
    obtain ⟨i, hi, -⟩ := h
    cases hs
    exact ⟨_, hi.locked⟩
  | nothing | probed path => cases hs

/-- What is open stays as it is while another file changes. -/
theorem Fits.spares (h : s.Fits d) (hspares : Disk.Spares own d d')
    (hown : ∀ id, own = some id → s.file? ≠ some id) : s.Fits d' := by
  cases s with
  | opened path id =>
    obtain ⟨i, hi, hpath⟩ := h
    have hid : own ≠ some id := fun h => hown id h rfl
    exact ⟨i, (hspares.others id hid).trans hi, hspares.leadsTo hpath⟩
  | locked path id =>
    obtain ⟨i, hi, hpath⟩ := h
    have hid : own ≠ some id := fun h => hown id h rfl
    exact ⟨i, hspares.soleLock hid hi, hspares.leadsTo hpath⟩
  | nothing | probed path => trivial

end Hold

/-- What a system call of a thread, granted or not, does to the disk: what it has open before and
after, and the file that changes, if one does. -/
structure SystemCall.Effect (c : SystemCall) (granted : Bool) (s s' : Hold) (d d' : Disk)
    (own : Option DescriptionId) : Prop where
  spares : Disk.Spares own d d'
  /-- The file that changes, and the one that is open now, were open before or are new. -/
  owned : ∀ id, own = some id ∨ s'.file? = some id → s.file? = some id ∨ d.nextDescription ≤ id
  /-- Only a lock that is asked for is taken. -/
  taken : ∀ id i, own = some id → d'.description? id = some ⟨i, true⟩ →
    c = .tryLock id ∧ granted = true
  fits : s'.Fits d'

namespace SystemCall

variable {d d' : Disk} {s s' : Hold} {c : SystemCall} {granted : Bool} {path : DiskPath}
  {own : Option DescriptionId} {id : DescriptionId} {i : Nat}

open Disk Hold

/-- Who has a lock had it before or has been granted it. -/
theorem Effect.locked (h : c.Effect granted s s' d d' own)
    (hid : d'.description? id = some ⟨i, true⟩) :
    d.description? id = some ⟨i, true⟩ ∨ c = .tryLock id ∧ granted = true := by
  by_cases hown : own = some id
  · exact .inr (h.taken id i hown hid)
  · exact .inl (by rwa [← h.spares.others id hown])

/-- A call after which no file has changed and no new one is open. -/
theorem Effect.of_none (hspares : Spares none d d') (hs' : s'.Fits d')
    (hfile : ∀ id, s'.file? = some id → s.file? = some id) :
    c.Effect granted s s' d d' none where
  spares := hspares
  owned id h := .inl (hfile id (h.resolve_left nofun))
  taken _ _ := nofun
  fits := hs'

/-- A call that leaves the disk as it is. -/
theorem Effect.refl (hs : s.Fits d) : c.Effect granted s s d d none :=
  .of_none (spares_refl d) hs fun _ h => h

/-- A call that closes the file that is open. -/
theorem Effect.closeFile (hs : s.file? = some id) (hs' : s'.Fits (d.closeFile id))
    (hfile : s'.file? = none) : c.Effect granted s s' d (d.closeFile id) (some id) where
  spares := spares_closeFile d id
  owned id' h := by
    rcases h with h | h
    · exact .inl (hs.trans h)
    · rw [hfile] at h
      cases h
  taken id' i h hlocked := by
    cases h
    rw [description?_closeFile, if_pos rfl] at hlocked
    cases hlocked
  fits := hs'

theorem looking_eq {α : Type} {r r' : Except IoError α} (h : looking d r = (r', d')) : d' = d :=
  (congrArg Prod.snd h).symm

theorem changing_ok {m : Except IoError Disk} (h : changing d m = (.ok (), d')) : m = .ok d' := by
  cases m with
  | ok d'' => cases h; rfl
  | error e => cases h

theorem changing_error {m : Except IoError Disk} {e : IoError}
    (h : changing d m = (.error e, d')) : d' = d := by
  cases m with
  | ok d'' => cases h
  | error e => cases h; rfl

/-- A change that spares everybody, or none. -/
theorem spares_changing {m : Except IoError Disk} {r : Except IoError Unit}
    (h : changing d m = (r, d')) (hm : ∀ {d'}, m = .ok d' → Spares none d d') :
    Spares none d d' := by
  cases r with
  | ok _ => exact hm (changing_ok h)
  | error e => exact changing_error h ▸ spares_refl d

theorem routeOf_bind_ok {α : Type} {f : Route → Except IoError α} {a : α}
    (h : (Disk.routeOf path >>= f) = .ok a) : f ⟨[], path, false⟩ = .ok a := by
  rw [except_bind_ok_iff] at h
  obtain ⟨r, hr, ha⟩ := h
  rw [routeOf] at hr
  split_ifs at hr
  cases hr
  exact ha

theorem perform_openFile_cases {write : Bool} {r : Except IoError DescriptionId}
    (h : perform d (.openFile path write) = (r, d')) :
    (∃ id, r = .ok id ∧ d.openFile ⟨[], path, false⟩ write = .ok (id, d')) ∨
      ∃ e, r = .error e ∧ d' = d := by
  simp only [perform] at h
  cases hopened : (routeOf path >>= fun r => d.openFile r write) with
  | ok opened =>
    simp only [hopened] at h
    cases h
    exact .inl ⟨_, rfl, routeOf_bind_ok hopened⟩
  | error e =>
    simp only [hopened] at h
    cases h
    exact .inr ⟨e, rfl, rfl⟩

/-- **What a system call of a thread does, in the place where it is made.** -/
theorem effect {r : Except IoError c.Value} (hafter : s.After c r s') (hs : s.Fits d)
    (hfresh : d.FreshNames) (hr : c.perform d = (r, d')) :
    ∃ own, c.Effect r.isOk s s' d d' own := by
  cases hafter with
  | looks =>
    obtain rfl := looking_eq hr
    exact ⟨none, .refl hs⟩
  | removesDirectory =>
    have hspares : Spares none d d' :=
      spares_changing hr fun h => spares_removeDirectory (routeOf_bind_ok h)
    exact ⟨none, .of_none hspares trivial fun _ h => h⟩
  | @opens path write id =>
    obtain ⟨_, ⟨⟩, hopened⟩ | ⟨e, ⟨⟩, -⟩ := perform_openFile_cases hr
    obtain ⟨hspares, hnew, i, hi, hpath⟩ := spares_openFile hfresh hopened
    refine ⟨some id, hspares, ?_, ?_, i, hi, hpath⟩
    · rintro id' (h | h) <;> cases h <;> exact .inr hnew
    · rintro id' i' h hlocked
      cases h
      rw [hi] at hlocked
      cases hlocked
  | opensNot =>
    obtain ⟨id, ⟨⟩, -⟩ | ⟨e, -, rfl⟩ := perform_openFile_cases hr
    exact ⟨none, .refl hs⟩
  | @locks path id =>
    obtain ⟨i, hi, hpath⟩ := hs
    obtain ⟨hspares, hsole⟩ := spares_tryLock hi (changing_ok hr)
    refine ⟨some id, hspares, ?_, ?_, i, hsole, hspares.leadsTo hpath⟩
    · rintro id' (h | h) <;> exact .inl h
    · rintro id' i' h -
      cases h
      exact ⟨rfl, rfl⟩
  | @unlocks path id =>
    obtain ⟨i, hi, hpath⟩ := hs
    obtain ⟨d'', hunlock, hspares, hfree⟩ := spares_unlock hi.locked
    obtain rfl : d'' = d' := by
      have hok := changing_ok hr
      rw [hunlock] at hok
      cases hok
      rfl
    refine ⟨some id, hspares, ?_, ?_, i, hfree, hspares.leadsTo hpath⟩
    · rintro id' (h | h) <;> exact .inl h
    · rintro id' i' h hlocked
      cases h
      rw [hfree] at hlocked
      cases hlocked
  | locksNot | unlocksNot =>
    obtain rfl := changing_error hr
    exact ⟨none, .refl hs⟩
  | closes | closesLocked =>
    obtain rfl : d.closeFile _ = d' := congrArg Prod.snd hr
    exact ⟨_, .closeFile rfl trivial rfl⟩
  | removes =>
    have hspares : Spares none d d' :=
      spares_changing hr fun h => (spares_removeFile (routeOf_bind_ok h)).1
    exact ⟨none, .of_none hspares trivial fun _ h => h⟩

end SystemCall

end EngineHost
