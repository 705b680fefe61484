import EngineHost.Proofs.Storage.Keeps
import Mathlib.Data.Set.Insert
import Mathlib.Logic.ExistsUnique
import Mathlib.Tactic.SplitIfs

/-!
# Storages whose handles hold their files

A `Storage.Holding S ι` tells which files of a storage are held, by names of type `ι`, and states
what every storage with exclusive access handles owes its callers: only taking a handle adds to the
files held, it adds a file that nobody held, and giving the handle up takes that file away again.

* `Storage.Holding.sabotaged` : this stays so when calls may fail without acting, the closing of
  a handle included, because a handle that could not be closed is released all the same.
* `Exclusive` : every file held has exactly one holder.  A program over a storage keeps this for
  the handles it stores by `Exclusive.take` and `Exclusive.giveUp`.
-/

namespace EngineHost

variable {σ τ ι β κ : Type}

/-- A part of the state stays the same. -/
def Unchanged (part : σ → β) (s s' : σ) : Prop := part s' = part s

instance (part : σ → β) : Std.Refl (Unchanged part) := ⟨fun _ => rfl⟩

instance (part : σ → β) : IsTrans σ (Unchanged part) := ⟨fun _ _ _ h h' => h'.trans h⟩

namespace Storage

/-- The files that the access handles of a storage hold. -/
structure Holding (S : Storage σ) (ι : Type) where
  /-- The file that a handle is on. -/
  target : S.Access → ι
  /-- Whether a handle has not been closed. -/
  isOpen : S.Access → Bool
  /-- The files that are held. -/
  held : σ → Set ι
  /-- Other calls leave the files held as they are. -/
  quiet : ∀ kind, kind ≠ .acquire → kind ≠ .close → S.Keeps (Unchanged held) kind
  /-- Taking a handle takes a file that nobody held. -/
  acquire_ok : ∀ {f s h s'}, S.acquire f s = .ok h s' →
    isOpen h = true ∧ target h ∉ held s ∧ held s' = insert (target h) (held s)
  /-- A refused handle holds nothing. -/
  acquire_error : ∀ {f s e s'}, S.acquire f s = .error e s' → held s' = held s
  /-- Closing and forgetting a handle gives its file up, whatever closing answers. -/
  giveUp : ∀ {h} s, isOpen h = true → held (S.giveUp h s) = held s \ {target h}
  /-- Forgetting a handle gives its file up. -/
  release : ∀ {h} s, isOpen h = true → held (S.release h s) = held s \ {target h}

namespace Holding

variable {S : Storage σ}

/-- **Sabotage takes no exclusivity away.** -/
def sabotaged (H : S.Holding ι) (w : Saboteur τ) : (S.sabotaged w).Holding ι where
  target := H.target
  isOpen := H.isOpen
  held p := H.held p.1
  quiet kind ha hc := sabotaged_keeps w (H.quiet kind ha hc)
  acquire_ok {f p h p'} hok := by
    obtain ⟨s, m⟩ := p
    change sabotage w .acquire (fun _ => none) (S.acquire f) (s, m) = .ok h p' at hok
    by_cases hstrike : ∃ e, w.Strikes .acquire m e
    · obtain ⟨e, he⟩ := hstrike
      rw [sabotage_of_strikes he] at hok
      cases hok
    · rw [sabotage_of_spared (not_exists.1 hstrike)] at hok
      obtain ⟨s', ha, rfl⟩ := beside_ok_iff.1 hok
      exact H.acquire_ok ha
  acquire_error {f p e p'} herr := by
    obtain ⟨s, m⟩ := p
    change sabotage w .acquire (fun _ => none) (S.acquire f) (s, m) = .error e p' at herr
    by_cases hstrike : ∃ e, w.Strikes .acquire m e
    · obtain ⟨e', he⟩ := hstrike
      rw [sabotage_of_strikes he] at herr
      cases herr
      rfl
    · rw [sabotage_of_spared (not_exists.1 hstrike)] at herr
      obtain ⟨s', ha, rfl⟩ := beside_error_iff.1 herr
      exact H.acquire_error ha
  giveUp {h} p hopen := by
    obtain ⟨s, m⟩ := p
    simp only [Storage.giveUp, Storage.sabotaged]
    -- a close that fails leaves the handle open, and its release then gives the file up
    split
    · exact H.release s hopen
    · exact H.giveUp s hopen
  release p hopen := H.release p.1 hopen

end Holding

end Storage

/-! ### Holders -/

/-- The files held are those of the holders, and no two holders have the same one. -/
structure Exclusive (held : Set ι) (holder : κ → Option ι) : Prop where
  held_iff : ∀ i, i ∈ held ↔ ∃ k, holder k = some i
  unique : ∀ {k k' i}, holder k = some i → holder k' = some i → k = k'

namespace Exclusive

variable {held : Set ι} {holder holder' : κ → Option ι} {k : κ} {i : ι}

/-- A new holder takes a file that nobody held. -/
theorem take (h : Exclusive held holder) (hi : i ∉ held) (hk : holder' k = some i)
    (hother : ∀ k', k' ≠ k → holder' k' = holder k') (hnone : holder k = none) :
    Exclusive (insert i held) holder' where
  held_iff j := by
    rw [Set.mem_insert_iff, h.held_iff]
    constructor
    · rintro (rfl | ⟨k', hk'⟩)
      · exact ⟨k, hk⟩
      · have hne : k' ≠ k := by
          rintro rfl
          rw [hnone] at hk'; cases hk'
        exact ⟨k', by rw [hother k' hne, hk']⟩
    · rintro ⟨k', hk'⟩
      by_cases hne : k' = k
      · subst hne
        rw [hk] at hk'
        exact .inl (Option.some.inj hk').symm
      · exact .inr ⟨k', by rw [← hother k' hne, hk']⟩
  unique {k₁ k₂ j} h₁ h₂ := by
    -- whoever shares the new holder's file held it before
    have hsole : ∀ {k'}, holder' k' = some i → k' = k := by
      intro k' hk'
      by_contra hne
      exact hi ((h.held_iff i).2 ⟨k', by rw [← hother k' hne, hk']⟩)
    by_cases hj : j = i
    · subst hj
      rw [hsole h₁, hsole h₂]
    · have hne : ∀ {k'}, holder' k' = some j → k' ≠ k := by
        rintro k' hk' rfl
        rw [hk] at hk'
        exact hj (Option.some.inj hk').symm
      rw [hother _ (hne h₁)] at h₁
      rw [hother _ (hne h₂)] at h₂
      exact h.unique h₁ h₂

/-- A holder gives its file up. -/
theorem giveUp (h : Exclusive held holder) (hi : holder k = some i) (hk : holder' k = none)
    (hother : ∀ k', k' ≠ k → holder' k' = holder k') : Exclusive (held \ {i}) holder' where
  held_iff j := by
    rw [Set.mem_sdiff, Set.mem_singleton_iff, h.held_iff]
    constructor
    · rintro ⟨⟨k', hk'⟩, hj⟩
      have hne : k' ≠ k := by
        rintro rfl
        rw [hi] at hk'
        exact hj (Option.some.inj hk').symm
      exact ⟨k', by rw [hother k' hne, hk']⟩
    · rintro ⟨k', hk'⟩
      -- the holder that gave its file up has none now
      have hne : k' ≠ k := by
        rintro rfl
        rw [hk] at hk'; cases hk'
      rw [hother k' hne] at hk'
      refine ⟨⟨k', hk'⟩, ?_⟩
      rintro rfl
      exact hne (h.unique hk' hi)
  unique {k₁ k₂ j} h₁ h₂ := by
    -- whoever has a file afterwards had it before
    have hold : ∀ {k'}, holder' k' = some j → holder k' = some j := by
      intro k' hk'
      rw [← hother k' ?_, hk']
      rintro rfl
      rw [hk] at hk'; cases hk'
    exact h.unique (hold h₁) (hold h₂)

/-- A file held has one holder, and a file with one holder is held. -/
theorem mem_iff_existsUnique (h : Exclusive held holder) :
    i ∈ held ↔ ∃! k, holder k = some i := by
  rw [h.held_iff]
  constructor
  · rintro ⟨k, hk⟩
    exact ⟨k, hk, fun k' hk' => h.unique hk' hk⟩
  · rintro ⟨k, hk, -⟩
    exact ⟨k, hk⟩

end Exclusive

end EngineHost
