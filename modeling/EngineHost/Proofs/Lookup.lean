import Mathlib.Data.List.Nodup

/-!
# Tables as lists of pairs

Children of a directory and files of a bridge are kept as lists of pairs of a key and a value.
Such a list is a table when no key occurs twice in it: then what `List.lookup` finds for a key is
the value that stands beside it (`lookup_eq_some_iff_mem`), and leaving a key out changes the answer
for that key only (`lookup_leaveOut`).
-/

namespace EngineHost

variable {α β : Type} [DecidableEq α]

theorem lookup_cons_of_ne {l : List (α × β)} {j k : α} {v : β} (h : k ≠ j) :
    ((j, v) :: l).lookup k = l.lookup k := by
  rw [List.lookup_cons, beq_eq_false_iff_ne.2 h]

theorem mem_of_lookup {l : List (α × β)} {k : α} {v : β} (h : l.lookup k = some v) :
    (k, v) ∈ l := by
  obtain ⟨front, back, rfl, -⟩ := List.lookup_eq_some_iff.1 h
  simp

theorem not_mem_keys_of_lookup {l : List (α × β)} {k : α} (h : l.lookup k = none) :
    k ∉ l.map Prod.fst := by
  intro hk
  obtain ⟨⟨k', v⟩, hmem, rfl⟩ := List.mem_map.1 hk
  simpa using List.lookup_eq_none_iff.1 h _ hmem

/-- In a table, a key finds the value beside it. -/
theorem lookup_eq_some_iff_mem {l : List (α × β)} (hl : (l.map Prod.fst).Nodup) {k : α} {v : β} :
    l.lookup k = some v ↔ (k, v) ∈ l := by
  refine ⟨mem_of_lookup, fun hmem => ?_⟩
  induction l with
  | nil => cases hmem
  | cons e l ih =>
    rw [List.map_cons, List.nodup_cons] at hl
    rcases List.mem_cons.1 hmem with rfl | hmem
    · exact List.lookup_cons_self
    · have hne : k ≠ e.1 := by
        rintro rfl
        exact hl.1 (List.mem_map.2 ⟨_, hmem, rfl⟩)
      rw [lookup_cons_of_ne hne]
      exact ih hl.2 hmem

/-- Leaving a key out of a table. -/
theorem lookup_leaveOut (l : List (α × β)) (k k' : α) :
    (l.filter fun e => e.1 ≠ k).lookup k' = if k' = k then none else l.lookup k' := by
  induction l with
  | nil => simp
  | cons e l ih =>
    obtain ⟨j, v⟩ := e
    by_cases hj : j = k
    · -- this pair goes, and so does every other one with its key
      rw [List.filter_cons_of_neg (by simpa using hj), ih]
      split_ifs with hk
      · rfl
      · rw [lookup_cons_of_ne (hj ▸ hk)]
    · rw [List.filter_cons_of_pos (by simpa using hj)]
      by_cases hk : k' = j
      · subst hk
        rw [List.lookup_cons_self, List.lookup_cons_self, if_neg hj]
      · rw [lookup_cons_of_ne hk, lookup_cons_of_ne hk, ih]

theorem nodup_keys_leaveOut {l : List (α × β)} (hl : (l.map Prod.fst).Nodup) (k : α) :
    ((l.filter fun e => e.1 ≠ k).map Prod.fst).Nodup :=
  (List.filter_sublist.map Prod.fst).nodup hl

theorem nodup_keys_append_new {l : List (α × β)} (hl : (l.map Prod.fst).Nodup) {k : α} (v : β)
    (h : l.lookup k = none) : ((l ++ [(k, v)]).map Prod.fst).Nodup := by
  rw [List.map_append, List.nodup_append]
  refine ⟨hl, by simp, ?_⟩
  rintro a ha b hb rfl
  have : a = k := by simpa using hb
  exact not_mem_keys_of_lookup h (this ▸ ha)

end EngineHost
