import EngineHost.Json.Mismatch
import Mathlib.Tactic.SplitIfs

/-!
# Fields of objects

`Json.ofFields` sorts fields by their keys.  Sorting is not seen by who asks for a field by its key:
he finds the value that came last under it.

* `Json.field?_insertField` : a field put in its place, and the others.
* `Json.ofFields_eq`, `Json.ofFields_of_nodup` : an object made from fields, told by what is found
  in it.
* `Json.present_of_ne_null` : a field that may be left out and is there, if only as `null`.
-/

namespace EngineHost

namespace Json

variable {key k : String} {v : Json} {fs gs : List (String × Json)}

theorem field?_cons : field? key ((k, v) :: fs) = if k = key then some v else field? key fs := rfl

theorem field?_append : field? key (fs ++ gs) = (field? key fs).or (field? key gs) := by
  induction fs with
  | nil => rfl
  | cons f fs ih =>
    obtain ⟨k, v⟩ := f
    rw [List.cons_append, field?_cons, field?_cons, ih]
    split_ifs <;> rfl

/-- A key that no field has finds nothing. -/
theorem field?_eq_none_iff : field? key fs = none ↔ key ∉ fs.map Prod.fst := by
  induction fs with
  | nil => simp [field?]
  | cons f fs ih =>
    obtain ⟨k, v⟩ := f
    rw [field?_cons]
    split_ifs with h
    · simp [h]
    · simp [ih, Ne.symm h]

/-- Where no key comes twice, the order of the fields does not matter. -/
theorem field?_reverse (h : (fs.map Prod.fst).Nodup) : field? key fs.reverse = field? key fs := by
  induction fs with
  | nil => rfl
  | cons f fs ih =>
    obtain ⟨k, v⟩ := f
    obtain ⟨hk, hfs⟩ := List.nodup_cons.1 h
    rw [List.reverse_cons, field?_append, ih hfs, field?_cons, field?_cons]
    split_ifs with heq
    · subst heq
      rw [field?_eq_none_iff.2 hk]
      rfl
    · rw [field?, Option.or_none]

/-- A field that is put in its place is found there, and the others as before. -/
theorem field?_insertField (key k : String) (v : Json) (fs : List (String × Json)) :
    field? key (insertField k v fs) = if k = key then some v else field? key fs := by
  induction fs with
  | nil => rfl
  | cons f fs ih =>
    obtain ⟨k', v'⟩ := f
    rw [insertField]
    by_cases hlt : k < k'
    · rw [if_pos hlt, field?_cons]
    · by_cases hgt : k' < k
      · -- the field here stays, and has another key
        have hne : k' ≠ k := fun heq => String.lt_irrefl k (heq ▸ hgt)
        rw [if_neg hlt, if_pos hgt, field?_cons, field?_cons, ih]
        split_ifs with hkey' hkey
        · exact absurd (hkey'.trans hkey.symm) hne
        · rfl
        · rfl
        · rfl
      · -- the field here is replaced
        have heq : k' = k := String.le_antisymm (String.not_lt.1 hlt) (String.not_lt.1 hgt)
        rw [if_neg hlt, if_neg hgt, field?_cons, field?_cons, heq]
        split_ifs <;> rfl

/-- An object made from fields: of those with one key the last one counts. -/
theorem ofFields_eq (fs : List (String × Json)) :
    ∃ sorted, ofFields fs = .object sorted ∧ ∀ key, field? key sorted = field? key fs.reverse := by
  have hfold : ∀ (fs sorted : List (String × Json)) (key : String),
      field? key (fs.foldl (fun sorted f => insertField f.1 f.2 sorted) sorted) =
        (field? key fs.reverse).or (field? key sorted) := by
    intro fs
    induction fs with
    | nil => intro sorted key; rfl
    | cons f fs ih =>
      intro sorted key
      obtain ⟨k, v⟩ := f
      rw [List.foldl_cons, ih, field?_insertField, List.reverse_cons, field?_append,
        Option.or_assoc, field?_cons]
      split_ifs <;> rfl
  refine ⟨fs.foldl (fun sorted f => insertField f.1 f.2 sorted) [], rfl, fun key => ?_⟩
  rw [hfold, field?, Option.or_none]

/-- An object made from fields of different keys shows these fields. -/
theorem ofFields_of_nodup (h : (fs.map Prod.fst).Nodup) :
    ∃ sorted, ofFields fs = .object sorted ∧ ∀ key, field? key sorted = field? key fs := by
  obtain ⟨sorted, hsorted, hfields⟩ := ofFields_eq fs
  exact ⟨sorted, hsorted, fun key => (hfields key).trans (field?_reverse h)⟩

/-! ### Fields that may be left out -/

theorem present_of_ne_null {j : Json} (h : j ≠ .null) : present (some j) = some j := by
  cases j with
  | null => exact absurd rfl h
  | bool | number | string | array | object => rfl

/-- What is there is not `null`. -/
theorem present_present (j : Option Json) : present (present j) = present j := by
  cases j with
  | none => rfl
  | some j => cases j <;> rfl

end Json

end EngineHost
