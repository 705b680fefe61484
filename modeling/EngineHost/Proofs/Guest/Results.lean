import EngineHost.Proofs.Float.Exact
import EngineHost.Proofs.Guest.Arguments

/-!
# Results of a call as arguments

What a call gives back can be handed to another call.

* `Value.isRepresentable` : the values that have a JSON form, and `Value.split?` : the JSON forms
  that the result of a call is made of.
* `Value.toJson_of_representable` : the JSON form of a value gives the value.
* `Value.toResult_passed_back` : splitting a result and reading the parts gives the values that it
  was made of; one value without a JSON form is enough for there to be no result.
-/

namespace EngineHost

namespace Value

/-- Whether a value has a JSON form: an integer or a finite number. -/
def isRepresentable : Value → Bool
  | i32 _ | i64 _ => true
  | f32 x => x.datum.isFinite
  | f64 x => x.isFinite
  | v128 _ | externRef | funcRef => false

/-- The values that a result is made of, when there are so many: `null` stands for none, a single
one for itself, and more are in an array. -/
def split? : Nat → Json → Option (List Json)
  | 0, .null => some []
  | 1, j => some [j]
  | n + 2, .array js => if js.length = n + 2 then some js else none
  | _, _ => none

variable {v : Value} {vs : List Value} {x : Binary64}

theorem split?_gather (js : List Json) : split? js.length (gather js) = some js := by
  match js with
  | [] => rfl
  | [_] => rfl
  | _ :: _ :: _ => exact if_pos rfl

/-! ### One value -/

theorem ofInt_of_fits {n : Int} (h : -0x8000000000000000 ≤ n ∧ n < 0x10000000000000000) :
    Json.ofInt n = .number (.int n h) := by
  simp only [Json.ofInt, Json.Number.ofInt?, dif_pos h, Option.map_some, Option.getD_some]

theorem ofFinite_of_finite (h : x.isFinite = true) : ofFinite x = .ok (.number (.float x h)) := by
  simp only [ofFinite, Json.Number.ofBinary64?, dif_pos h]

theorem ofFinite_of_not_finite (h : x.isFinite = false) : ofFinite x = .error (.notFinite x) := by
  simp only [ofFinite, Json.Number.ofBinary64?, h, Bool.false_eq_true, dif_neg, not_false_eq_true]

/-- A representable value is given by its JSON form. -/
theorem toJson_of_representable (h : v.isRepresentable = true) :
    ∃ j, toJson v = .ok j ∧ ofJson v.type j = .ok v := by
  cases v with
  | i32 w =>
    have hlow := w.le_toInt
    have hhigh := w.toInt_lt
    have hfits : -0x8000000000000000 ≤ w.toInt ∧ w.toInt < 0x10000000000000000 := by omega
    refine ⟨.ofInt w.toInt, rfl, ?_⟩
    rw [ofInt_of_fits hfits]
    exact ofJson_ok_iff.2 (.word32 (by omega) (by omega) rfl)
  | i64 w =>
    have hlow := w.le_toInt
    have hhigh := w.toInt_lt
    have hfits : -0x8000000000000000 ≤ w.toInt ∧ w.toInt < 0x10000000000000000 := by omega
    refine ⟨.ofInt w.toInt, rfl, ?_⟩
    rw [ofInt_of_fits hfits]
    exact ofJson_ok_iff.2 (.word64 rfl)
  | f32 y =>
    have hwiden : y.widen.isFinite = true := y.isFinite_widen.trans h
    refine ⟨_, ofFinite_of_finite hwiden, ?_⟩
    simp only [ofJson, type, toNumber, Except.map, Json.Number.toBinary64, Binary32.narrow_widen h]
  | f64 y => exact ⟨_, ofFinite_of_finite h, rfl⟩
  | v128 | externRef | funcRef => cases h

/-- Any other value has no JSON form. -/
theorem toJson_of_not_representable (h : v.isRepresentable = false) :
    ∃ fault, toJson v = .error fault := by
  cases v with
  | i32 | i64 => cases h
  | f32 y => exact ⟨_, ofFinite_of_not_finite (y.isFinite_widen.trans h)⟩
  | f64 y => exact ⟨_, ofFinite_of_not_finite h⟩
  | v128 | externRef | funcRef => exact ⟨_, rfl⟩

/-! ### Many values -/

/-- Representable values are given by their JSON forms, from whatever index on. -/
theorem mapM_toJson_of_representable (h : ∀ v ∈ vs, v.isRepresentable = true) (k : Nat) :
    ∃ js, vs.mapM toJson = .ok js ∧ js.length = vs.length ∧
      ofJsons k (vs.map type) js = .ok vs := by
  induction vs generalizing k with
  | nil => exact ⟨[], rfl, rfl, rfl⟩
  | cons v vs ih =>
    obtain ⟨hv, hvs⟩ := List.forall_mem_cons.1 h
    obtain ⟨j, hj, hback⟩ := toJson_of_representable hv
    obtain ⟨js, hjs, hlength, hrest⟩ := ih hvs (k + 1)
    refine ⟨j :: js, ?_, congrArg (· + 1) hlength, ?_⟩
    · rw [List.mapM_cons, hj, hjs]
      rfl
    · rw [List.map_cons, ofJsons, hback, hrest]
      rfl

/-- One value without a JSON form is enough to fail, and what is reported is wrong with such a
value. -/
theorem mapM_toJson_of_not_representable (h : ∃ v ∈ vs, v.isRepresentable = false) :
    ∃ v ∈ vs, v.isRepresentable = false ∧
      ∃ fault, toJson v = .error fault ∧ vs.mapM toJson = .error fault := by
  induction vs with
  | nil => obtain ⟨v, hv, -⟩ := h; cases hv
  | cons v vs ih =>
    cases hv : v.isRepresentable with
    | false =>
      obtain ⟨fault, hfault⟩ := toJson_of_not_representable hv
      refine ⟨v, List.mem_cons_self, hv, fault, hfault, ?_⟩
      rw [List.mapM_cons, hfault]
      rfl
    | true =>
      obtain ⟨j, hj, -⟩ := toJson_of_representable hv
      have hlater : ∃ u ∈ vs, u.isRepresentable = false := by
        obtain ⟨u, hu, hfalse⟩ := h
        rcases List.mem_cons.1 hu with rfl | hu
        · rw [hv] at hfalse
          cases hfalse
        · exact ⟨u, hu, hfalse⟩
      obtain ⟨u, hu, hfalse, fault, hfault, hrest⟩ := ih hlater
      refine ⟨u, List.mem_cons_of_mem v hu, hfalse, fault, hfault, ?_⟩
      rw [List.mapM_cons, hj, hrest]
      rfl

/-- **Results can be passed back.**  When every value is an integer or a finite number there is a
result, and it consists of the JSON forms of as many values; a function with parameters of their
types reads exactly these values from them.  When there is another value among them the call fails
with what is wrong with one of these. -/
theorem toResult_passed_back (function next : String) (results : List Value) :
    let given := (toResult results).mapError (HostError.result function)
    ((∀ v ∈ results, v.isRepresentable = true) →
      ∃ j js, given = .ok j ∧ split? results.length j = some js ∧
        (ofArguments (results.map type) js).mapError (HostError.arguments next) = .ok results) ∧
    ((∃ v ∈ results, v.isRepresentable = false) →
      ∃ v ∈ results, v.isRepresentable = false ∧
        ∃ fault, toJson v = .error fault ∧ given = .error (.result function fault)) := by
  refine ⟨fun h => ?_, fun h => ?_⟩
  · obtain ⟨js, hjs, hlength, hback⟩ := mapM_toJson_of_representable h 0
    have hcount : (results.map type).length = js.length := by rw [List.length_map, hlength]
    refine ⟨gather js, js, ?_, ?_, ?_⟩
    · rw [toResult, hjs]
      rfl
    · rw [← hlength, split?_gather]
    · rw [ofArguments_of_length hcount, hback]
      rfl
  · obtain ⟨v, hv, hfalse, fault, hfault, hfails⟩ := mapM_toJson_of_not_representable h
    refine ⟨v, hv, hfalse, fault, hfault, ?_⟩
    rw [toResult, hfails]
    rfl

end Value

end EngineHost
