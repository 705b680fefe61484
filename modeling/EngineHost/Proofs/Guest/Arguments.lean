import EngineHost.Host.Error
import EngineHost.Proofs.Attempt
import Mathlib.Data.Int.ModEq
import Mathlib.Data.List.Forall2
import Mathlib.Data.List.Induction
import Mathlib.Data.Nat.Digits.Defs

/-!
# Arguments of a call

Which JSON values are arguments of which type, and what guest values they give.

* `Writes` : the texts that write an integer, and the integer they write, by the place value of the
  digits.
* `Value.Given` : the JSON values by which a value of a type is given.  Integers are told by what a
  word leaves of them, so that one word of 32 bits has two integers and one text many spellings.
* `Value.ofJson_ok_iff` : an argument is read exactly when it gives a value.
* `Value.ofArguments_exact` : what is read from the arguments of a call, and what is reported when
  they do not fit.
-/

namespace EngineHost

/-! ### Decimal texts -/

/-- One or more decimal digits, and the number that they write. -/
def Digits (ds : List Char) (n : Nat) : Prop :=
  ds ≠ [] ∧ (∀ c ∈ ds, '0' ≤ c ∧ c ≤ '9') ∧
    n = Nat.ofDigits 10 (ds.reverse.map fun c => c.toNat - '0'.toNat)

/-- An optional sign and one or more decimal digits, and the integer that they write. -/
inductive Writes : List Char → Int → Prop
  | unsigned {ds : List Char} {n : Nat} : Digits ds n → Writes ds n
  | positive {ds : List Char} {n : Nat} : Digits ds n → Writes ('+' :: ds) n
  | negative {ds : List Char} {n : Nat} : Digits ds n → Writes ('-' :: ds) (-n)

variable {cs ds : List Char} {c : Char} {m : Nat} {n : Int} {s : String}

theorem isDigit_iff : c.isDigit = true ↔ '0' ≤ c ∧ c ≤ '9' := by
  simp only [Char.isDigit, Bool.and_eq_true, decide_eq_true_eq, ge_iff_le]
  rfl

/-- Reading digit by digit from the left is the place value of the digits from the right. -/
theorem digitsToNat_eq (ds : List Char) :
    digitsToNat ds = Nat.ofDigits 10 (ds.reverse.map fun c => c.toNat - '0'.toNat) := by
  induction ds using List.reverseRecOn with
  | nil => rfl
  | append_singleton ds c ih =>
    rw [digitsToNat, List.foldl_append, ← digitsToNat, ih, List.reverse_append,
      List.reverse_singleton, List.singleton_append, List.map_cons, Nat.ofDigits_cons]
    exact Nat.add_comm _ _

theorem digits_iff :
    Digits ds m ↔ (ds.isEmpty || !ds.all Char.isDigit) = false ∧ digitsToNat ds = m := by
  rw [Digits, digitsToNat_eq, ← and_assoc, eq_comm (a := m)]
  refine and_congr_left fun _ => ?_
  simp only [Bool.or_eq_false_iff, List.isEmpty_eq_false_iff, Bool.not_eq_false', List.all_eq_true,
    isDigit_iff]

/-- A sign is no digit. -/
theorem Digits.head_ne (h : Digits (c :: cs) m) : c ≠ '-' ∧ c ≠ '+' := by
  have hc := h.2.1 c List.mem_cons_self
  constructor
  · rintro rfl
    exact absurd hc (by decide)
  · rintro rfl
    exact absurd hc (by decide)

theorem writes_negative_iff : Writes ('-' :: cs) n ↔ ∃ m : Nat, Digits cs m ∧ n = -m := by
  constructor
  · intro h
    cases h with
    | unsigned h => exact absurd rfl h.head_ne.1
    | negative h => exact ⟨_, h, rfl⟩
  · rintro ⟨m, h, rfl⟩
    exact .negative h

theorem writes_positive_iff : Writes ('+' :: cs) n ↔ ∃ m : Nat, Digits cs m ∧ n = m := by
  constructor
  · intro h
    cases h with
    | unsigned h => exact absurd rfl h.head_ne.2
    | positive h => exact ⟨_, h, rfl⟩
  · rintro ⟨m, h, rfl⟩
    exact .positive h

theorem writes_unsigned_iff (hneg : cs.head? ≠ some '-') (hpos : cs.head? ≠ some '+') :
    Writes cs n ↔ ∃ m : Nat, Digits cs m ∧ n = m := by
  constructor
  · intro h
    cases h with
    | unsigned h => exact ⟨_, h, rfl⟩
    | positive => exact absurd rfl hpos
    | negative => exact absurd rfl hneg
  · rintro ⟨m, h, rfl⟩
    exact .unsigned h

/-- An integer is read from the texts that write it. -/
theorem readDecimal_eq_some_iff : readDecimal s = some n ↔ Writes s.toList n := by
  have hdigits : ∀ (cs : List Char) (f : Int → Int),
      (((if (cs.isEmpty || !cs.all Char.isDigit) = true then none
        else some (digitsToNat cs)) >>= fun m => pure (m : Int)).map f = some n) ↔
        ∃ m : Nat, Digits cs m ∧ n = f m := by
    intro cs f
    simp only [digits_iff]
    split_ifs with h
    · simp [h]
    · simp [h, eq_comm]
  unfold readDecimal
  split
  · rename_i cs hs
    rw [hs, writes_negative_iff]
    exact hdigits cs _
  · rename_i cs hs
    rw [hs, writes_positive_iff]
    exact hdigits cs _
  · rename_i hneg hpos
    rw [writes_unsigned_iff]
    · exact hdigits _ _
    · intro h
      obtain ⟨cs, hs⟩ := List.head?_eq_some_iff.1 h
      exact hneg cs hs
    · intro h
      obtain ⟨cs, hs⟩ := List.head?_eq_some_iff.1 h
      exact hpos cs hs


/-! ### Words -/

/-- A word of 32 bits is told by its integer up to multiples of `2 ^ 32`. -/
theorem int32_eq_ofInt_iff {w : Int32} {n : Int} :
    w = .ofInt n ↔ w.toInt ≡ n [ZMOD 0x100000000] := by
  have hlow := w.le_toInt
  have hhigh := w.toInt_lt
  rw [← Int32.toInt_inj, Int32.toInt_ofInt, Int.ModEq, Int.bmod_def]
  simp only [Int32.size]
  omega

/-- A word of 64 bits is told by its integer up to multiples of `2 ^ 64`. -/
theorem int64_eq_ofInt_iff {w : Int64} {n : Int} :
    w = .ofInt n ↔ w.toInt ≡ n [ZMOD 0x10000000000000000] := by
  have hlow := w.le_toInt
  have hhigh := w.toInt_lt
  rw [← Int64.toInt_inj, Int64.toInt_ofInt, Int.ModEq, Int.bmod_def]
  simp only [Int64.size]
  omega

/-! ### Values -/

namespace Value

/-- The JSON values by which a guest value of a type is given. -/
inductive Given : ValueType → Json → Value → Prop
  /-- An integer of either sign that fits 32 bits. -/
  | word32 {n : Int} {fits : _} {w : Int32} : -0x80000000 ≤ n → n ≤ 0xffffffff →
      w.toInt ≡ n [ZMOD 0x100000000] → Given .i32 (.number (.int n fits)) (.i32 w)
  /-- A truth value. -/
  | truth {b : Bool} : Given .i32 (.bool b) (.i32 (if b then 1 else 0))
  /-- Any integer. -/
  | word64 {n : Int} {fits : _} {w : Int64} : w.toInt ≡ n [ZMOD 0x10000000000000000] →
      Given .i64 (.number (.int n fits)) (.i64 w)
  /-- A text that writes the value. -/
  | decimal {s : String} {w : Int64} : Writes s.toList w.toInt → Given .i64 (.string s) (.i64 w)
  | single {n : Json.Number} : Given .f32 (.number n) (.f32 (.narrow n.toBinary64))
  | double {n : Json.Number} : Given .f64 (.number n) (.f64 n.toBinary64)

variable {type : ValueType} {types : List ValueType} {j : Json} {args : List Json} {v : Value}
  {vs : List Value} {i : Nat}

theorem Given.type_eq (h : Given type j v) : v.type = type := by
  cases h <;> rfl

theorem isSigned64_iff {n : Int} :
    isSigned64 n = true ↔ -0x8000000000000000 ≤ n ∧ n ≤ 0x7fffffffffffffff := by
  simp only [isSigned64, Bool.and_eq_true, decide_eq_true_eq]
  omega

/-- A text is read as the word that it writes. -/
theorem ofJson_string_iff {s : String} :
    ofJson .i64 (.string s) = .ok v ↔ ∃ w : Int64, v = .i64 w ∧ Writes s.toList w.toInt := by
  simp only [ofJson, ← readDecimal_eq_some_iff]
  cases hread : readDecimal s with
  | none => simp
  | some n =>
    by_cases hn : isSigned64 n = true
    · have hbounds := isSigned64_iff.1 hn
      have hword : (Int64.ofInt n).toInt = n :=
        Int64.toInt_ofInt_of_le (by omega) (by omega)
      simp only [hn, if_true, Except.ok.injEq, Option.some.injEq]
      constructor
      · rintro rfl
        exact ⟨_, rfl, hword.symm⟩
      · rintro ⟨w, rfl, rfl⟩
        rw [Int64.ofInt_toInt]
    · simp only [hn, Option.some.injEq]
      refine iff_of_false nofun ?_
      rintro ⟨w, rfl, rfl⟩
      have hlow := w.le_toInt
      have hhigh := w.toInt_lt
      exact hn (isSigned64_iff.2 ⟨by omega, by omega⟩)

/-- An argument is read exactly when it gives a value of the type of its parameter. -/
theorem ofJson_ok_iff : ofJson type j = .ok v ↔ Given type j v := by
  constructor
  · intro h
    cases type with
    | i32 =>
      cases j with
      | number n =>
        cases n with
        | int n fits =>
          simp only [ofJson] at h
          split_ifs at h with hn
          cases h
          exact .word32 hn.1 (by omega) (int32_eq_ofInt_iff.1 rfl)
        | float => cases h
      | bool b => cases h; exact .truth
      | null | string | array | object => cases h
    | i64 =>
      cases j with
      | number n =>
        cases n with
        | int n fits => cases h; exact .word64 (int64_eq_ofInt_iff.1 rfl)
        | float => cases h
      | string s =>
        obtain ⟨w, rfl, hw⟩ := ofJson_string_iff.1 h
        exact .decimal hw
      | null | bool | array | object => cases h
    | f32 =>
      cases j with
      | number n => cases h; exact .single
      | null | bool | string | array | object => cases h
    | f64 =>
      cases j with
      | number n => cases h; exact .double
      | null | bool | string | array | object => cases h
    | v128 | externRef | funcRef => cases h
  · intro h
    cases h with
    | word32 hlow hhigh hw =>
      rw [int32_eq_ofInt_iff.2 hw, ofJson, if_pos ⟨hlow, Int.lt_add_one_of_le hhigh⟩]
    | truth => rfl
    | word64 hw => rw [int64_eq_ofInt_iff.2 hw, ofJson]
    | decimal hw => exact ofJson_string_iff.2 ⟨_, rfl, hw⟩
    | single | double => rfl

/-- Arguments are read exactly when each of them gives a value of the type of its parameter. -/
theorem ofJsons_ok_iff :
    ofJsons i types args = .ok vs ↔
      List.Forall₂ (fun p v => Given p.1 p.2 v) (types.zip args) vs := by
  induction types generalizing i args vs with
  | nil => simp [ofJsons, List.forall₂_nil_left_iff, eq_comm]
  | cons type types ih =>
    cases args with
    | nil => simp [ofJsons, List.forall₂_nil_left_iff, eq_comm]
    | cons j args =>
      simp only [ofJsons, except_bind_ok_iff, except_mapError_ok_iff, except_pure_ok_iff, ih,
        ofJson_ok_iff, List.zip_cons_cons, List.forall₂_cons_left_iff]
      constructor
      · rintro ⟨v, hv, vs, hvs, rfl⟩
        exact ⟨v, vs, hv, hvs, rfl⟩
      · rintro ⟨v, vs, hv, hvs, rfl⟩
        exact ⟨v, hv, vs, hvs, rfl⟩

/-- The first argument that does not fit is the one that is reported. -/
theorem ofJsons_of_misfit {p : ValueType × Json} (k : Nat) (hp : (types.zip args)[i]? = some p)
    (hmisfit : ∀ v, ¬ Given p.1 p.2 v)
    (hbefore : ∀ q ∈ (types.zip args).take i, ∃ v, Given q.1 q.2 v) :
    ∃ fault, ofJson p.1 p.2 = .error fault ∧
      ofJsons k types args = .error (.argument (k + i) fault) := by
  induction types generalizing i args k with
  | nil => cases hp
  | cons type types ih =>
    cases args with
    | nil => cases hp
    | cons j args =>
      cases i with
      | zero =>
        cases hp
        cases hread : ofJson type j with
        | ok v => exact absurd (ofJson_ok_iff.1 hread) (hmisfit v)
        | error fault =>
          refine ⟨fault, rfl, ?_⟩
          rw [ofJsons, hread]
          rfl
      | succ i =>
        obtain ⟨v, hv⟩ := hbefore (type, j) List.mem_cons_self
        obtain ⟨fault, hfault, hrest⟩ :=
          ih (k + 1) hp fun q hq => hbefore q (List.mem_cons_of_mem _ hq)
        refine ⟨fault, hfault, ?_⟩
        rw [ofJsons, ofJson_ok_iff.2 hv, hrest, Nat.add_right_comm]
        rfl

/-- A relation to some list is a relation of each item to some item. -/
theorem exists_forall₂_iff {α β : Type} {R : α → β → Prop} {l : List α} :
    (∃ l', List.Forall₂ R l l') ↔ ∀ a ∈ l, ∃ b, R a b := by
  induction l with
  | nil => simp
  | cons a l ih =>
    simp only [List.forall₂_cons_left_iff, List.forall_mem_cons, ← ih]
    constructor
    · rintro ⟨_, b, l', hb, hl, rfl⟩
      exact ⟨⟨b, hb⟩, l', hl⟩
    · rintro ⟨⟨b, hb⟩, l', hl⟩
      exact ⟨_, b, l', hb, hl, rfl⟩

/-- Without an argument for every parameter nothing is read. -/
theorem ofArguments_of_count (h : types.length ≠ args.length) :
    ofArguments types args = .error (.count types.length args.length) := if_neg h

/-- With an argument for every parameter they are read one by one. -/
theorem ofArguments_of_length (h : types.length = args.length) :
    ofArguments types args = ofJsons 0 types args := if_pos h

theorem ofArguments_ok_iff :
    ofArguments types args = .ok vs ↔ types.length = args.length ∧
      List.Forall₂ (fun p v => Given p.1 p.2 v) (types.zip args) vs := by
  by_cases h : types.length = args.length
  · rw [ofArguments_of_length h, ofJsons_ok_iff, and_iff_right h]
  · rw [ofArguments_of_count h]
    exact iff_of_false nofun fun hboth => h hboth.1

/-- The values that are given have the types of the parameters. -/
theorem map_type_of_given (hlength : types.length = args.length)
    (h : List.Forall₂ (fun p v => Given p.1 p.2 v) (types.zip args) vs) :
    vs.map Value.type = types := by
  have htypes : (types.zip args).map Prod.fst = types :=
    List.map_fst_zip (Nat.le_of_eq hlength)
  have hsame : List.Forall₂ Eq ((types.zip args).map Prod.fst) (vs.map Value.type) :=
    List.forall₂_map_left_iff.2 (List.forall₂_map_right_iff.2 (h.imp fun _ _ hv => hv.type_eq.symm))
  rw [List.forall₂_eq_eq_eq, htypes] at hsame
  exact hsame.symm

/-! ### Integers -/

section Integers

variable {n : Int} (fits : -0x8000000000000000 ≤ n ∧ n < 0x10000000000000000)

/-- An integer is an argument of 32 bits when they can hold it with or without a sign. -/
theorem ofJson_i32_int_iff :
    ofJson .i32 (.number (.int n fits)) = .ok v ↔ (-0x80000000 ≤ n ∧ n ≤ 0xffffffff) ∧
      ∃ w : Int32, v = .i32 w ∧ w.toInt ≡ n [ZMOD 0x100000000] := by
  rw [ofJson_ok_iff]
  constructor
  · intro h
    cases h with
    | word32 hlow hhigh hw => exact ⟨⟨hlow, hhigh⟩, _, rfl, hw⟩
  · rintro ⟨⟨hlow, hhigh⟩, w, rfl, hw⟩
    exact .word32 hlow hhigh hw

/-- Every integer is an argument of 64 bits. -/
theorem ofJson_i64_int_iff :
    ofJson .i64 (.number (.int n fits)) = .ok v ↔
      ∃ w : Int64, v = .i64 w ∧ w.toInt ≡ n [ZMOD 0x10000000000000000] := by
  rw [ofJson_ok_iff]
  constructor
  · intro h
    cases h with
    | word64 hw => exact ⟨_, rfl, hw⟩
  · rintro ⟨w, rfl, hw⟩
    exact .word64 hw

end Integers

/-- A truth value is an argument of 32 bits only. -/
theorem ofJson_bool_iff {b : Bool} :
    ofJson type (.bool b) = .ok v ↔ type = .i32 ∧ v = .i32 (if b then 1 else 0) := by
  rw [ofJson_ok_iff]
  constructor
  · intro h
    cases h
    exact ⟨rfl, rfl⟩
  · rintro ⟨rfl, rfl⟩
    exact .truth

/-- A text is an argument of 64 bits only. -/
theorem ofJson_text_iff {s : String} :
    ofJson type (.string s) = .ok v ↔ type = .i64 ∧ ∃ n, ∃ w : Int64, Writes s.toList n ∧
      -0x8000000000000000 ≤ n ∧ n ≤ 0x7fffffffffffffff ∧ w.toInt = n ∧ v = .i64 w := by
  rw [ofJson_ok_iff]
  constructor
  · intro h
    cases h with
    | @decimal _ w hw =>
      exact ⟨rfl, _, w, hw, w.le_toInt, Int.le_of_lt_add_one w.toInt_lt, rfl, rfl⟩
  · rintro ⟨rfl, n, w, hw, -, -, rfl, rfl⟩
    exact .decimal hw

/-- **What is read from the arguments of a call.**  They are read exactly when there are as many as
parameters and each is given as a value of the type of its parameter; then there is one value for
each parameter, of its type and in order.  Otherwise the error tells the two numbers, or the first
argument that does not fit.

An integer is an argument of 32 bits from `-2 ^ 31` to `2 ^ 32 - 1` and of 64 bits always, and gives
the one word whose integer differs from it by a multiple of `2 ^ 32` or `2 ^ 64`; a number with a
fraction or an exponent is neither.  A truth value is an argument of 32 bits only, a text one of 64
bits only, when it writes an integer from `-2 ^ 63` to `2 ^ 63 - 1`.  Nothing else is an integer,
`null`, arrays and objects are no arguments at all, and other types have none. -/
theorem ofArguments_exact (function : String) (types : List ValueType) (args : List Json) :
    let read := (ofArguments types args).mapError (HostError.arguments function)
    ((∃ vs, read = .ok vs) ↔
      types.length = args.length ∧ ∀ p ∈ types.zip args, ∃ v, Given p.1 p.2 v) ∧
    (∀ vs, read = .ok vs → vs.map Value.type = types ∧
      List.Forall₂ (fun p v => Given p.1 p.2 v) (types.zip args) vs) ∧
    (types.length ≠ args.length →
      read = .error (.arguments function (.count types.length args.length))) ∧
    (∀ i p, types.length = args.length → (types.zip args)[i]? = some p →
      (∀ v, ¬ Given p.1 p.2 v) → (∀ q ∈ (types.zip args).take i, ∃ v, Given q.1 q.2 v) →
      ∃ fault, read = .error (.arguments function (.argument i fault))) ∧
    (∀ n fits,
      ((∃ v, ofJson .i32 (.number (.int n fits)) = .ok v) ↔ -0x80000000 ≤ n ∧ n ≤ 0xffffffff) ∧
      (∀ v, ofJson .i32 (.number (.int n fits)) = .ok v →
        ∃ w : Int32, v = .i32 w ∧ ∀ u : Int32, u = w ↔ u.toInt ≡ n [ZMOD 0x100000000]) ∧
      ∃ w : Int64, ofJson .i64 (.number (.int n fits)) = .ok (.i64 w) ∧
        ∀ u : Int64, u = w ↔ u.toInt ≡ n [ZMOD 0x10000000000000000]) ∧
    (∀ x finite v, ofJson .i32 (.number (.float x finite)) ≠ .ok v ∧
      ofJson .i64 (.number (.float x finite)) ≠ .ok v) ∧
    (∀ type b v, ofJson type (.bool b) = .ok v ↔ type = .i32 ∧ v = .i32 (if b then 1 else 0)) ∧
    (∀ type s v, ofJson type (.string s) = .ok v ↔ type = .i64 ∧
      ∃ n, ∃ w : Int64, Writes s.toList n ∧ -0x8000000000000000 ≤ n ∧ n ≤ 0x7fffffffffffffff ∧
        w.toInt = n ∧ v = .i64 w) ∧
    (∀ type v, ofJson type .null ≠ .ok v ∧ (∀ items, ofJson type (.array items) ≠ .ok v) ∧
      ∀ fields, ofJson type (.object fields) ≠ .ok v) ∧
    ∀ type j v, ofJson type j = .ok v →
      type = .i32 ∨ type = .i64 ∨ type = .f32 ∨ type = .f64 := by
  intro read
  have hok : ∀ vs, read = .ok vs ↔ types.length = args.length ∧
      List.Forall₂ (fun p v => Given p.1 p.2 v) (types.zip args) vs :=
    fun vs => except_mapError_ok_iff.trans ofArguments_ok_iff
  refine ⟨?_, fun vs h => ?_, fun h => ?_, fun i p hlength hp hmisfit hbefore => ?_,
    fun n fits => ⟨?_, fun v h => ?_, ?_⟩, fun x finite v => ⟨nofun, nofun⟩,
    fun type b v => ofJson_bool_iff, fun type s v => ofJson_text_iff, fun type v => ?_,
    fun type j v h => ?_⟩
  · simp only [hok, exists_and_left, exists_forall₂_iff]
  · obtain ⟨hlength, hgiven⟩ := (hok vs).1 h
    exact ⟨map_type_of_given hlength hgiven, hgiven⟩
  · simp only [read, ofArguments_of_count h]
    rfl
  · obtain ⟨fault, -, hfault⟩ := ofJsons_of_misfit 0 hp hmisfit hbefore
    refine ⟨fault, ?_⟩
    simp only [read, ofArguments_of_length hlength, hfault, Nat.zero_add]
    rfl
  · simp only [ofJson_i32_int_iff, exists_and_left]
    exact and_iff_left ⟨_, .ofInt n, rfl, int32_eq_ofInt_iff.1 rfl⟩
  · obtain ⟨-, w, rfl, hw⟩ := (ofJson_i32_int_iff fits).1 h
    obtain rfl := int32_eq_ofInt_iff.2 hw
    exact ⟨_, rfl, fun _ => int32_eq_ofInt_iff⟩
  · exact ⟨.ofInt n, (ofJson_i64_int_iff fits).2 ⟨_, rfl, int64_eq_ofInt_iff.1 rfl⟩,
      fun u => int64_eq_ofInt_iff⟩
  · simp only [ne_eq, ofJson_ok_iff]
    exact ⟨nofun, fun items => nofun, fun fields => nofun⟩
  · cases ofJson_ok_iff.1 h <;> simp

example : ofArguments [.i32, .i64, .i64] [.ofInt 0xffffffff, .ofInt 0xffffffffffffffff,
    .string "+07"] = .ok [.i32 (-1), .i64 (-1), .i64 7] := rfl

end Value

end EngineHost
