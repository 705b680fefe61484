import EngineHost.Proofs.Guest.Arguments

/-!
# Integers as numbers and as texts

An argument of 64 bits is given as a JSON number or as a text that writes an integer.  The two forms
do not reach equally far: a number may be unsigned, a text may not.

* `Json.Number.writes_render` : the text of an integer writes it.
* `Value.ofJson_text_of_signed`, `Value.ofJson_text_of_unsigned` : a text, told by the integer that
  it writes.
* `Value.forms_agree` : the two forms of an integer give the same word when it has a sign to spare,
  and else only the number gives one.
* `Value.highest_only_as_number` : so the highest integer can be given in one form only.
-/

namespace EngineHost

/-- The digits that a natural number is written with write it. -/
theorem digits_toDigits (m : Nat) : Digits (Nat.toDigits 10 m) m := by
  refine ⟨Nat.toDigits_ne_nil, fun c hc => isDigit_iff.1 ?_, ?_⟩
  · exact Nat.isDigit_of_mem_toDigits (by decide) (by decide) hc
  · calc m = Nat.ofDigitChars 10 (Nat.toDigits 10 m) 0 := Nat.ofDigitChars_ten_toDigits.symm
      _ = digitsToNat (Nat.toDigits 10 m) := by rw [Nat.ofDigitChars_eq_foldl, digitsToNat]
      _ = _ := digitsToNat_eq _

/-- **The text of an integer writes it.** -/
theorem Json.Number.writes_render {n : Int}
    (fits : -0x8000000000000000 ≤ n ∧ n < 0x10000000000000000) :
    Writes (Json.Number.int n fits).render.toList n := by
  rw [render, Int.toString_eq_repr, Int.repr_eq_if]
  split_ifs with hneg
  · obtain ⟨m, rfl⟩ := Int.eq_ofNat_of_zero_le hneg
    rw [Int.toNat_natCast, Nat.toList_repr]
    exact .unsigned (digits_toDigits m)
  · obtain ⟨m, rfl⟩ := Int.exists_eq_neg_ofNat (Int.le_of_lt (Int.not_le.1 hneg))
    rw [String.toList_append, Int.neg_neg, Int.toNat_natCast, Nat.toList_repr]
    exact .negative (digits_toDigits m)

namespace Value

variable {s : String} {n : Int} (fits : -0x8000000000000000 ≤ n ∧ n < 0x10000000000000000)

/-- A text that writes a signed integer of 64 bits is as good as the number. -/
theorem ofJson_text_of_signed (hs : Writes s.toList n) (hn : n ≤ 0x7fffffffffffffff) :
    ofJson .i64 (.string s) = ofJson .i64 (.number (.int n fits)) := by
  have hword : (Int64.ofInt n).toInt = n := Int64.toInt_ofInt_of_le (by omega) (by omega)
  rw [ofJson_string_iff.2 ⟨.ofInt n, rfl, by rwa [hword]⟩]
  rfl

/-- A text that writes a greater integer is refused. -/
theorem ofJson_text_of_unsigned (hs : Writes s.toList n) (hn : 0x7fffffffffffffff < n) :
    ofJson .i64 (.string s) = .error (.notDecimal s) := by
  have hread : readDecimal s = some n := readDecimal_eq_some_iff.2 hs
  have hlarge : isSigned64 n = false := by
    rw [Bool.eq_false_iff, Ne, isSigned64_iff]
    omega
  simp [ofJson, hread, hlarge]

/-- **The forms of an integer.**  As a number every integer from `-2 ^ 63` to `2 ^ 64 - 1` is an
argument of 64 bits, and gives the word whose integer differs from it by a multiple of `2 ^ 64`.
Its own text writes it, and a text that writes it is read as the same word as long as the integer is
below `2 ^ 63`; from there on no text is an argument. -/
theorem forms_agree :
    Writes (Json.Number.int n fits).render.toList n ∧
    (∃ w : Int64, ofJson .i64 (.number (.int n fits)) = .ok (.i64 w) ∧
      w.toInt ≡ n [ZMOD 0x10000000000000000]) ∧
    ∀ s : String, Writes s.toList n →
      (n ≤ 0x7fffffffffffffff →
        ofJson .i64 (.string s) = ofJson .i64 (.number (.int n fits))) ∧
      (0x7fffffffffffffff < n → ofJson .i64 (.string s) = .error (.notDecimal s)) := by
  refine ⟨Json.Number.writes_render fits, ?_, fun s hs => ?_⟩
  · exact ⟨.ofInt n, rfl, int64_eq_ofInt_iff.1 rfl⟩
  · exact ⟨ofJson_text_of_signed fits hs, ofJson_text_of_unsigned hs⟩

/-- The last integer of which a text is an argument, and the first of which none is. -/
theorem forms_agree_border :
    ((-0x8000000000000000 : Int) ≤ 0x7fffffffffffffff ∧
        (0x7fffffffffffffff : Int) < 0x10000000000000000 ∧
      ofJson .i64 (.string "9223372036854775807") = .ok (.i64 0x7fffffffffffffff)) ∧
    (-0x8000000000000000 : Int) ≤ 0x8000000000000000 ∧
        (0x8000000000000000 : Int) < 0x10000000000000000 ∧
      ofJson .i64 (.string "9223372036854775808") =
        .error (.notDecimal "9223372036854775808") := by
  have hlast := (forms_agree (n := 0x7fffffffffffffff) (by decide)).2.2 "9223372036854775807"
    (readDecimal_eq_some_iff.1 rfl)
  have hfirst := (forms_agree (n := 0x8000000000000000) (by decide)).2.2 "9223372036854775808"
    (readDecimal_eq_some_iff.1 rfl)
  exact ⟨⟨by decide, by decide, hlast.1 (by decide)⟩, by decide, by decide, hfirst.2 (by decide)⟩

/-- The highest integer is an argument as a number, and none as a text. -/
theorem highest_only_as_number :
    ofJson .i64 (.ofInt 0xffffffffffffffff) = .ok (.i64 (-1)) ∧
      ofJson .i64 (.string "18446744073709551615") =
        .error (.notDecimal "18446744073709551615") :=
  ⟨rfl, ofJson_text_of_unsigned (readDecimal_eq_some_iff.1 rfl) (by decide)⟩

end Value

end EngineHost
