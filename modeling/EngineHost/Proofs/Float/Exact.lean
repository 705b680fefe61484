import EngineHost.Float.Format
import Mathlib.Algebra.Order.Field.Power
import Mathlib.Algebra.Order.Field.Rat
import Mathlib.Tactic.Ring

/-!
# Exact conversions

Rounding leaves alone what needs no rounding.

* `Format.Holds` : the numbers that a format has, each in the one form in which a pattern spells it;
  `Format.decode_encode` and `Format.encode_of_decode` go from the form to the pattern and back.
* `Format.ofRatio_of_holds` : a ratio that the format has is converted to its own pattern.
* `Format.Holds.widened` : double precision has all numbers of single precision.
* `Binary32.narrow_widen` : so a finite number survives being widened and narrowed.
-/

namespace EngineHost

namespace Format

/-- The format has the finite number `s * 2 ^ e` in this form: the significand is no longer than
there is room for, and a shorter one has the least exponent. -/
structure Holds (f : Format) (s : Nat) (e : Int) : Prop where
  short : s < 2 * f.binade
  low : f.lowestExponent ≤ e
  normal : s < f.binade → e = f.lowestExponent
  /-- The number comes before infinity. -/
  high : (e - f.lowestExponent).toNat * f.binade + s < f.infinityBits

/-- The pattern of a number that the format has. -/
def encode (f : Format) (negative : Bool) (s : Nat) (e : Int) : Nat :=
  f.withSign negative ((e - f.lowestExponent).toNat * f.binade + s)

variable {f : Format} {negative : Bool} {s s' m q r num den bits : Nat} {e k x : Int}

theorem binade_pos (f : Format) : 0 < f.binade := Nat.pow_pos Nat.two_pos

theorem signWeight_eq (f : Format) : f.signWeight = (f.topExponent + 1) * f.binade := by
  have htop : f.topExponent + 1 = 2 ^ f.exponentWidth := Nat.sub_add_cancel Nat.one_le_two_pow
  rw [htop, Nat.mul_comm]
  exact Nat.pow_add 2 _ _

/-! ### Patterns -/

theorem infinityBits_lt (f : Format) : f.infinityBits < f.signWeight := by
  rw [signWeight_eq]
  exact Nat.mul_lt_mul_of_pos_right (Nat.lt_succ_self _) f.binade_pos

theorem fields_lt (hq : q ≤ f.topExponent) (hr : r < f.binade) :
    q * f.binade + r < f.signWeight := by
  rw [signWeight_eq]
  calc q * f.binade + r < (q + 1) * f.binade := by rw [Nat.succ_mul]; exact Nat.add_lt_add_left hr _
    _ ≤ (f.topExponent + 1) * f.binade := Nat.mul_le_mul_right _ (Nat.succ_le_succ hq)

/-- A pattern is a sign, a biased exponent and a fraction. -/
theorem exists_fields (hbits : bits < 2 * f.signWeight) :
    ∃ negative q r, q ≤ f.topExponent ∧ r < f.binade ∧
      bits = f.withSign negative (q * f.binade + r) := by
  obtain ⟨negative, m, hm, rfl⟩ :
      ∃ negative m, m < f.signWeight ∧ bits = f.withSign negative m := by
    by_cases h : bits < f.signWeight
    · exact ⟨false, bits, h, rfl⟩
    · exact ⟨true, bits - f.signWeight, by omega, (Nat.add_sub_of_le (Nat.not_lt.1 h)).symm⟩
  rw [signWeight_eq, Nat.mul_comm] at hm
  exact ⟨negative, m / f.binade, m % f.binade, Nat.lt_succ_iff.1 (Nat.div_lt_of_lt_mul hm),
    Nat.mod_lt m f.binade_pos, congrArg _ (Nat.div_add_mod' m f.binade).symm⟩

/-- The parts of a pattern are read apart. -/
theorem decode_fields (hq : q ≤ f.topExponent) (hr : r < f.binade) (negative : Bool) :
    f.decode (f.withSign negative (q * f.binade + r)) =
      if q = f.topExponent then if r = 0 then .infinite negative else .notANumber
      else if q = 0 then .finite negative r f.lowestExponent
      else .finite negative (f.binade + r) (f.lowestExponent + (q - 1 : Int)) := by
  have hm := fields_lt hq hr
  have hmod : f.withSign negative (q * f.binade + r) % f.signWeight = q * f.binade + r := by
    cases negative with
    | false => exact Nat.mod_eq_of_lt hm
    | true => exact (Nat.add_mod_left _ _).trans (Nat.mod_eq_of_lt hm)
  have hsign : f.signWeight ≤ f.withSign negative (q * f.binade + r) ↔ negative = true := by
    cases negative with
    | false => exact iff_of_false (Nat.not_le.2 hm) nofun
    | true => exact iff_of_true (Nat.le_add_right _ _) rfl
  have hbiased : (q * f.binade + r) / f.binade = q := by
    rw [Nat.add_comm, Nat.add_mul_div_right r q f.binade_pos, Nat.div_eq_of_lt hr, Nat.zero_add]
  have hfraction : (q * f.binade + r) % f.binade = r := by
    rw [Nat.add_comm, Nat.add_mul_mod_self_right, Nat.mod_eq_of_lt hr]
  simp only [decode, hmod, hsign, hbiased, hfraction, Bool.decide_eq_true]

theorem encode_lt (h : f.Holds s e) (negative : Bool) :
    f.encode negative s e < 2 * f.signWeight := by
  have hm := h.high.trans f.infinityBits_lt
  unfold encode withSign
  split_ifs <;> omega

/-- The pattern of a number is read as that number. -/
theorem decode_encode (h : f.Holds s e) (negative : Bool) :
    f.decode (f.encode negative s e) = .finite negative s e := by
  have hlow := h.low
  have hhigh := h.high
  by_cases hs : s < f.binade
  · -- the numbers below the normal ones share the least exponent
    obtain rfl := h.normal hs
    rw [Int.sub_self, Int.toNat_zero, Nat.zero_mul, Nat.zero_add] at hhigh
    have htop : 0 < f.topExponent := Nat.pos_of_mul_pos_right (Nat.zero_lt_of_lt hhigh)
    rw [encode, Int.sub_self, Int.toNat_zero, decode_fields (Nat.zero_le _) hs,
      if_neg (Nat.ne_of_lt htop), if_pos rfl]
  · obtain ⟨r, rfl⟩ := Nat.exists_eq_add_of_le (Nat.not_lt.1 hs)
    have hr : r < f.binade := by have := h.short; omega
    rw [← Nat.add_assoc, ← Nat.succ_mul] at hhigh
    have htop : (e - f.lowestExponent).toNat + 1 < f.topExponent :=
      Nat.lt_of_mul_lt_mul_right (Nat.lt_of_le_of_lt (Nat.le_add_right _ r) hhigh)
    rw [encode, ← Nat.add_assoc, ← Nat.succ_mul, decode_fields (Nat.le_of_lt htop) hr,
      if_neg (Nat.ne_of_lt htop), if_neg (Nat.succ_ne_zero _)]
    congr 1
    omega

/-- A pattern that is read as a number is the pattern of that number. -/
theorem encode_of_decode (hbits : bits < 2 * f.signWeight)
    (h : f.decode bits = .finite negative s e) :
    f.Holds s e ∧ f.encode negative s e = bits := by
  obtain ⟨sign, q, r, hq, hr, rfl⟩ := exists_fields hbits
  rw [decode_fields hq hr] at h
  split_ifs at h with htop hnan hzero
  · -- below the normal numbers
    cases h
    subst hzero
    have hsum : (f.lowestExponent - f.lowestExponent).toNat = 0 := by omega
    have hpos : 0 < f.topExponent := by omega
    refine ⟨⟨by omega, Int.le_refl _, fun _ => rfl, ?_⟩, by rw [encode, hsum]⟩
    rw [hsum, Nat.zero_mul, Nat.zero_add]
    exact Nat.lt_of_lt_of_le hr (Nat.le_mul_of_pos_left _ hpos)
  · cases h
    obtain ⟨k, rfl⟩ := Nat.exists_eq_succ_of_ne_zero hzero
    have hk : (f.lowestExponent + ((k.succ : Nat) - 1 : Int) - f.lowestExponent).toNat = k := by
      omega
    have hsum : k * f.binade + (f.binade + r) = k.succ * f.binade + r := by
      rw [← Nat.add_assoc, ← Nat.succ_mul]
    refine ⟨⟨by omega, by omega, fun hs => absurd hs (by omega), ?_⟩, ?_⟩
    · rw [hk, hsum]
      calc k.succ * f.binade + r < (k.succ + 1) * f.binade := by
            rw [Nat.succ_mul (k.succ)]; exact Nat.add_lt_add_left hr _
        _ ≤ f.topExponent * f.binade :=
            Nat.mul_le_mul_right _ (Nat.lt_of_le_of_ne hq htop)
    · rw [encode, hk, hsum]

/-! ### Rounding -/

theorem inUnits_eq (num den : Nat) (x : Int) :
    inUnits num den x = (num * 2 ^ (-x).toNat, den * 2 ^ x.toNat) := by
  unfold inUnits
  split_ifs with hx
  · rw [Int.toNat_eq_zero.2 (Int.le_of_lt hx), Nat.pow_zero, Nat.mul_one]
    rfl
  · rw [Int.toNat_eq_zero.2 (by omega : -x ≤ 0), Nat.pow_zero, Nat.mul_one]
    rfl

/-- A power of two, by its positive and its negative part. -/
theorem two_zpow_mul_toNat (x : Int) : (2 : ℚ) ^ x * 2 ^ (-x).toNat = 2 ^ x.toNat := by
  rw [← zpow_natCast, ← zpow_natCast, ← zpow_add₀ two_ne_zero]
  congr 1
  omega

/-- In other units the ratio is divided by the unit. -/
theorem inUnits_ratio {v : ℚ} (hv : (num : ℚ) = v * den) (x : Int) :
    ((inUnits num den x).1 : ℚ) * 2 ^ x = v * (inUnits num den x).2 := by
  rw [inUnits_eq]
  push_cast
  rw [hv, ← two_zpow_mul_toNat x]
  ring

theorem inUnits_pos (hden : 0 < den) (x : Int) : 0 < (inUnits num den x).2 := by
  rw [inUnits_eq]
  exact Nat.mul_pos hden (Nat.pow_pos Nat.two_pos)

theorem roundQuotient_mul (s : Nat) (hden : 0 < den) : roundQuotient (s * den) den = s := by
  unfold roundQuotient
  rw [Nat.mul_mod_left, Nat.mul_div_cancel s hden, Nat.mul_zero, if_pos hden]

theorem binade_eq (hf : 0 < f.precision) : (f.binade : ℚ) = 2 ^ ((f.precision : Int) - 1) := by
  rw [binade, Nat.pow_eq, Nat.cast_pow, ← zpow_natCast, Nat.cast_ofNat]
  congr 1
  omega

/-- The first number that is too long for the unit `2 ^ x`. -/
theorem two_mul_binade_mul_zpow (hf : 0 < f.precision) (x : Int) :
    2 * (f.binade : ℚ) * 2 ^ x = 2 ^ (f.precision + x) := by
  rw [binade_eq hf, ← zpow_one_add₀ two_ne_zero, ← zpow_add₀ two_ne_zero]
  congr 1
  omega

/-- A ratio has few enough units just when it lies below the numbers that need a larger unit. -/
theorem inUnits_short_iff {v : ℚ} (hf : 0 < f.precision) (hv : (num : ℚ) = v * den) (hden : 0 < den)
    (x : Int) :
    (inUnits num den x).1 < (inUnits num den x).2 * (2 * f.binade) ↔ v < 2 ^ (f.precision + x) := by
  have hpos : (0 : ℚ) < (inUnits num den x).2 := by exact_mod_cast inUnits_pos hden x
  have hunit : (0 : ℚ) < 2 ^ x := by positivity
  rw [← two_mul_binade_mul_zpow hf, ← mul_lt_mul_iff_of_pos_right hpos, ← inUnits_ratio hv,
    ← Nat.cast_lt (α := ℚ), mul_right_comm, mul_lt_mul_iff_of_pos_right hunit, Nat.cast_mul,
    Nat.cast_mul, Nat.cast_ofNat, mul_comm (2 * _)]

/-- The quotient of two numbers lies within a factor of two of that of their leading bits. -/
theorem ratio_between {v : ℚ} (hv : (num : ℚ) = v * den) (hnum : num ≠ 0) (hden : den ≠ 0) :
    (2 : ℚ) ^ ((num.log2 : Int) - den.log2 - 1) < v ∧
      v < 2 ^ ((num.log2 : Int) - den.log2 + 1) := by
  have hpos : (0 : ℚ) < den := by exact_mod_cast Nat.pos_of_ne_zero hden
  have hnumlow : (2 : ℚ) ^ (num.log2 : Int) ≤ num := by exact_mod_cast Nat.log2_self_le hnum
  have hdenlow : (2 : ℚ) ^ (den.log2 : Int) ≤ den := by exact_mod_cast Nat.log2_self_le hden
  have hnumhigh : (num : ℚ) < 2 ^ ((num.log2 : Int) + 1) := by exact_mod_cast Nat.lt_log2_self
  have hdenhigh : (den : ℚ) < 2 ^ ((den.log2 : Int) + 1) := by exact_mod_cast Nat.lt_log2_self
  constructor
  · refine lt_of_mul_lt_mul_right ?_ hpos.le
    calc (2 : ℚ) ^ ((num.log2 : Int) - den.log2 - 1) * den
        < 2 ^ ((num.log2 : Int) - den.log2 - 1) * 2 ^ ((den.log2 : Int) + 1) :=
          mul_lt_mul_of_pos_left hdenhigh (by positivity)
      _ = 2 ^ (num.log2 : Int) := by rw [← zpow_add₀ two_ne_zero]; congr 1; omega
      _ ≤ v * den := hv ▸ hnumlow
  · refine lt_of_mul_lt_mul_right ?_ hpos.le
    calc v * den < 2 ^ ((num.log2 : Int) + 1) := hv ▸ hnumhigh
      _ = 2 ^ ((num.log2 : Int) - den.log2 + 1) * 2 ^ (den.log2 : Int) := by
          rw [← zpow_add₀ two_ne_zero]; congr 1; omega
      _ ≤ 2 ^ ((num.log2 : Int) - den.log2 + 1) * den :=
          mul_le_mul_of_nonneg_left hdenlow (by positivity)

/-- A number that the format has lies below the binades of greater exponents. -/
theorem Holds.lt_zpow (hf : 0 < f.precision) (h : f.Holds s e) :
    (s : ℚ) * 2 ^ e < 2 ^ (f.precision + e) := by
  have hs : (s : ℚ) < 2 * f.binade := by exact_mod_cast h.short
  rw [← two_mul_binade_mul_zpow hf]
  exact mul_lt_mul_of_pos_right hs (by positivity)

/-- It is in the binade of its exponent, unless it has the least one. -/
theorem Holds.zpow_le (hf : 0 < f.precision) (h : f.Holds s e) :
    e = f.lowestExponent ∨ (2 : ℚ) ^ (f.precision - 1 + e) ≤ s * 2 ^ e := by
  refine (Nat.lt_or_ge s f.binade).imp h.normal fun hs => ?_
  rw [zpow_add₀ two_ne_zero, ← binade_eq hf]
  exact mul_le_mul_of_nonneg_right (by exact_mod_cast hs) (by positivity)

/-- Rounding finds the exponent of a number that the format has: the guess is this exponent or one
less, and below the normal numbers it is no greater. -/
theorem exponent_of_holds (hf : 0 < f.precision) (h : f.Holds s e) (hden : 0 < den) (hnum : num ≠ 0)
    (hv : (num : ℚ) = s * 2 ^ e * den) :
    let guess : Int := (num.log2 : Int) - den.log2 - f.precision
    max (if (inUnits num den guess).1 < (inUnits num den guess).2 * (2 * f.binade) then guess
      else guess + 1) f.lowestExponent = e := by
  intro guess
  have hguess : guess = (num.log2 : Int) - den.log2 - f.precision := rfl
  have hlow := h.low
  have hlt : ∀ {x y : Int}, (2 : ℚ) ^ x < 2 ^ y → x < y := (zpow_lt_zpow_iff_right₀ one_lt_two).1
  obtain ⟨hbelow, habove⟩ := ratio_between hv hnum (Nat.ne_of_gt hden)
  have hshort := h.lt_zpow hf
  have hnormal := h.zpow_le hf
  have hguess_le := hlt (hbelow.trans hshort)
  split_ifs with htight
  · rw [inUnits_short_iff hf hv hden] at htight
    rcases hnormal with rfl | hnormal
    · omega
    · have := hlt (hnormal.trans_lt htight)
      omega
  · rw [inUnits_short_iff hf hv hden, not_lt] at htight
    have hguess_lt := hlt (htight.trans_lt hshort)
    rcases hnormal with rfl | hnormal
    · omega
    · have := hlt (hnormal.trans_lt habove)
      omega

/-- **A ratio that the format has as a number is not rounded.** -/
theorem ofRatio_of_holds (hf : 0 < f.precision) (h : f.Holds s e) (hden : 0 < den)
    (hv : (num : ℚ) = s * 2 ^ e * den) (negative : Bool) :
    f.ofRatio negative num den = f.encode negative s e := by
  have hunit : (0 : ℚ) < 2 ^ e := by positivity
  by_cases hnum : num = 0
  · have hs : s = 0 := by
      have hpos : (den : ℚ) ≠ 0 := by exact_mod_cast Nat.ne_of_gt hden
      rw [hnum, Nat.cast_zero, eq_comm, mul_eq_zero, mul_eq_zero, Nat.cast_eq_zero] at hv
      exact (hv.resolve_right hpos).resolve_right hunit.ne'
    subst hs
    rw [ofRatio, if_pos hnum, encode, h.normal f.binade_pos, Int.sub_self, Int.toNat_zero,
      Nat.zero_mul]
  · have hexact : (inUnits num den e).1 = s * (inUnits num den e).2 := by
      have hratio := inUnits_ratio hv e
      rw [mul_right_comm, mul_left_inj' hunit.ne'] at hratio
      exact_mod_cast hratio
    simp only [ofRatio, if_neg hnum, exponent_of_holds hf h hden hnum hv, hexact,
      roundQuotient_mul s (inUnits_pos hden e), Nat.min_eq_left h.high.le, encode]

/-- A number that the format has is not rounded, in whatever form it is given. -/
theorem ofScaled_of_holds (hf : 0 < f.precision) (h : f.Holds s e)
    (hv : (m : ℚ) * 2 ^ k = s * 2 ^ e) (negative : Bool) :
    f.ofScaled negative m k = f.encode negative s e := by
  unfold ofScaled
  split_ifs with hk
  · refine ofRatio_of_holds hf h (Nat.pow_pos Nat.two_pos) ?_ negative
    have hpower : (2 : ℚ) ^ k * (2 ^ (-k).toNat : Nat) = 1 := by
      rw [Nat.cast_pow, Nat.cast_ofNat, two_zpow_mul_toNat, Int.toNat_eq_zero.2 hk.le, pow_zero]
    rw [← hv, mul_assoc, hpower, mul_one]
  · refine ofRatio_of_holds hf h Nat.one_pos ?_ negative
    rw [← hv, Nat.cast_one, mul_one, Nat.cast_mul, Nat.pow_eq, Nat.cast_pow, Nat.cast_ofNat,
      ← two_zpow_mul_toNat k, Int.toNat_eq_zero.2 (by omega : -k ≤ 0), pow_zero, mul_one]

/-! ### Widening -/

theorem lowestExponent_binary32 : binary32.lowestExponent = -149 := rfl

theorem lowestExponent_binary64 : binary64.lowestExponent = -1074 := rfl

theorem binade_binary32 : binary32.binade = 2 ^ 23 := rfl

theorem binade_binary64 : binary64.binade = 2 ^ 52 := rfl

theorem infinityBits_binary32 : binary32.infinityBits = 255 * 2 ^ 23 := rfl

/-- Double precision has every number of single precision. -/
theorem Holds.widened (h : binary32.Holds s e) :
    ∃ s' e', binary64.Holds s' e' ∧ (s' : ℚ) * 2 ^ e' = s * 2 ^ e := by
  have hshort := h.short
  have hlow := h.low
  have hhigh := h.high
  rw [binade_binary32] at hshort
  rw [lowestExponent_binary32] at hlow
  rw [lowestExponent_binary32, binade_binary32, infinityBits_binary32] at hhigh
  by_cases hs : s = 0
  · subst hs
    refine ⟨0, -1074, ⟨by decide, by decide, fun _ => rfl, by decide⟩, ?_⟩
    rw [Nat.cast_zero, zero_mul, zero_mul]
  · -- the significand is moved up until it fills its binade
    have hlog : s.log2 < 24 := (Nat.log2_lt hs).2 (by omega)
    obtain ⟨k, hk⟩ : ∃ k, s.log2 + k = 52 := ⟨52 - s.log2, by omega⟩
    have hbelow : binary64.binade ≤ s * 2 ^ k := by
      rw [binade_binary64, ← hk, Nat.pow_add]
      exact Nat.mul_le_mul_right _ (Nat.log2_self_le hs)
    have habove : s * 2 ^ k < 2 * binary64.binade := by
      rw [binade_binary64, ← Nat.pow_succ', ← hk, Nat.succ_eq_add_one, Nat.add_right_comm,
        Nat.pow_add]
      exact Nat.mul_lt_mul_of_pos_right Nat.lt_log2_self (Nat.pow_pos Nat.two_pos)
    refine ⟨s * 2 ^ k, e - k, ⟨habove, ?_, fun hlt => absurd hlt (Nat.not_lt.2 hbelow), ?_⟩, ?_⟩
    · rw [lowestExponent_binary64]
      omega
    · have hexponent : (e - k - binary64.lowestExponent).toNat ≤ 1179 := by
        rw [lowestExponent_binary64]
        omega
      calc (e - k - binary64.lowestExponent).toNat * binary64.binade + s * 2 ^ k
          < 1179 * binary64.binade + 2 * binary64.binade :=
            Nat.add_lt_add_of_le_of_lt (Nat.mul_le_mul_right _ hexponent) habove
        _ ≤ binary64.infinityBits := by decide
    · rw [Nat.cast_mul, Nat.cast_pow, Nat.cast_ofNat, mul_assoc, ← zpow_natCast,
        ← zpow_add₀ two_ne_zero]
      congr 2
      omega

end Format

namespace Binary32

variable {x : Binary32} {negative : Bool} {s : Nat} {e : Int}

theorem bits_lt (x : Binary32) : x.bits.toNat < 2 * Format.binary32.signWeight := x.bits.toNat_lt

/-- What a number stands for is kept when it is widened. -/
theorem datum_widen (hx : x.datum = .finite negative s e) :
    ∃ s' e', x.widen.datum = .finite negative s' e' ∧ (s' : ℚ) * 2 ^ e' = s * 2 ^ e := by
  obtain ⟨h, -⟩ := Format.encode_of_decode x.bits_lt hx
  obtain ⟨s', e', h', hv⟩ := h.widened
  refine ⟨s', e', ?_, hv⟩
  have hbits := Format.encode_lt h' negative
  rw [widen, hx, Binary64.ofDatum, Format.ofDatum, Format.ofScaled_of_holds (by decide) h' hv.symm,
    Binary64.datum, UInt64.toNat_ofNat_of_lt' hbits, Format.decode_encode h']

/-- **Widening and narrowing again** gives every finite number back. -/
theorem narrow_widen (hfinite : x.datum.isFinite = true) : narrow x.widen = x := by
  obtain ⟨negative, s, e, hx⟩ : ∃ negative s e, x.datum = .finite negative s e := by
    cases hx : x.datum with
    | finite negative s e => exact ⟨negative, s, e, rfl⟩
    | notANumber | infinite => rw [hx] at hfinite; cases hfinite
  obtain ⟨h, hbits⟩ := Format.encode_of_decode x.bits_lt hx
  obtain ⟨s', e', hwiden, hv⟩ := datum_widen hx
  rw [narrow, hwiden, Format.ofDatum, Format.ofScaled_of_holds (by decide) h hv, hbits,
    UInt32.ofNat_toNat]

/-- What is not a finite number is none in double precision either. -/
theorem isFinite_widen (x : Binary32) : x.widen.isFinite = x.datum.isFinite := by
  cases hx : x.datum with
  | finite negative s e =>
    obtain ⟨s', e', hwiden, -⟩ := datum_widen hx
    rw [Binary64.isFinite, hwiden]
    rfl
  | notANumber =>
    rw [widen, hx]
    decide
  | infinite negative =>
    rw [widen, hx]
    cases negative <;> decide

end Binary32

end EngineHost
