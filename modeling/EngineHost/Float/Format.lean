/-!
# Binary floating-point formats

A floating-point number is its bit pattern; this file gives the patterns their meaning and rounds
exact ratios into them.

* `Format` is a binary interchange format, given by its precision and its exponent width;
  `Format.binary32` and `Format.binary64` are the two in use.
* `Format.decode` reads a pattern as a `Datum`: not a number, an infinity, or the exact value
  `significand * 2 ^ exponent` with a sign.
* `Format.ofRatio` rounds a ratio of natural numbers to the nearest pattern, ties to the even one;
  every conversion and every operation of the formats is an exact computation followed by it.
-/

namespace EngineHost

/-- What a bit pattern stands for. -/
inductive Datum where
  | notANumber
  | infinite (negative : Bool)
  /-- The value `significand * 2 ^ exponent`, negated when `negative` is set. -/
  | finite (negative : Bool) (significand : Nat) (exponent : Int)
  deriving DecidableEq, Repr

/-- A binary interchange format. -/
structure Format where
  /-- Bits of the significand, the leading one included. -/
  precision : Nat
  /-- Bits of the biased exponent. -/
  exponentWidth : Nat

namespace Format

/-- Single precision. -/
def binary32 : Format := ⟨24, 8⟩

/-- Double precision. -/
def binary64 : Format := ⟨53, 11⟩

variable (f : Format)

/-- The number of significands of one binade, `2 ^ (precision - 1)`. -/
def binade : Nat := Nat.pow 2 (f.precision - 1)

/-- The biased exponent of infinities and of patterns that are not numbers. -/
def topExponent : Nat := Nat.pow 2 f.exponentWidth - 1

/-- The magnitude bits of infinity. -/
def infinityBits : Nat := f.topExponent * f.binade

/-- The weight of the sign bit. -/
def signWeight : Nat := Nat.pow 2 (f.precision - 1 + f.exponentWidth)

/-- The exponent of the last place of the smallest numbers. -/
def lowestExponent : Int := 3 - (Nat.pow 2 (f.exponentWidth - 1) : Int) - f.precision

/-- The meaning of a pattern. -/
def decode (bits : Nat) : Datum :=
  let negative := f.signWeight ≤ bits
  let magnitude := bits % f.signWeight
  let biased := magnitude / f.binade
  let fraction := magnitude % f.binade
  if biased = f.topExponent then
    if fraction = 0 then .infinite negative else .notANumber
  else if biased = 0 then .finite negative fraction f.lowestExponent
  else .finite negative (f.binade + fraction) (f.lowestExponent + (biased - 1 : Int))

/-- The pattern with the given sign and magnitude bits. -/
def withSign (negative : Bool) (magnitude : Nat) : Nat :=
  if negative then f.signWeight + magnitude else magnitude

/-- The quotient rounded to the nearest natural number, ties to the even one. -/
def roundQuotient (num den : Nat) : Nat :=
  let q := num / den
  let twice := 2 * (num % den)
  if twice < den then q
  else if den < twice then q + 1
  else if q % 2 = 0 then q else q + 1

/-- `num / den` in units of `2 ^ exponent`, as a fraction. -/
def inUnits (num den : Nat) (exponent : Int) : Nat × Nat :=
  if exponent < 0 then (num * Nat.pow 2 (-exponent).toNat, den)
  else (num, den * Nat.pow 2 exponent.toNat)

/-- The pattern nearest to `num / den`, with the sign asked for; what is too large becomes
infinity. -/
def ofRatio (negative : Bool) (num den : Nat) : Nat :=
  if num = 0 then f.withSign negative 0
  else
    let guess : Int := (num.log2 : Int) - den.log2 - f.precision
    let scaled := inUnits num den guess
    let tight := if scaled.1 < scaled.2 * (2 * f.binade) then guess else guess + 1
    let exponent := max tight f.lowestExponent
    let scaled := inUnits num den exponent
    let significand := roundQuotient scaled.1 scaled.2
    let magnitude := (exponent - f.lowestExponent).toNat * f.binade + significand
    f.withSign negative (min magnitude f.infinityBits)

/-- The pattern nearest to `significand * 2 ^ exponent`. -/
def ofScaled (negative : Bool) (significand : Nat) (exponent : Int) : Nat :=
  if exponent < 0 then f.ofRatio negative significand (Nat.pow 2 (-exponent).toNat)
  else f.ofRatio negative (significand * Nat.pow 2 exponent.toNat) 1

/-- A pattern that is not a number. -/
def quietNaN : Nat := f.infinityBits + f.binade / 2

/-- The pattern of this format nearest to a datum. -/
def ofDatum : Datum → Nat
  | .notANumber => f.quietNaN
  | .infinite negative => f.withSign negative f.infinityBits
  | .finite negative significand exponent => f.ofScaled negative significand exponent

end Format

namespace Datum

/-- Neither an infinity nor a pattern that is not a number. -/
def isFinite : Datum → Bool
  | .finite .. => true
  | _ => false

/-- The sign of a product or quotient. -/
def xorSign (a b : Bool) : Bool := a != b

end Datum

/-- A double-precision number. -/
structure Binary64 where
  bits : UInt64
  deriving DecidableEq, Repr

/-- A single-precision number. -/
structure Binary32 where
  bits : UInt32
  deriving DecidableEq, Repr

namespace Binary64

/-- The meaning of the pattern. -/
def datum (x : Binary64) : Datum := Format.binary64.decode x.bits.toNat

/-- The number nearest to a datum. -/
def ofDatum (d : Datum) : Binary64 := ⟨UInt64.ofNat (Format.binary64.ofDatum d)⟩

/-- The number nearest to a ratio. -/
def ofRatio (negative : Bool) (num den : Nat) : Binary64 :=
  ⟨UInt64.ofNat (Format.binary64.ofRatio negative num den)⟩

/-- The number nearest to an integer. -/
def ofInt (n : Int) : Binary64 := ofRatio (n < 0) n.natAbs 1

/-- Neither an infinity nor not a number. -/
def isFinite (x : Binary64) : Bool := x.datum.isFinite

/-- The quotient. -/
def div (x y : Binary64) : Binary64 :=
  match x.datum, y.datum with
  | .notANumber, _ | _, .notANumber => ofDatum .notANumber
  | .infinite _, .infinite _ => ofDatum .notANumber
  | .infinite a, .finite b _ _ => ofDatum (.infinite (Datum.xorSign a b))
  | .finite a _ _, .infinite b => ofRatio (Datum.xorSign a b) 0 1
  | .finite a m e, .finite b n k =>
    if n = 0 then
      if m = 0 then ofDatum .notANumber else ofDatum (.infinite (Datum.xorSign a b))
    else
      let scaled := Format.inUnits m n (k - e)
      ofRatio (Datum.xorSign a b) scaled.1 scaled.2

/-- The product. -/
def mul (x y : Binary64) : Binary64 :=
  match x.datum, y.datum with
  | .notANumber, _ | _, .notANumber => ofDatum .notANumber
  | .infinite a, .infinite b => ofDatum (.infinite (Datum.xorSign a b))
  | .infinite a, .finite b m _ | .finite b m _, .infinite a =>
    if m = 0 then ofDatum .notANumber else ofDatum (.infinite (Datum.xorSign a b))
  | .finite a m e, .finite b n k => ofDatum (.finite (Datum.xorSign a b) (m * n) (e + k))

end Binary64

namespace Binary32

/-- The meaning of the pattern. -/
def datum (x : Binary32) : Datum := Format.binary32.decode x.bits.toNat

/-- The single-precision number nearest to a double-precision one. -/
def narrow (x : Binary64) : Binary32 := ⟨UInt32.ofNat (Format.binary32.ofDatum x.datum)⟩

/-- The same number in double precision. -/
def widen (x : Binary32) : Binary64 := Binary64.ofDatum x.datum

end Binary32

end EngineHost
