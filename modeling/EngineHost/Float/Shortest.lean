import EngineHost.Float.Format

/-!
# The shortest decimal that reads back

`Decimal.shortest` gives the decimal digits of a finite number: of the decimals that round to it,
those with the fewest digits, and of these the nearest.  The candidates with `n` digits are the
two neighbours of the number on the decimal grid of its own order of magnitude, since a grid that
has a point in the interval of reals that round to the number has one of its neighbours there.
`DecimalNotation` says when digits are written positionally and when with an exponent.
-/

namespace EngineHost

/-- A decimal: its digits as a natural number, and the exponent of the first digit. -/
structure Decimal where
  digits : Nat
  exponent : Int
  deriving DecidableEq, Repr

namespace Decimal

/-- The number of decimal digits. -/
def width (n : Nat) : Nat := (Nat.toDigits 10 n).length

/-- The exponent of the first digit of `num / den`. -/
def leadingExponent (num den : Nat) : Int :=
  if den ≤ num then (width (num / den) : Int) - 1
  else
    let w := width (den / num)
    if den ≤ num * Nat.pow 10 (w - 1) then -((w - 1 : Nat) : Int) else -(w : Int)

end Decimal

/-- The reals that round to a number, as `lower / den` and `upper / den` about `mid / den`; the
ends belong to it when `closed` is set. -/
structure RoundingInterval where
  lower : Nat
  mid : Nat
  upper : Nat
  den : Nat
  closed : Bool

namespace RoundingInterval

/-- The interval of the number `significand * 2 ^ exponent` of a format. -/
def ofScaled (f : Format) (significand : Nat) (exponent : Int) : RoundingInterval :=
  let below := if significand = f.binade ∧ f.lowestExponent < exponent then 1 else 2
  let unit := if exponent - 2 < 0 then 1 else Nat.pow 2 (exponent - 2).toNat
  let den := if exponent - 2 < 0 then Nat.pow 2 (2 - exponent).toNat else 1
  { lower := (4 * significand - below) * unit
    mid := 4 * significand * unit
    upper := (4 * significand + 2) * unit
    den := den
    closed := significand % 2 = 0 }

/-- Whether `num / den` lies in the interval. -/
def contains (i : RoundingInterval) (num den : Nat) : Bool :=
  let x := num * i.den
  let lower := i.lower * den
  let upper := i.upper * den
  if i.closed then lower ≤ x && x ≤ upper else lower < x && x < upper

/-- The decimal `digits * 10 ^ place` as a fraction. -/
def gridPoint (digits : Nat) (place : Int) : Nat × Nat :=
  if place < 0 then (digits, Nat.pow 10 (-place).toNat)
  else (digits * Nat.pow 10 place.toNat, 1)

/-- The candidate of the interval on the grid of step `10 ^ place`, if there is one. -/
def candidate? (i : RoundingInterval) (place : Int) : Option Nat :=
  let unit := gridPoint 1 place
  let under := (i.mid * unit.2) / (i.den * unit.1)
  let inside (digits : Nat) : Bool :=
    let p := gridPoint digits place
    i.contains p.1 p.2
  let rest := (i.mid * unit.2) % (i.den * unit.1)
  let nearer := 2 * rest < i.den * unit.1 ∨ (2 * rest = i.den * unit.1 ∧ under % 2 = 0)
  match inside under, inside (under + 1) with
  | true, true => some (if nearer then under else under + 1)
  | true, false => some under
  | false, true => some (under + 1)
  | false, false => none

/-- The first candidate over the grids with at least `n` digits, of `more` grids at most. -/
def search (i : RoundingInterval) (leading : Int) : (n more : Nat) → Option (Nat × Int)
  | _, 0 => none
  | n, more + 1 =>
    let place := leading - n
    match i.candidate? place with
    | some digits => some (digits, place)
    | none => i.search leading (n + 1) more

end RoundingInterval

/-- Digits without trailing zeros, and the power of ten taken out of them. -/
def Decimal.strip : (fuel digits : Nat) → Nat × Nat
  | 0, digits => (digits, 0)
  | fuel + 1, digits =>
    if digits ≠ 0 ∧ digits % 10 = 0 then
      let (d, k) := Decimal.strip fuel (digits / 10)
      (d, k + 1)
    else (digits, 0)

/-- The shortest decimal that rounds to the positive number `significand * 2 ^ exponent`; of two
shortest ones, the nearer. -/
def Decimal.shortest (f : Format) (significand : Nat) (exponent : Int) : Decimal :=
  let i := RoundingInterval.ofScaled f significand exponent
  let leading := Decimal.leadingExponent i.mid i.den
  match i.search leading 0 (f.precision + 1) with
  | none => ⟨0, 0⟩
  | some (digits, place) =>
    let (digits, zeros) := Decimal.strip (Decimal.width digits) digits
    ⟨digits, place + zeros + (Decimal.width digits - 1 : Nat)⟩

/-- How a decimal is written. -/
structure DecimalNotation where
  /-- The least exponent of the first digit that is written positionally. -/
  positionalFrom : Int
  /-- The greatest exponent of the first digit that is written positionally. -/
  positionalTo : Int

namespace DecimalNotation

/-- The text of a decimal. -/
def text (n : DecimalNotation) (d : Decimal) : String :=
  let digits := Nat.toDigits 10 d.digits
  let zeros (k : Nat) : List Char := List.replicate k '0'
  let chars :=
    if n.positionalFrom ≤ d.exponent ∧ d.exponent ≤ n.positionalTo then
      if d.exponent < 0 then
        '0' :: '.' :: zeros (-d.exponent - 1).toNat ++ digits
      else
        let whole := d.exponent.toNat + 1
        if digits.length ≤ whole then digits ++ zeros (whole - digits.length) ++ ['.', '0']
        else digits.take whole ++ '.' :: digits.drop whole
    else
      let mantissa := if digits.length = 1 then digits else digits.take 1 ++ '.' :: digits.drop 1
      let sign := if d.exponent < 0 then '-' else '+'
      mantissa ++ 'e' :: sign :: Nat.toDigits 10 d.exponent.natAbs
  String.ofList chars

end DecimalNotation

end EngineHost
