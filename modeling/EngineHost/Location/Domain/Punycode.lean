/-!
# Labels in ASCII

A label with other characters is written with the letters, digits and hyphens of ASCII.  First come
its ASCII characters, then, after a hyphen, numbers.  The other characters are put in one at a time
in the order of their code points; each number counts the places and code points passed over since
the last one.  A number is written in digits of base 36, least first, where thresholds tell its
last digit; they adapt to the size of the numbers before.
-/

namespace EngineHost

namespace Domain

/-! ### Digits and thresholds -/

/-- The character of a digit. -/
def digitChar (d : Nat) : Char :=
  if d < 26 then Char.ofNat ('a'.toNat + d) else Char.ofNat ('0'.toNat + (d - 26))

/-- The digit of a character in lower case. -/
def charDigit? (c : Char) : Option Nat :=
  if 'a' ≤ c ∧ c ≤ 'z' then some (c.toNat - 'a'.toNat)
  else if '0' ≤ c ∧ c ≤ '9' then some (c.toNat - '0'.toNat + 26)
  else none

/-- The threshold of the digit at a position, counted in steps of 36. -/
def threshold (position bias : Nat) : Nat := min 26 (max 1 (position - bias))

theorem threshold_pos (position bias : Nat) : 1 ≤ threshold position bias := by
  unfold threshold; omega

/-- Brings a number into the range of one digit, counting the steps. -/
def scaleDown (steps n : Nat) : Nat × Nat :=
  if 455 < n then scaleDown (steps + 36) (n / 35) else (steps, n)
termination_by n
decreasing_by omega

/-- The bias after a number that put in the last of some characters. -/
def adaptBias (n count : Nat) (isFirst : Bool) : Nat :=
  let n := if isFirst then n / 700 else n / 2
  let (steps, n) := scaleDown 0 (n + n / count)
  steps + 36 * n / (n + 38)

/-- The bias before the first number. -/
def firstBias : Nat := 72

/-- The code point before which there is nothing to put in. -/
def firstCode : Nat := 128

/-! ### Writing -/

/-- The digits of a number from a position on. -/
def numberDigits (bias position n : Nat) : List Char :=
  let t := threshold position bias
  if n < t then [digitChar n]
  else
    digitChar (t + (n - t) % (36 - t)) :: numberDigits bias (position + 36) ((n - t) / (36 - t))
termination_by n
decreasing_by
  have positive := threshold_pos position bias
  have bounded := Nat.div_le_self (n - threshold position bias) (36 - threshold position bias)
  omega

/-- What is known while a label is written. -/
structure Encoding where
  /-- The digits so far. -/
  digits : List Char
  /-- The places passed over since the last number. -/
  passed : Nat
  bias : Nat
  /-- The number of characters that are put in. -/
  count : Nat

/-- Goes past a character of the label while those of a code point are put in. -/
def Encoding.pass (code start : Nat) (e : Encoding) (c : Char) : Encoding :=
  if c.toNat < code then { e with passed := e.passed + 1 }
  else if c.toNat = code then
    ⟨e.digits ++ numberDigits e.bias 36 e.passed, 0,
      adaptBias e.passed (e.count + 1) (e.count = start), e.count + 1⟩
  else e

/-- Puts in the characters of code points in increasing order, the next possible one first. -/
def encodeCodes (label : List Char) (start : Nat) : (next : Nat) → List Nat → Encoding → Encoding
  | _, [], e => e
  | next, code :: codes, e =>
    let e := { e with passed := e.passed + (code - next) * (e.count + 1) }
    let e := label.foldl (Encoding.pass code start) e
    encodeCodes label start (code + 1) codes { e with passed := e.passed + 1 }

/-- A label written in ASCII. -/
def encodeLabel (label : List Char) : List Char :=
  let basic := label.filter fun c => c.toNat < firstCode
  let codes := (label.map Char.toNat).filter fun code => firstCode ≤ code
  let e := encodeCodes label basic.length firstCode codes.eraseDups.mergeSort
    ⟨[], 0, firstBias, basic.length⟩
  basic ++ (if basic.isEmpty then [] else ['-']) ++ e.digits

/-! ### Reading -/

/-- What is known while a label is read. -/
structure Decoding where
  /-- The characters so far. -/
  label : List Char
  /-- The code point of the character put in last. -/
  code : Nat
  /-- The place that the number being read leads to so far. -/
  place : Nat
  /-- The place that the number starts from. -/
  origin : Nat
  /-- What the next digit counts for. -/
  weight : Nat
  /-- The position of the next digit. -/
  position : Nat
  bias : Nat

/-- The greatest number that a label may write, and the greatest weight of a digit. -/
def greatestNumber : Nat := 0xffffffff

/-- Whether a number is a code point of a character. -/
def isCode (n : Nat) : Bool := n < 0xd800 || (0xdfff < n && n < 0x110000)

/-- Takes in one digit; the last one of a number puts in a character. -/
def Decoding.readDigit (s : Decoding) (c : Char) : Option Decoding := do
  let d ← charDigit? c
  let t := threshold s.position s.bias
  let place := s.place + d * s.weight
  let weight := s.weight * (36 - t)
  if greatestNumber < place then none
  else if d < t then
    let count := s.label.length + 1
    let code := s.code + place / count
    let next := place % count
    if isCode code then
      pure ⟨s.label.insertIdx next (Char.ofNat code), code, next + 1, next + 1, 1, 36,
        adaptBias (place - s.origin) count (s.origin = 0)⟩
    else none
  else if greatestNumber < weight then none
  else pure { s with place, weight, position := s.position + 36 }

/-- The label that a text in ASCII writes.  Its last hyphen ends the ASCII characters of the label,
which has some. -/
def decodeLabel (cs : List Char) : Option (List Char) := do
  let afterHyphen := (cs.reverse.takeWhile (· ≠ '-')).reverse
  let basic := cs.take (cs.length - afterHyphen.length - 1)
  let digits := if basic.isEmpty then cs else afterHyphen
  let s ← digits.foldlM Decoding.readDigit ⟨basic, firstCode, 0, 0, 1, 36, firstBias⟩
  if s.position = 36 then pure s.label else none

end Domain

end EngineHost
