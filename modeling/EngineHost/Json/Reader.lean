import EngineHost.Json.Basic

/-!
# Reading JSON text

`Json.parse` reads a text as one value.  A text that is not JSON is refused with a `Json.Refusal`:
the first thing found wrong, and the line and byte column where it was noticed.  Objects and arrays
nest at most `Json.nestingLimit` deep.

An integer keeps its exact value when it fits 64 bits.  Any other number is a significand of at
most 64 bits and a decimal exponent; the significand is rounded to double precision and then scaled
by one rounded power of ten, and one that becomes infinite is refused.

Loops take the number of characters left as their bound: when it is used up, so is the text.
-/

namespace EngineHost

namespace Json

/-- What can be wrong with a text. -/
inductive Fault where
  | endInArray
  | endInObject
  | endInString
  | endInValue
  | expectedColon
  | expectedCommaOrBracket
  | expectedCommaOrBrace
  | expectedWord
  | expectedValue
  | invalidEscape
  | invalidNumber
  | numberOutOfRange
  | keyNotString
  | controlCharacter
  | loneSurrogate
  | unpairedEscape
  | trailingComma
  | trailingCharacters
  | nestedTooDeep
  deriving DecidableEq, Repr

/-- The words for a fault. -/
def Fault.message : Fault → String
  | endInArray => "EOF while parsing a list"
  | endInObject => "EOF while parsing an object"
  | endInString => "EOF while parsing a string"
  | endInValue => "EOF while parsing a value"
  | expectedColon => "expected `:`"
  | expectedCommaOrBracket => "expected `,` or `]`"
  | expectedCommaOrBrace => "expected `,` or `\x7d`"
  | expectedWord => "expected ident"
  | expectedValue => "expected value"
  | invalidEscape => "invalid escape"
  | invalidNumber => "invalid number"
  | numberOutOfRange => "number out of range"
  | keyNotString => "key must be a string"
  | controlCharacter => "control character (\\u0000-\\u001F) found while parsing a string"
  | loneSurrogate => "lone leading surrogate in hex escape"
  | unpairedEscape => "unexpected end of hex escape"
  | trailingComma => "trailing comma"
  | trailingCharacters => "trailing characters"
  | nestedTooDeep => "recursion limit exceeded"

/-- A fault and where it was noticed. -/
structure Refusal where
  fault : Fault
  line : Nat
  column : Nat
  deriving DecidableEq, Repr

/-- The text of a refusal. -/
def Refusal.message (r : Refusal) : String :=
  r.fault.message ++ " at line " ++ toString r.line ++ " column " ++ toString r.column

/-- How deep objects and arrays may nest. -/
def nestingLimit : Nat := 127

/-! ### Cursors -/

/-- A place in a text: what is left of it, the line, and the bytes of the line already passed. -/
structure Cursor where
  rest : List Char
  line : Nat := 1
  column : Nat := 0

namespace Cursor

/-- The place after the next character. -/
def advance (c : Cursor) : Cursor :=
  match c.rest with
  | [] => c
  | '\n' :: rest => ⟨rest, c.line + 1, 0⟩
  | x :: rest => ⟨rest, c.line, c.column + x.utf8Size⟩

/-- The place after the next `n` bytes, which may end inside a character. -/
def skipBytes (c : Cursor) : Nat → Cursor
  | 0 => c
  | n + 1 =>
    match c.rest with
    | [] => c
    | x :: _ => if x.utf8Size ≤ n + 1 then c.advance.skipBytes (n + 1 - x.utf8Size)
      else { c with column := c.column + (n + 1) }
  termination_by n => n
  decreasing_by
    have := x.utf8Size_pos
    omega

/-- The bytes left. -/
def bytesLeft (c : Cursor) : Nat := c.rest.foldr (fun x n => x.utf8Size + n) 0

/-- Refuses the text at this place. -/
def refuse {α : Type} (c : Cursor) (fault : Fault) : Except Refusal α :=
  .error ⟨fault, c.line, c.column⟩

/-- Refuses the text because of the next byte. -/
def refuseNext {α : Type} (c : Cursor) (fault : Fault) : Except Refusal α :=
  (c.skipBytes 1).refuse fault

/-- Blanks between tokens. -/
def isBlank (x : Char) : Bool := x = ' ' || x = '\n' || x = '\t' || x = '\r'

/-- The place after blanks. -/
def skipBlanks : (rest : List Char) → (line column : Nat) → Cursor
  | [], line, column => ⟨[], line, column⟩
  | x :: rest, line, column =>
    if isBlank x then
      if x = '\n' then skipBlanks rest (line + 1) 0 else skipBlanks rest line (column + 1)
    else ⟨x :: rest, line, column⟩

/-- The place of the next token. -/
def token (c : Cursor) : Cursor := skipBlanks c.rest c.line c.column

end Cursor

/-! ### Strings -/

/-- The value of a hexadecimal digit. -/
def hexValue? (c : Char) : Option Nat :=
  if '0' ≤ c ∧ c ≤ '9' then some (c.toNat - '0'.toNat)
  else if 'a' ≤ c ∧ c ≤ 'f' then some (c.toNat - 'a'.toNat + 10)
  else if 'A' ≤ c ∧ c ≤ 'F' then some (c.toNat - 'A'.toNat + 10)
  else none

/-- Four hexadecimal digits. -/
def readHex (c : Cursor) : Except Refusal (Nat × Cursor) :=
  let digits := c.rest.take 4 |>.filterMap hexValue?
  if digits.length = 4 then
    .ok (digits.foldl (fun n d => 16 * n + d) 0, c.skipBytes 4)
  else if c.bytesLeft < 4 then (c.skipBytes c.bytesLeft).refuse .endInString
  else (c.skipBytes 4).refuse .invalidEscape

/-- Expects one character of the second half of a surrogate pair. -/
def expectInPair (x : Char) (c : Cursor) : Except Refusal Cursor :=
  match c.rest with
  | [] => c.refuse .endInString
  | y :: _ => if y = x then .ok c.advance else c.refuseNext .unpairedEscape

/-- A character escaped by its code, a surrogate pair by two; the cursor is after the first
`\u`. -/
def readCodeEscape (c : Cursor) : Except Refusal (Char × Cursor) := do
  let (first, c) ← readHex c
  if 0xDC00 ≤ first ∧ first ≤ 0xDFFF then c.refuse .loneSurrogate
  else if first < 0xD800 ∨ 0xDBFF < first then pure (Char.ofNat first, c)
  else
    let c ← expectInPair '\\' c
    let c ← expectInPair 'u' c
    let (second, c) ← readHex c
    if second < 0xDC00 ∨ 0xDFFF < second then c.refuse .loneSurrogate
    else pure (Char.ofNat (0x10000 + (first - 0xD800) * 0x400 + (second - 0xDC00)), c)

/-- What an escape other than by code stands for. -/
def shortEscape? : Char → Option Char
  | '"' => some '"'
  | '\\' => some '\\'
  | '/' => some '/'
  | 'b' => some '\x08'
  | 'f' => some '\x0c'
  | 'n' => some '\n'
  | 'r' => some '\r'
  | 't' => some '\t'
  | _ => none

/-- An escape; the cursor is after the backslash. -/
def readEscape (c : Cursor) : Except Refusal (Char × Cursor) :=
  match c.rest with
  | [] => c.refuse .endInString
  | 'u' :: _ => readCodeEscape c.advance
  | x :: _ =>
    match shortEscape? x with
    | some y => .ok (y, c.advance)
    | none => c.refuseNext .invalidEscape

/-- The rest of a string whose opening quote has been read; `read` holds its characters so far,
last first. -/
def readString :
    (bound : Nat) → (read : List Char) → Cursor → Except Refusal (String × Cursor)
  | 0, _, c => c.refuse .endInString
  | bound + 1, read, c =>
    match c.rest with
    | [] => c.refuse .endInString
    | '"' :: _ => .ok (String.ofList read.reverse, c.advance)
    | '\\' :: _ => do
      let (x, c) ← readEscape c.advance
      readString bound (x :: read) c
    | x :: _ =>
      if x.toNat < 0x20 then c.refuseNext .controlCharacter
      else readString bound (x :: read) c.advance

/-- The string whose opening quote is next. -/
def readQuoted (c : Cursor) : Except Refusal (String × Cursor) :=
  readString c.rest.length [] c.advance

/-! ### Numbers -/

/-- A number being read. -/
structure Numeral where
  negative : Bool
  /-- The leading digits, as long as they fit 64 bits. -/
  significand : Nat := 0
  /-- The power of ten the significand is scaled by. -/
  scale : Int := 0
  /-- Digits are no longer taken into the significand. -/
  full : Bool := false

/-- Whether a digit still fits the significand. -/
def Numeral.hasRoom (n : Numeral) (digit : Nat) : Bool :=
  !n.full && n.significand * 10 + digit < 0x10000000000000000

/-- The digit a character stands for. -/
def digit? (x : Char) : Option Nat := if x.isDigit then some (x.toNat - '0'.toNat) else none

/-- Digits before the point. -/
def readWhole : (bound : Nat) → Numeral → Cursor → Numeral × Cursor
  | 0, n, c => (n, c)
  | bound + 1, n, c =>
    match c.rest.head?.bind digit? with
    | none => (n, c)
    | some d =>
      let n := if n.hasRoom d then { n with significand := n.significand * 10 + d }
        else { n with full := true, scale := n.scale + 1 }
      readWhole bound n c.advance

/-- Digits after the point, and how many there are. -/
def readFraction : (bound : Nat) → (count : Nat) → Numeral → Cursor → Nat × Numeral × Cursor
  | 0, count, n, c => (count, n, c)
  | bound + 1, count, n, c =>
    match c.rest.head?.bind digit? with
    | none => (count, n, c)
    | some d =>
      let n := if n.hasRoom d
        then { n with significand := n.significand * 10 + d, scale := n.scale - 1 }
        else { n with full := true }
      readFraction bound (count + 1) n c.advance

/-- The greatest exponent that is read as a number. -/
def exponentLimit : Nat := 0x7fffffff

/-- The digits of an exponent, or where they passed the limit. -/
def readExponentDigits : (bound : Nat) → Nat → Cursor → Option Nat × Cursor
  | 0, value, c => (some value, c)
  | bound + 1, value, c =>
    match c.rest.head?.bind digit? with
    | none => (some value, c)
    | some d =>
      if exponentLimit < value * 10 + d then (none, c.advance)
      else readExponentDigits bound (value * 10 + d) c.advance

/-- The place after digits. -/
def skipDigits : (bound : Nat) → Cursor → Cursor
  | 0, c => c
  | bound + 1, c =>
    match c.rest.head?.bind digit? with
    | none => c
    | some _ => skipDigits bound c.advance

/-- The double-precision power of ten. -/
def powerOfTen (n : Nat) : Binary64 := Binary64.ofRatio false (Nat.pow 10 n) 1

/-- The greatest power of ten of double precision. -/
def greatestPower : Nat := 308

/-- Scales `x` by a power of ten, dividing by the greatest one first while the exponent is
smaller than any in reach. -/
def scaleByTen : (bound : Nat) → Binary64 → Int → Binary64
  | 0, x, _ => x
  | bound + 1, x, exponent =>
    if 0 ≤ exponent then x.mul (powerOfTen exponent.toNat)
    else if -(greatestPower : Int) ≤ exponent then x.div (powerOfTen exponent.natAbs)
    else scaleByTen bound (x.div (powerOfTen greatestPower)) (exponent + greatestPower)

/-- Positive or negative zero. -/
def zero (negative : Bool) : Binary64 := Binary64.ofRatio negative 0 1

/-- The number a numeral stands for, refused at `c` when it is too large. -/
def Numeral.toNumber (n : Numeral) (c : Cursor) : Except Refusal (Number × Cursor) :=
  let x := Binary64.ofRatio n.negative n.significand 1
  if n.significand = 0 then
    match Number.ofBinary64? (zero n.negative) with
    | some y => .ok (y, c)
    | none => c.refuse .numberOutOfRange
  else if (greatestPower : Int) < n.scale then c.refuse .numberOutOfRange
  else
    let scale := max n.scale (-(4 * greatestPower : Nat))
    match Number.ofBinary64? (scaleByTen 8 x scale) with
    | some y => .ok (y, c)
    | none => c.refuse .numberOutOfRange

/-- The exponent of a number; the cursor is after the `e`. -/
def readExponent (n : Numeral) (c : Cursor) : Except Refusal (Number × Cursor) :=
  let (down, c) := match c.rest with
    | '+' :: _ => (false, c.advance)
    | '-' :: _ => (true, c.advance)
    | _ => (false, c)
  match c.rest with
  | [] => c.refuse .endInValue
  | x :: _ =>
    match digit? x with
    | none => c.refuseNext .invalidNumber
    | some d =>
      match readExponentDigits c.rest.length d c.advance with
      | (some e, c) => { n with scale := if down then n.scale - e else n.scale + e }.toNumber c
      | (none, c) =>
        if n.significand ≠ 0 ∧ down = false then c.refuse .numberOutOfRange
        else { n with significand := 0 }.toNumber (skipDigits c.rest.length c)

/-- The fraction of a number and what follows it; the cursor is after the point. -/
def readPoint (n : Numeral) (c : Cursor) : Except Refusal (Number × Cursor) :=
  match readFraction c.rest.length 0 { n with full := false } c with
  | (0, _, c) => if c.rest.isEmpty then c.refuse .endInValue else c.refuseNext .invalidNumber
  | (_, n, c) =>
    match c.rest with
    | 'e' :: _ | 'E' :: _ => readExponent n c.advance
    | _ => n.toNumber c

/-- What may follow the digits before the point; without any of it the number is an integer when
it fits. -/
def readTail (n : Numeral) (c : Cursor) : Except Refusal (Number × Cursor) :=
  match c.rest with
  | '.' :: _ => readPoint n c.advance
  | 'e' :: _ | 'E' :: _ => readExponent n c.advance
  | _ =>
    let value : Int := if n.negative then -n.significand else n.significand
    if n.full || (n.negative && n.significand = 0) then n.toNumber c
    else
      match Number.ofInt? value with
      | some i => .ok (i, c)
      | none => n.toNumber c

/-- A number after its sign. -/
def readNumber (negative : Bool) (c : Cursor) : Except Refusal (Number × Cursor) :=
  match c.rest with
  | [] => c.refuse .endInValue
  | '0' :: _ =>
    let c := c.advance
    match c.rest.head?.bind digit? with
    | some _ => c.refuseNext .invalidNumber
    | none => readTail ⟨negative, 0, 0, false⟩ c
  | x :: _ =>
    match digit? x with
    | none => c.refuseNext .invalidNumber
    | some d =>
      let (n, c) := readWhole c.rest.length ⟨negative, d, 0, false⟩ c.advance
      readTail n c

/-! ### Values -/

/-- Reads the value at a place. -/
abbrev ValueReader := Cursor → Except Refusal (Json × Cursor)

/-- The rest of a word whose first letter has been read. -/
def readWord (value : Json) : List Char → Cursor → Except Refusal (Json × Cursor)
  | [], c => .ok (value, c)
  | x :: word, c =>
    match c.rest with
    | [] => c.refuse .endInValue
    | y :: _ => if y = x then readWord value word c.advance else c.refuseNext .expectedWord

/-- The items of an array after the first, up to and with the closing bracket. -/
def readItems (item : ValueReader) :
    (bound : Nat) → (read : List Json) → Cursor → Except Refusal (List Json × Cursor)
  | 0, _, c => c.refuse .endInArray
  | bound + 1, read, c =>
    let c := c.token
    match c.rest with
    | [] => c.refuse .endInArray
    | ']' :: _ => .ok (read.reverse, c.advance)
    | ',' :: _ =>
      let c := c.advance.token
      match c.rest with
      | [] => c.refuse .endInValue
      | ']' :: _ => c.refuseNext .trailingComma
      | _ => do
        let (j, c) ← item c
        readItems item bound (j :: read) c
    | _ => c.refuseNext .expectedCommaOrBracket

/-- An array after its opening bracket. -/
def readArray (item : ValueReader) (c : Cursor) : Except Refusal (Json × Cursor) := do
  let c := c.token
  match c.rest with
  | [] => c.refuse .endInArray
  | ']' :: _ => pure (.array [], c.advance)
  | _ =>
    let (j, c) ← item c
    let (items, c) ← readItems item (c.rest.length + 1) [j] c
    pure (.array items, c)

/-- A field whose key's opening quote is next. -/
def readField (item : ValueReader) (c : Cursor) :
    Except Refusal ((String × Json) × Cursor) := do
  let (key, c) ← readQuoted c
  let c := c.token
  match c.rest with
  | [] => c.refuse .endInObject
  | ':' :: _ =>
    let (value, c) ← item c.advance
    pure ((key, value), c)
  | _ => c.refuseNext .expectedColon

/-- The fields of an object after the first, up to and with the closing brace. -/
def readFields (item : ValueReader) :
    (bound : Nat) → (read : List (String × Json)) → Cursor →
      Except Refusal (List (String × Json) × Cursor)
  | 0, _, c => c.refuse .endInObject
  | bound + 1, read, c =>
    let c := c.token
    match c.rest with
    | [] => c.refuse .endInObject
    | '}' :: _ => .ok (read.reverse, c.advance)
    | ',' :: _ =>
      let c := c.advance.token
      match c.rest with
      | [] => c.refuse .endInValue
      | '}' :: _ => c.refuseNext .trailingComma
      | '"' :: _ => do
        let (f, c) ← readField item c
        readFields item bound (f :: read) c
      | _ => c.refuseNext .keyNotString
    | _ => c.refuseNext .expectedCommaOrBrace

/-- An object after its opening brace. -/
def readObject (item : ValueReader) (c : Cursor) : Except Refusal (Json × Cursor) := do
  let c := c.token
  match c.rest with
  | [] => c.refuse .endInObject
  | '}' :: _ => pure (.object [], c.advance)
  | '"' :: _ =>
    let (f, c) ← readField item c
    let (fields, c) ← readFields item (c.rest.length + 1) [f] c
    pure (ofFields fields, c)
  | _ => c.refuseNext .keyNotString

/-- A value that may hold objects and arrays nested up to `depth` deep. -/
def readValue : (depth : Nat) → ValueReader
  | depth, c =>
    let c := c.token
    match c.rest with
    | [] => c.refuse .endInValue
    | 'n' :: _ => readWord .null ['u', 'l', 'l'] c.advance
    | 't' :: _ => readWord (.bool true) ['r', 'u', 'e'] c.advance
    | 'f' :: _ => readWord (.bool false) ['a', 'l', 's', 'e'] c.advance
    | '"' :: _ => do
      let (s, c) ← readQuoted c
      pure (.string s, c)
    | '[' :: _ =>
      match depth with
      | 0 => c.refuseNext .nestedTooDeep
      | depth + 1 => readArray (fun c => readValue depth c) c.advance
    | '{' :: _ =>
      match depth with
      | 0 => c.refuseNext .nestedTooDeep
      | depth + 1 => readObject (fun c => readValue depth c) c.advance
    | '-' :: _ => do
      let (n, c) ← readNumber true c.advance
      pure (.number n, c)
    | x :: _ =>
      if x.isDigit then do
        let (n, c) ← readNumber false c
        pure (.number n, c)
      else c.refuseNext .expectedValue

/-- The value a text holds, with nesting up to `depth`. -/
def parseWithin (depth : Nat) (text : String) : Except Refusal Json := do
  let (value, c) ← readValue depth ⟨text.toList, 1, 0⟩
  let c := c.token
  if c.rest.isEmpty then pure value else c.refuseNext .trailingCharacters

/-- The value a text holds. -/
def parse (text : String) : Except Refusal Json := parseWithin nestingLimit text

end Json

end EngineHost
