/-!
# Texts, numbers and dates in TOML

Readers for the smallest parts of a TOML document.  A reader takes characters from the front of a
text and answers what they say together with the characters that are left, or nothing when they are
not well formed.
-/

namespace EngineHost

namespace Toml

/-- A blank inside a line. -/
def isSpace (c : Char) : Bool := c = ' ' || c = '\t'

/-- A character that a text or comment may hold as it is. -/
def isPlain (c : Char) : Bool := c = '\t' || (' ' ≤ c && c.toNat ≠ 0x7f)

/-- Drops the blanks at the front. -/
def skipSpaces (cs : List Char) : List Char := cs.dropWhile isSpace

/-- Drops a line end at the front. -/
def newline? : List Char → Option (List Char)
  | '\n' :: rest => some rest
  | '\r' :: '\n' :: rest => some rest
  | _ => none

/-- Drops a comment at the front, as far as its line goes. -/
def skipComment : List Char → List Char
  | '#' :: rest => rest.dropWhile isPlain
  | cs => cs

/-- Drops blanks, comments and line ends at the front. -/
def skipLines : (bound : Nat) → List Char → List Char
  | 0, cs => cs
  | bound + 1, cs =>
    let cs := skipSpaces cs
    match newline? cs with
    | some rest => skipLines bound rest
    | none =>
      match cs with
      | '#' :: _ =>
        match newline? (skipComment cs) with
        | some rest => skipLines bound rest
        | none => cs
      | _ => cs

/-- Drops what may stand at the end of a line, with the line end. -/
def endOfLine? (cs : List Char) : Option (List Char) :=
  let cs := skipComment (skipSpaces cs)
  if cs.isEmpty then some [] else newline? cs

/-! ### Texts -/

/-- The value of a hexadecimal digit. -/
def hexValue? (c : Char) : Option Nat :=
  if c.isDigit then some (c.toNat - '0'.toNat)
  else if 'a' ≤ c && c ≤ 'f' then some (c.toNat - 'a'.toNat + 10)
  else if 'A' ≤ c && c ≤ 'F' then some (c.toNat - 'A'.toNat + 10)
  else none

/-- A character given by so many hexadecimal digits. -/
def readCode : (count : Nat) → (value : Nat) → List Char → Option (Char × List Char)
  | 0, value, rest =>
    if value.isValidChar then some (Char.ofNat value, rest) else none
  | _ + 1, _, [] => none
  | count + 1, value, c :: rest => do
    let digit ← hexValue? c
    readCode count (16 * value + digit) rest

/-- The character of an escape, whose backslash has been read. -/
def readEscape : List Char → Option (Char × List Char)
  | 'b' :: rest => some ('\x08', rest)
  | 't' :: rest => some ('\t', rest)
  | 'n' :: rest => some ('\n', rest)
  | 'f' :: rest => some ('\x0c', rest)
  | 'r' :: rest => some ('\r', rest)
  | '"' :: rest => some ('"', rest)
  | '\\' :: rest => some ('\\', rest)
  | 'u' :: rest => readCode 4 0 rest
  | 'U' :: rest => readCode 8 0 rest
  | _ => none

/-- The rest of a text in double quotes. -/
def readBasic : (bound : Nat) → (read : List Char) → List Char → Option (String × List Char)
  | 0, _, _ => none
  | bound + 1, read, cs =>
    match cs with
    | '"' :: rest => some (String.ofList read.reverse, rest)
    | '\\' :: rest => do
      let (c, rest) ← readEscape rest
      readBasic bound (c :: read) rest
    | c :: rest => if isPlain c then readBasic bound (c :: read) rest else none
    | [] => none

/-- The rest of a text in single quotes. -/
def readLiteral (cs : List Char) : Option (String × List Char) :=
  let value := cs.takeWhile fun c => isPlain c && c ≠ '\''
  match cs.drop value.length with
  | '\'' :: rest => some (String.ofList value, rest)
  | _ => none

/-- The quotes at the front of a text. -/
def countQuotes (quote : Char) (cs : List Char) : Nat := (cs.takeWhile (· = quote)).length

/-- Drops blanks and line ends at the front. -/
def skipBlankLines : (bound : Nat) → List Char → List Char
  | 0, cs => cs
  | bound + 1, cs =>
    let cs := skipSpaces cs
    match newline? cs with
    | some rest => skipBlankLines bound rest
    | none => cs

/-- Drops what follows a backslash at the end of a line: the line end and the blanks around it. -/
def skipBreak? (cs : List Char) : Option (List Char) :=
  (newline? (skipSpaces cs)).map fun rest => skipBlankLines (rest.length + 1) rest

/-- The rest of a text of several lines, in three quotes; escapes only in double ones. -/
def readLong (quote : Char) :
    (bound : Nat) → (read : List Char) → List Char → Option (String × List Char)
  | 0, _, _ => none
  | bound + 1, read, cs =>
    let quotes := countQuotes quote cs
    if 3 ≤ quotes then
      let inside := min (quotes - 3) 2
      let value := List.replicate inside quote ++ read
      some (String.ofList value.reverse, cs.drop (inside + 3))
    else if 0 < quotes then
      readLong quote bound (List.replicate quotes quote ++ read) (cs.drop quotes)
    else
      match newline? cs with
      | some rest => readLong quote bound ('\n' :: read) rest
      | none =>
        match cs with
        | [] => none
        | c :: rest =>
          if c = '\\' && quote = '"' then
            match skipBreak? rest with
            | some rest => readLong quote bound read rest
            | none => do
              let (c, rest) ← readEscape rest
              readLong quote bound (c :: read) rest
          else if isPlain c then readLong quote bound (c :: read) rest
          else none

/-- A text of one of the four forms. -/
def readText (cs : List Char) : Option (String × List Char) :=
  let long (quote : Char) (rest : List Char) : Option (String × List Char) :=
    let rest := (newline? rest).getD rest
    readLong quote (rest.length + 1) [] rest
  match cs with
  | '"' :: '"' :: '"' :: rest => long '"' rest
  | '\'' :: '\'' :: '\'' :: rest => long '\'' rest
  | '"' :: rest => readBasic (rest.length + 1) [] rest
  | '\'' :: rest => readLiteral rest
  | _ => none

/-! ### Numbers -/

/-- Digits, where a single underscore may stand between two of them; at least one digit. -/
def readDigits (isDigit : Char → Bool) :
    (bound : Nat) → (read : List Char) → List Char → Option (List Char × List Char)
  | 0, _, _ => none
  | bound + 1, read, cs =>
    match cs with
    | [] => none
    | c :: rest =>
      if !isDigit c then none
      else
        match rest with
        | '_' :: more => readDigits isDigit bound (c :: read) more
        | d :: _ =>
          if isDigit d then readDigits isDigit bound (c :: read) rest
          else some ((c :: read).reverse, rest)
        | [] => some ((c :: read).reverse, [])

/-- Digits of a base, the number they write and what is left. -/
def readBase (base : Nat) (cs : List Char) : Option (Nat × List Char) := do
  let isDigit (c : Char) : Bool := (hexValue? c).any (· < base)
  let (digits, rest) ← readDigits isDigit (cs.length + 1) [] cs
  pure (digits.foldl (fun n c => base * n + (hexValue? c).getD 0) 0, rest)

/-- A sign at the front: whether it is a minus, and what is left. -/
def readSign : List Char → Bool × List Char
  | '-' :: rest => (true, rest)
  | '+' :: rest => (false, rest)
  | cs => (false, cs)

/-- A decimal integer without leading zeros: its magnitude. -/
def readDecimal (cs : List Char) : Option (Nat × List Char) :=
  match cs with
  | '0' :: rest => some (0, rest)
  | _ => readBase 10 cs

/-- Whether a magnitude with a sign is a signed integer of 64 bits. -/
def fits64 (negative : Bool) (n : Nat) : Bool :=
  n < 0x8000000000000000 || (negative && n = 0x8000000000000000)

/-- Drops an exponent at the front, and answers its value. -/
def readExponent? : List Char → Option (Option (Int × List Char))
  | c :: rest =>
    if c = 'e' || c = 'E' then
      let (negative, rest) := readSign rest
      match readBase 10 rest with
      | some (n, rest) => some (some (if negative then -(n : Int) else n, rest))
      | none => some none
    else none
  | [] => none

/-- Whether a decimal is too great for double precision, by the digits before its exponent. -/
def isTooGreat (digits : Nat) (exponent : Int) : Bool :=
  if digits = 0 then false
  else
    let width : Int := (Nat.toDigits 10 digits).length
    if width + exponent < 309 then false
    else if 310 < width + exponent then true
    else
      -- half a unit above the greatest double-precision number
      let bound := Nat.pow 2 1024 - Nat.pow 2 970
      if exponent < 0 then bound * Nat.pow 10 exponent.natAbs ≤ digits
      else bound ≤ digits * Nat.pow 10 exponent.natAbs

/-- Drops a number with a fraction or an exponent.  The outer nothing says that it is none, the
inner one that it is not well formed. -/
def readFloat (cs : List Char) : Option (Option (List Char)) :=
  let (negative, cs) := readSign cs
  match readDecimal cs with
  | none => none
  | some (whole, rest) =>
    let finish (digits : Nat) (places : Nat) (rest : List Char) : Option (List Char) :=
      let settle (exponent : Int) (rest : List Char) : Option (List Char) :=
        if isTooGreat digits (exponent - places) && !negative then none else some rest
      match readExponent? rest with
      | some (some (exponent, rest)) => settle exponent rest
      | some none => none
      | none => settle 0 rest
    match rest with
    | '.' :: more =>
      match readDigits Char.isDigit (more.length + 1) [] more with
      | some (fraction, rest) =>
        let digits := fraction.foldl (fun n c => 10 * n + (c.toNat - '0'.toNat)) whole
        some (finish digits fraction.length rest)
      | none => some none
    | _ => if (readExponent? rest).isSome then some (finish whole 0 rest) else none

/-- Drops a word at the front. -/
def readWord (word : String) (cs : List Char) : Option (List Char) :=
  let letters := word.toList
  if cs.take letters.length = letters then some (cs.drop letters.length) else none

/-- Drops an infinity or what is no number, with or without a sign. -/
def readSpecial (cs : List Char) : Option (List Char) :=
  let (_, cs) := readSign cs
  (readWord "inf" cs).or (readWord "nan" cs)

/-- Drops an integer that fits 64 bits. -/
def readInteger (cs : List Char) : Option (List Char) :=
  let inBase (base : Nat) (rest : List Char) : Option (List Char) := do
    let (n, rest) ← readBase base rest
    if fits64 false n then some rest else none
  match cs with
  | '0' :: 'x' :: rest => inBase 16 rest
  | '0' :: 'o' :: rest => inBase 8 rest
  | '0' :: 'b' :: rest => inBase 2 rest
  | _ => do
    let (negative, cs) := readSign cs
    let (n, rest) ← readDecimal cs
    if fits64 negative n then some rest else none

/-! ### Dates and times -/

/-- A number of exactly so many decimal digits, within bounds. -/
def readFixed (width least greatest : Nat) (cs : List Char) : Option (Nat × List Char) :=
  let digits := cs.take width
  let n := digits.foldl (fun n c => 10 * n + (c.toNat - '0'.toNat)) 0
  if digits.length = width && digits.all Char.isDigit && least ≤ n && n ≤ greatest then
    some (n, cs.drop width)
  else none

/-- Drops a character at the front. -/
def readChar (x : Char) : List Char → Option (List Char)
  | c :: rest => if c = x then some rest else none
  | [] => none

/-- The days of a month. -/
def daysIn (year month : Nat) : Nat :=
  let leap := year % 4 = 0 && (year % 100 ≠ 0 || year % 400 = 0)
  if month = 2 then if leap then 29 else 28
  else if month ∈ [4, 6, 9, 11] then 30
  else 31

/-- Drops a date. -/
def readDate (cs : List Char) : Option (List Char) := do
  let (year, cs) ← readFixed 4 0 9999 cs
  let cs ← readChar '-' cs
  let (month, cs) ← readFixed 2 1 12 cs
  let cs ← readChar '-' cs
  let (_, cs) ← readFixed 2 1 (daysIn year month) cs
  pure cs

/-- Drops a time of day. -/
def readTime (cs : List Char) : Option (List Char) := do
  let (_, cs) ← readFixed 2 0 23 cs
  let cs ← readChar ':' cs
  let (_, cs) ← readFixed 2 0 59 cs
  let cs ← readChar ':' cs
  let (_, cs) ← readFixed 2 0 60 cs
  match cs with
  | '.' :: rest =>
    let places := rest.takeWhile Char.isDigit
    if places.isEmpty then pure cs else pure (rest.drop places.length)
  | _ => pure cs

/-- Drops the distance of a time from universal time, if it is given. -/
def readOffset (cs : List Char) : Option (List Char) :=
  match cs with
  | c :: rest =>
    if c = 'Z' || c = 'z' then some rest
    else if c = '+' || c = '-' then do
      let (_, rest) ← readFixed 2 0 23 rest
      let rest ← readChar ':' rest
      let (_, rest) ← readFixed 2 0 59 rest
      pure rest
    else some cs
  | [] => some cs

/-- Drops a date, a time or both. -/
def readDateTime (cs : List Char) : Option (List Char) :=
  match readDate cs with
  | none => readTime cs
  | some rest =>
    match rest with
    | c :: time =>
      if c = 'T' || c = 't' || c = ' ' then
        match readTime time with
        | some rest => readOffset rest
        | none => some rest
      else some rest
    | [] => some rest

/-- Drops a number or a date. -/
def readScalar (cs : List Char) : Option (List Char) :=
  match readDateTime cs with
  | some rest => some rest
  | none =>
    match readFloat cs with
    | some r => r
    | none => (readSpecial cs).or (readInteger cs)

end Toml

end EngineHost
