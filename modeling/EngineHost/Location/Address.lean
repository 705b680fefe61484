/-!
# Numeric host addresses

Addresses of 32 bits are written as one to four numbers with dots between them, each decimal, octal
or hexadecimal, and the last one fills the bytes that are left.  Addresses of 128 bits are written
as eight groups of hexadecimal digits, where `::` stands for groups of zeros and the last two groups
may be given as a decimal address of 32 bits.
-/

namespace EngineHost

namespace Address

/-- A text cut at a character. -/
def splitAt (x : Char) : List Char → List (List Char)
  | [] => [[]]
  | c :: rest =>
    if c = x then [] :: splitAt x rest
    else
      match splitAt x rest with
      | [] => [[c]]
      | piece :: others => (c :: piece) :: others

/-- The value of a hexadecimal digit. -/
def digit? (c : Char) : Option Nat :=
  if c.isDigit then some (c.toNat - '0'.toNat)
  else if 'a' ≤ c && c ≤ 'f' then some (c.toNat - 'a'.toNat + 10)
  else if 'A' ≤ c && c ≤ 'F' then some (c.toNat - 'A'.toNat + 10)
  else none

/-- The number that digits of a base write. -/
def readBase (base : Nat) (cs : List Char) : Option Nat :=
  cs.foldlM (fun n c => do
    let d ← digit? c
    if d < base then pure (base * n + d) else none) 0

/-! ### Addresses of 32 bits -/

/-- One number of an address. -/
def readPart : List Char → Option Nat
  | [] => none
  | '0' :: 'x' :: rest | '0' :: 'X' :: rest => readBase 16 rest
  | '0' :: d :: rest => readBase 8 (d :: rest)
  | cs => readBase 10 cs

/-- Parts without an empty one at the end. -/
def withoutLastEmpty (parts : List (List Char)) : List (List Char) :=
  if parts.getLast? = some [] then parts.dropLast else parts

/-- Whether the last part of a name is a number, so that the name must be an address. -/
def endsInNumber (cs : List Char) : Bool :=
  match (withoutLastEmpty (splitAt '.' cs)).getLast? with
  | none => false
  | some last => (!last.isEmpty && last.all Char.isDigit) || (readPart last).isSome

/-- The bytes of an address from its parts, of which the last fills what is left. -/
def fillBytes (numbers : List Nat) : Option Nat :=
  match numbers.getLast? with
  | none => none
  | some last =>
    let others := numbers.dropLast
    let left := 4 - others.length
    if others.any (255 < ·) || Nat.pow 256 left ≤ last then none
    else some (others.foldl (fun n b => 256 * n + b) 0 * Nat.pow 256 left + last)

/-- Reads an address of 32 bits. -/
def readShort (cs : List Char) : Option Nat := do
  let parts := withoutLastEmpty (splitAt '.' cs)
  if 4 < parts.length then none
  else
    let numbers ← parts.mapM readPart
    fillBytes numbers

/-- An address of 32 bits, byte by byte. -/
def showShort (n : Nat) : String :=
  ".".intercalate ([n / 0x1000000, n / 0x10000 % 256, n / 0x100 % 256, n % 256].map toString)

/-! ### Addresses of 128 bits -/

/-- One byte of a decimal address: no leading zeros. -/
def readByte (cs : List Char) : Option Nat := do
  let n ← readBase 10 cs
  if cs.isEmpty || 3 < cs.length || (1 < cs.length && cs.head? = some '0') || 255 < n then none
  else pure n

/-- The two groups of a decimal address. -/
def readDecimalGroups (cs : List Char) : Option (List Nat) := do
  match ← (splitAt '.' cs).mapM readByte with
  | [a, b, c, d] => pure [256 * a + b, 256 * c + d]
  | _ => none

/-- One group of digits. -/
def readGroup (cs : List Char) : Option Nat :=
  if cs.isEmpty || 4 < cs.length then none else readBase 16 cs

/-- Groups with colons between them; the last may be a decimal address. -/
def readGroups : List (List Char) → Option (List Nat)
  | [] => some []
  | [last] => if '.' ∈ last then readDecimalGroups last else (readGroup last).map ([·])
  | group :: rest => do
    let n ← readGroup group
    let ns ← readGroups rest
    pure (n :: ns)

/-- The groups of a text that may be empty. -/
def readSide (cs : List Char) : Option (List Nat) :=
  if cs.isEmpty then some [] else readGroups (splitAt ':' cs)

/-- A text cut at the first `::`. -/
def cutDouble : List Char → Option (List Char × List Char)
  | ':' :: ':' :: rest => some ([], rest)
  | c :: rest => (cutDouble rest).map fun (a, b) => (c :: a, b)
  | [] => none

/-- Reads an address of 128 bits as its eight groups. -/
def readLong (cs : List Char) : Option (List Nat) :=
  match cutDouble cs with
  | none => do
    let groups ← readSide cs
    if groups.length = 8 then pure groups else none
  | some (before, after) => do
    let first ← readSide before
    let last ← readSide after
    if '.' ∈ before then none
    else if first.length + last.length ≤ 7 then
      pure (first ++ List.replicate (8 - first.length - last.length) 0 ++ last)
    else none

/-- The length of the run of zeros at the front. -/
def zeroRun (groups : List Nat) : Nat := (groups.takeWhile (· = 0)).length

/-- The place and length of the first longest run of zeros. -/
def longestZeros : (place : Nat) → (best : Nat × Nat) → List Nat → Nat × Nat
  | _, best, [] => best
  | place, best, n :: rest =>
    let run := zeroRun (n :: rest)
    longestZeros (place + 1) (if best.2 < run then (place, run) else best) rest

/-- Groups with colons between them. -/
def showGroups (groups : List Nat) : String :=
  ":".intercalate (groups.map fun n => String.ofList (Nat.toDigits 16 n))

/-- An address of 128 bits, its first longest run of two or more zeros left out. -/
def showLong (groups : List Nat) : String :=
  let (place, run) := longestZeros 0 (0, 0) groups
  if run < 2 then showGroups groups
  else showGroups (groups.take place) ++ "::" ++ showGroups (groups.drop (place + run))

end Address

end EngineHost
