import EngineHost.Json.Basic

/-!
# Percent encoding

A character that a part of an address may not hold is written as its UTF-8 bytes, each as `%` and
two hexadecimal digits.  Which ASCII characters a part may not hold depends on the part; other
characters are always encoded.
-/

namespace EngineHost

namespace Percent

/-- Control characters and everything beyond ASCII. -/
def controls (c : Char) : Bool := c.toNat < 0x20 || 0x7e < c.toNat

/-- What is encoded in a fragment. -/
def fragment (c : Char) : Bool := controls c || c ∈ [' ', '"', '<', '>', '`']

/-- What is encoded in a query. -/
def query (c : Char) : Bool := controls c || c ∈ [' ', '"', '#', '<', '>', '\'']

/-- What is encoded in a path. -/
def path (c : Char) : Bool := fragment c || c ∈ ['#', '?', '\x7b', '\x7d']

/-- What is encoded in a user name or a password. -/
def userinfo (c : Char) : Bool :=
  path c || c ∈ ['/', ':', ';', '=', '@', '[', '\\', ']', '^', '|']

/-- A byte as `%` and two digits. -/
def encodeByte (b : UInt8) : List Char :=
  '%' :: (Json.hexDigits 2 b.toNat).map Char.toUpper

/-- A text in which the characters of a set are encoded. -/
def encode (set : Char → Bool) (cs : List Char) : List Char :=
  cs.flatMap fun c => if set c then (String.utf8EncodeChar c).flatMap encodeByte else [c]

/-- The value of a hexadecimal digit, given as a byte. -/
def hexValue? (b : UInt8) : Option UInt8 :=
  if '0'.toNat ≤ b.toNat ∧ b.toNat ≤ '9'.toNat then some (b - 48)
  else if 'a'.toNat ≤ b.toNat ∧ b.toNat ≤ 'f'.toNat then some (b - 87)
  else if 'A'.toNat ≤ b.toNat ∧ b.toNat ≤ 'F'.toNat then some (b - 55)
  else none

/-- Bytes in which `%` and two digits stand for a byte; any other `%` stands for itself. -/
def decode : List UInt8 → List UInt8
  | [] => []
  | 0x25 :: a :: b :: rest =>
    match hexValue? a, hexValue? b with
    | some x, some y => (16 * x + y) :: decode rest
    | _, _ => 0x25 :: decode (a :: b :: rest)
  | b :: rest => b :: decode rest

end Percent

end EngineHost
