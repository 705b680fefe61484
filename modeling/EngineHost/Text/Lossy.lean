/-!
# Reading UTF-8 with losses

`decodeLossy` reads any bytes as a text.  Where they are not UTF-8, each longest stretch that could
have begun a character becomes one replacement character.
-/

namespace EngineHost

/-- The replacement character. -/
def replacementChar : Char := '\ufffd'

/-- What the first byte of a character says: its own bits, how many bytes follow, and the bounds of
the next one. -/
structure Lead where
  bits : Nat
  following : Nat
  least : Nat
  greatest : Nat

/-- Reads the first byte of a character. -/
def lead? (b : Nat) : Option Lead :=
  if b < 0x80 then some ⟨b, 0, 0, 0⟩
  else if b < 0xc2 then none
  else if b < 0xe0 then some ⟨b - 0xc0, 1, 0x80, 0xbf⟩
  else if b = 0xe0 then some ⟨0, 2, 0xa0, 0xbf⟩
  else if b = 0xed then some ⟨0xd, 2, 0x80, 0x9f⟩
  else if b < 0xf0 then some ⟨b - 0xe0, 2, 0x80, 0xbf⟩
  else if b = 0xf0 then some ⟨0, 3, 0x90, 0xbf⟩
  else if b < 0xf4 then some ⟨b - 0xf0, 3, 0x80, 0xbf⟩
  else if b = 0xf4 then some ⟨4, 3, 0x80, 0x8f⟩
  else none

/-- Reads bytes from the front; `open?` is a character that has begun, with the bits so far. -/
def decodeFrom : (open? : Option Lead) → List UInt8 → List Char
  | none, [] => []
  | some _, [] => [replacementChar]
  | none, b :: rest =>
    match lead? b.toNat with
    | none => replacementChar :: decodeFrom none rest
    | some l => if l.following = 0 then Char.ofNat l.bits :: decodeFrom none rest
      else decodeFrom (some l) rest
  | some l, b :: rest =>
    if l.least ≤ b.toNat ∧ b.toNat ≤ l.greatest then
      let bits := 64 * l.bits + (b.toNat - 0x80)
      if l.following = 1 then Char.ofNat bits :: decodeFrom none rest
      else decodeFrom (some ⟨bits, l.following - 1, 0x80, 0xbf⟩) rest
    else
      match lead? b.toNat with
      | none => replacementChar :: replacementChar :: decodeFrom none rest
      | some l =>
        if l.following = 0 then replacementChar :: Char.ofNat l.bits :: decodeFrom none rest
        else replacementChar :: decodeFrom (some l) rest

/-- The text that bytes say, as far as they do. -/
def decodeLossy (bytes : List UInt8) : String := String.ofList (decodeFrom none bytes)

end EngineHost
