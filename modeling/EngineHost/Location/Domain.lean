import EngineHost.Location.Address
import EngineHost.Location.Domain.Direction
import EngineHost.Location.Domain.Joining
import EngineHost.Location.Domain.Mapping
import EngineHost.Location.Domain.Punycode

/-!
# Domain names

A name is looked up in ASCII and in small letters.  `Domain.toAscii` brings a name into this form:
its characters are mapped and composed, its labels are checked, and a label with characters beyond
ASCII is written with the mark `xn--`.  A label that has the mark already must be one that would be
written so.
-/

namespace EngineHost

namespace Domain

/-- Characters that no name holds. -/
def isForbidden (c : Char) : Bool :=
  c.toNat ≤ 0x20 || c.toNat = 0x7f ||
    c ∈ ['#', '%', '/', ':', '<', '>', '?', '@', '[', '\\', ']', '^', '|']

/-- The mark of labels written in ASCII. -/
def mark : List Char := "xn--".toList

/-- The greatest lengths of a label that is written in ASCII, before and after. -/
def greatestLengths : Nat × Nat := (1000, 2000)

/-- Whether a text is all ASCII. -/
def isAscii (cs : List Char) : Bool := cs.all fun c => c.toNat < 0x80

/-- The label that a text stands for: what is written in ASCII after a mark, or else the text
itself. -/
def readLabel (cs : List Char) : Option (List Char) :=
  if mark.isPrefixOf cs then do
    if !isAscii cs || greatestLengths.2 < cs.length - mark.length then none
    else
      let label ← decodeLabel (cs.drop mark.length)
      if isAscii label || !label.all isPlain || compose label ≠ label then none else pure label
  else some cs

/-- Whether a label is well formed apart from its direction. -/
def isLabel (label : List Char) : Bool :=
  !(label.head?.any combiningMarks.contains) && joinersFit [] label

/-- A label in ASCII. -/
def writeLabel (label : List Char) : Option (List Char) :=
  if isAscii label then some label
  else if greatestLengths.1 < label.length then none
  else some (mark ++ encodeLabel label)

/-- The form of a name in which it is looked up. -/
def toAscii (cs : List Char) : Option (List Char) := do
  let mapped ← cs.mapM mapChar
  let labels ← (Address.splitAt '.' (compose mapped.flatten)).mapM readLabel
  if labels.any hasRightToLeft && !labels.all isDirected then none
  else if !labels.all isLabel then none
  else
    let name := ['.'].intercalate (← labels.mapM writeLabel)
    if name.any isForbidden then none else pure name

end Domain

end EngineHost
