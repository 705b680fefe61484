import EngineHost.Storage.Content

/-!
# Guest memory

The memory of a module: bytes from address 0 up, in pages, which may grow up to a greatest number
of pages.  Addresses are unsigned.
-/

namespace EngineHost

/-- The memory of a module. -/
structure LinearMemory where
  data : Content
  /-- The greatest number of pages. -/
  maxPages : Nat
  deriving DecidableEq, Repr

namespace LinearMemory

/-- The bytes of a page. -/
def pageSize : Nat := 65536

/-- A memory of zeros. -/
def ofPages (pages maxPages : Nat) : LinearMemory := ⟨.zeros (pages * pageSize), maxPages⟩

variable (m : LinearMemory)

/-- The number of bytes. -/
def size : Nat := m.data.length

/-- The number of pages. -/
def pages : Nat := m.size / pageSize

/-- Whether a stretch lies inside the memory. -/
def holds (address count : Nat) : Bool := address + count ≤ m.size

/-- The bytes of a stretch, if it lies inside the memory. -/
def load (address count : Nat) : Option (List UInt8) :=
  if m.holds address count then some (m.data.slice address count) else none

/-- Puts bytes into a stretch, if it lies inside the memory. -/
def store (address : Nat) (bytes : List UInt8) : Option LinearMemory :=
  if m.holds address bytes.length then some { m with data := m.data.overlay address bytes }
  else none

/-- Adds pages, if there may be so many. -/
def grow (more : Nat) : Option LinearMemory :=
  if m.pages + more ≤ m.maxPages then
    some { m with data := m.data.resize ((m.pages + more) * pageSize) }
  else none

end LinearMemory

end EngineHost
