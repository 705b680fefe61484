/-!
# Statuses and open flags

What a bridge operation answers is one integer: a descriptor, a count, a size, a yes or no, or a
negative failure status.  The flags of an open request are the low five bits of a word.
-/

namespace EngineHost

namespace Status

/-- Done. -/
def ok : Int := 0

/-- Failure without a status of its own. -/
def error : Int := -1

/-- Reading or writing failed below. -/
def ioError : Int := -10

/-- The file cannot be opened. -/
def cannotOpen : Int := -14

/-- The file is there. -/
def present : Int := 1

/-- The file is not there. -/
def absent : Int := 0

/-- A count as a status of 32 bits; a greater one is cut to the greatest there is. -/
def ofCount (n : Nat) : Int := min n 0x7fffffff

/-- A size as a status of 64 bits; a greater one is cut to the greatest there is. -/
def ofSize (n : Nat) : Int := min n 0x7fffffffffffffff

end Status

/-- One flag of an open request. -/
inductive OpenFlag where
  | create
  | read
  | write
  | exclusive
  | truncate
  deriving DecidableEq, Repr

namespace OpenFlag

/-- All flags, from the lowest bit up. -/
def all : List OpenFlag := [create, read, write, exclusive, truncate]

/-- The place of a flag. -/
def bit : OpenFlag → UInt32
  | create => 1
  | read => 2
  | write => 4
  | exclusive => 8
  | truncate => 16

/-- The name of a flag. -/
def name : OpenFlag → String
  | create => "CREATE"
  | read => "READ"
  | write => "WRITE"
  | exclusive => "EXCLUSIVE"
  | truncate => "TRUNCATE"

end OpenFlag

/-- The flags of an open request. -/
structure OpenFlags where
  bits : UInt32
  deriving DecidableEq, Repr

namespace OpenFlags

/-- The flags in a word; its other bits mean nothing. -/
def ofWord (word : Int32) : OpenFlags := ⟨word.toUInt32 &&& 31⟩

/-- Whether a flag is set. -/
def has (f : OpenFlags) (flag : OpenFlag) : Bool := f.bits &&& flag.bit ≠ 0

/-- Whether every flag is set. -/
def isAll (f : OpenFlags) : Bool := OpenFlag.all.all f.has

/-- The names of the flags that are set, or that there are none. -/
def describe (f : OpenFlags) : String :=
  match OpenFlag.all.filter f.has with
  | [] => "(empty)"
  | flags => " | ".intercalate (flags.map OpenFlag.name)

end OpenFlags

end EngineHost
