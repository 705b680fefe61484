import EngineHost.Float.Format

/-!
# Guest values

The values that a module takes and gives, and their types.  Integers are signed words; a reference
is opaque to the host.
-/

namespace EngineHost

/-- The types of guest values. -/
inductive ValueType where
  | i32
  | i64
  | f32
  | f64
  | v128
  | externRef
  | funcRef
  deriving DecidableEq, Repr

/-- The name of a type. -/
def ValueType.name : ValueType → String
  | i32 => "I32"
  | i64 => "I64"
  | f32 => "F32"
  | f64 => "F64"
  | v128 => "V128"
  | externRef => "ExternRef"
  | funcRef => "FuncRef"

/-- A value that a module takes or gives. -/
inductive Value where
  | i32 (value : Int32)
  | i64 (value : Int64)
  | f32 (value : Binary32)
  | f64 (value : Binary64)
  | v128 (bits : BitVec 128)
  | externRef
  | funcRef
  deriving DecidableEq

/-- The type of a value. -/
def Value.type : Value → ValueType
  | i32 _ => .i32
  | i64 _ => .i64
  | f32 _ => .f32
  | f64 _ => .f64
  | v128 _ => .v128
  | externRef => .externRef
  | funcRef => .funcRef

end EngineHost
