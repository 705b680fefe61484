import EngineHost.Json.Basic
import EngineHost.Text.Quoted

/-!
# Values of the wrong shape

A record is read from an object, by the names of its fields, or from an array of its fields in
order.  `Json.Mismatch` says what is wrong when a value has another shape.  The small readers here
take one field each; in a field that may be left out, `null` says the same as nothing.
-/

namespace EngineHost

namespace Json

/-- What is wrong with the shape of a value. -/
inductive Mismatch where
  /-- A value is of another type. -/
  | type (found : Json) (expected : String)
  /-- A field is missing. -/
  | missing (field : String)
  /-- An array has the wrong length. -/
  | length (found : Nat) (expected : String)
  /-- A name is none of the known ones. -/
  | unknown (found : String) (known : List String)

/-- The words for a value of an unexpected type. -/
def describe : Json → String
  | .null => "null"
  | .bool b => "boolean `" ++ (if b then "true" else "false") ++ "`"
  | .number (.int n fits) => "integer `" ++ (Number.int n fits).render ++ "`"
  | .number (.float x finite) => "floating point `" ++ (Number.float x finite).render ++ "`"
  | .string s => "string " ++ quoted s
  | .array _ => "sequence"
  | .object _ => "map"

/-- The words for a mismatch. -/
def Mismatch.message : Mismatch → String
  | type found expected => "invalid type: " ++ found.describe ++ ", expected " ++ expected
  | missing field => "missing field `" ++ field ++ "`"
  | length found expected => "invalid length " ++ toString found ++ ", expected " ++ expected
  | unknown found known =>
    "unknown variant `" ++ found ++ "`, expected one of " ++
      ", ".intercalate (known.map fun name => "`" ++ name ++ "`")

/-- More items in an array than its record has fields. -/
def Mismatch.tooLong (items : List Json) : Mismatch :=
  length items.length "fewer elements in array"

/-- A field that may be left out. -/
def present : Option Json → Option Json
  | some .null => none
  | j => j

/-- A text. -/
def asText : Json → Except Mismatch String
  | .string s => .ok s
  | j => .error (.type j "a string")

/-- A truth value. -/
def asBool : Json → Except Mismatch Bool
  | .bool b => .ok b
  | j => .error (.type j "a boolean")

/-- A list of values. -/
def asItems : Json → Except Mismatch (List Json)
  | .array items => .ok items
  | j => .error (.type j "a sequence")

/-- A field that may be left out, read when it is there. -/
def optionalField {α : Type} (read : Json → Except Mismatch α) (j : Option Json) :
    Except Mismatch (Option α) :=
  match present j with
  | none => .ok none
  | some j => (read j).map some

/-- A field that must be there. -/
def requiredField {α : Type} (read : Json → Except Mismatch α) (name : String) :
    Option Json → Except Mismatch α
  | none => .error (.missing name)
  | some j => read j

end Json

end EngineHost
