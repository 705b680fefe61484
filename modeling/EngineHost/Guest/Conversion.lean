import EngineHost.Guest.Value
import EngineHost.Json.Basic
import EngineHost.Text.Quoted

/-!
# Arguments and results as JSON

`Value.ofArguments` turns the JSON arguments of a call into guest values of the parameter types, and
`Value.toResult` turns what the guest gives back into one JSON value.

An integer parameter takes a number of either sign whose bits fit the word, so that a pointer may
be given unsigned.  A word of 64 bits may also be given as a signed decimal text, and one of 32
bits as a truth value.
-/

namespace EngineHost

/-- Why a JSON value cannot be an argument of a type. -/
inductive ArgumentFault where
  /-- A number does not fit a word. -/
  | notInteger (n : Json.Number) (bits : Nat)
  /-- A text is no integer of 64 bits. -/
  | notDecimal (s : String)
  /-- An integer is expected. -/
  | expectedInteger (found : Json)
  /-- A number is expected. -/
  | expectedNumber (found : Json)
  /-- There is no JSON for values of the type. -/
  | unsupported (type : ValueType)

/-- The words for a fault. -/
def ArgumentFault.message : ArgumentFault → String
  | notInteger n bits => n.render ++ " is not a " ++ toString bits ++ "-bit integer"
  | notDecimal s => quoted s ++ " is not a 64-bit integer"
  | expectedInteger found => "expected an integer, got " ++ found.render
  | expectedNumber found => "expected a number, got " ++ found.render
  | unsupported type => "parameters of type " ++ type.name ++ " are not supported"

/-- Why JSON values cannot be the arguments of a call. -/
inductive ArgumentsFault where
  /-- There are too few or too many. -/
  | count (expected found : Nat)
  /-- One of them does not fit its parameter. -/
  | argument (index : Nat) (fault : ArgumentFault)

/-- The words for a fault. -/
def ArgumentsFault.message : ArgumentsFault → String
  | count expected found =>
    "expected " ++ toString expected ++ " arguments, got " ++ toString found
  | argument index fault => "argument " ++ toString index ++ ": " ++ fault.message

/-- Why a guest value has no JSON form. -/
inductive ResultFault where
  /-- There is no JSON for values of the type. -/
  | unsupported (type : ValueType)
  /-- A number is infinite or not a number. -/
  | notFinite (x : Binary64)
  deriving DecidableEq

/-- The words for a number that is not finite. -/
def notFiniteName (x : Binary64) : String :=
  match x.datum with
  | .infinite true => "-inf"
  | .infinite false => "inf"
  | _ => "NaN"

/-- The words for a fault. -/
def ResultFault.message : ResultFault → String
  | unsupported type => "results of type " ++ type.name ++ " are not supported"
  | notFinite x => notFiniteName x ++ " has no JSON representation"

/-- The number that decimal digits write. -/
def digitsToNat (cs : List Char) : Nat :=
  cs.foldl (fun n c => 10 * n + (c.toNat - '0'.toNat)) 0

/-- Reads an integer: an optional sign and one or more decimal digits. -/
def readDecimal (s : String) : Option Int :=
  let unsigned (cs : List Char) : Option Nat :=
    if cs.isEmpty || !cs.all Char.isDigit then none else some (digitsToNat cs)
  match s.toList with
  | '-' :: cs => (unsigned cs).map fun n => -(n : Int)
  | '+' :: cs => (unsigned cs).map fun n => (n : Int)
  | cs => (unsigned cs).map fun n => (n : Int)

/-- Whether an integer is a signed word of 64 bits. -/
def isSigned64 (n : Int) : Bool := -0x8000000000000000 ≤ n && n < 0x8000000000000000

namespace Value

/-- The number of a JSON number value. -/
def toNumber (j : Json) : Except ArgumentFault Json.Number :=
  match j with
  | .number n => .ok n
  | j => .error (.expectedNumber j)

/-- A JSON value as a guest value of a type. -/
def ofJson (type : ValueType) (j : Json) : Except ArgumentFault Value :=
  match type with
  | .i32 =>
    match j with
    | .number (.int n fits) =>
      if -0x80000000 ≤ n ∧ n < 0x100000000 then .ok (.i32 (Int32.ofInt n))
      else .error (.notInteger (.int n fits) 32)
    | .number n => .error (.notInteger n 32)
    | .bool b => .ok (.i32 (if b then 1 else 0))
    | j => .error (.expectedInteger j)
  | .i64 =>
    match j with
    | .number (.int n _) => .ok (.i64 (Int64.ofInt n))
    | .number n => .error (.notInteger n 64)
    | .string s =>
      match readDecimal s with
      | some n => if isSigned64 n then .ok (.i64 (Int64.ofInt n)) else .error (.notDecimal s)
      | none => .error (.notDecimal s)
    | j => .error (.expectedInteger j)
  | .f32 => (toNumber j).map fun n => .f32 (Binary32.narrow n.toBinary64)
  | .f64 => (toNumber j).map fun n => .f64 n.toBinary64
  | type => .error (.unsupported type)

/-- Values of the parameter types, from the one of an index on. -/
def ofJsons : (index : Nat) → List ValueType → List Json → Except ArgumentsFault (List Value)
  | index, type :: types, j :: js => do
    let v ← (ofJson type j).mapError (.argument index)
    let vs ← ofJsons (index + 1) types js
    pure (v :: vs)
  | _, _, _ => .ok []

/-- The arguments of a call as guest values. -/
def ofArguments (types : List ValueType) (args : List Json) :
    Except ArgumentsFault (List Value) :=
  if types.length = args.length then ofJsons 0 types args
  else .error (.count types.length args.length)

/-- A double-precision number as a JSON value. -/
def ofFinite (x : Binary64) : Except ResultFault Json :=
  match Json.Number.ofBinary64? x with
  | some n => .ok (.number n)
  | none => .error (.notFinite x)

/-- A guest value as a JSON value. -/
def toJson : Value → Except ResultFault Json
  | i32 n => .ok (.ofInt n.toInt)
  | i64 n => .ok (.ofInt n.toInt)
  | f32 x => ofFinite x.widen
  | f64 x => ofFinite x
  | v => .error (.unsupported v.type)

/-- JSON values, of which a single one stands for itself and none for `null`. -/
def gather : List Json → Json
  | [] => .null
  | [j] => j
  | js => .array js

/-- What a call gives back as one JSON value. -/
def toResult (results : List Value) : Except ResultFault Json :=
  (results.mapM toJson).map gather

end Value

end EngineHost
