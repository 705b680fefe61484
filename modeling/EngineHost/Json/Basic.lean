import EngineHost.Float.Shortest

/-!
# JSON values

`Json` is a JSON value.  Its numbers are integers that fit 64 bits, signed or unsigned, and finite
double-precision numbers; the two stay apart, so `1` and `1.0` are different values.  An object is
the list of its fields; `Json.ofFields` sorts them by key and keeps the last of a repeated key,
which is the form every value read from text has.  `Json.render` writes a value compactly, fields
in the order of the list.
-/

namespace EngineHost

/-- A JSON number. -/
inductive Json.Number where
  /-- An integer that fits a signed or an unsigned word of 64 bits. -/
  | int (value : Int) (fits : -0x8000000000000000 ≤ value ∧ value < 0x10000000000000000)
  /-- A finite double-precision number. -/
  | float (value : Binary64) (finite : value.isFinite = true)
  deriving DecidableEq

/-- A JSON value. -/
inductive Json where
  | null
  | bool (value : Bool)
  | number (value : Json.Number)
  | string (value : String)
  | array (items : List Json)
  | object (fields : List (String × Json))

namespace Json

instance : Inhabited Json := ⟨.null⟩

/-! ### Numbers -/

namespace Number

/-- The integer `n`, when it fits. -/
def ofInt? (n : Int) : Option Number :=
  if h : -0x8000000000000000 ≤ n ∧ n < 0x10000000000000000 then some (.int n h) else none

/-- A double-precision number, when it is finite. -/
def ofBinary64? (x : Binary64) : Option Number :=
  if h : x.isFinite = true then some (.float x h) else none

/-- The nearest double-precision number. -/
def toBinary64 : Number → Binary64
  | .int n _ => Binary64.ofInt n
  | .float x _ => x

/-- How the digits of a number are laid out: positionally from `0.00001` up to sixteen digits
before the point. -/
def layout : DecimalNotation := ⟨-5, 15⟩

/-- The text of a number.  A double-precision number shows a fraction or an exponent. -/
def render : Number → String
  | .int n _ => toString n
  | .float x _ =>
    match x.datum with
    | .finite negative significand exponent =>
      let sign := if negative then "-" else ""
      if significand = 0 then sign ++ "0.0"
      else sign ++ layout.text (Decimal.shortest Format.binary64 significand exponent)
    | _ => "null"

end Number

/-- The integer `n` as a value; `null` when it does not fit. -/
def ofInt (n : Int) : Json := ((Number.ofInt? n).map Json.number).getD .null

/-- A natural number as a value. -/
def ofNat (n : Nat) : Json := ofInt n

/-! ### Objects -/

/-- Puts a field in its place among fields sorted by key, replacing one of the same key. -/
def insertField (key : String) (value : Json) : List (String × Json) → List (String × Json)
  | [] => [(key, value)]
  | (k, v) :: rest =>
    if key < k then (key, value) :: (k, v) :: rest
    else if k < key then (k, v) :: insertField key value rest
    else (key, value) :: rest

/-- The object of the given fields; the last of a repeated key counts. -/
def ofFields (fields : List (String × Json)) : Json :=
  .object (fields.foldl (fun sorted (k, v) => insertField k v sorted) [])

/-- The value of a field. -/
def field? (key : String) : List (String × Json) → Option Json
  | [] => none
  | (k, v) :: rest => if k = key then some v else field? key rest

/-- The value under a key, when the value is an object. -/
def get? (j : Json) (key : String) : Option Json :=
  match j with
  | .object fields => field? key fields
  | _ => none

/-! ### Text -/

/-- The lower-case hexadecimal digits of `n`, padded with zeros. -/
def hexDigits (width n : Nat) : List Char :=
  let digits := Nat.toDigits 16 n
  List.replicate (width - digits.length) '0' ++ digits

/-- A character inside a quoted text: quotes, backslashes and control characters are escaped. -/
def escapeChar (c : Char) : List Char :=
  if c = '"' then ['\\', '"']
  else if c = '\\' then ['\\', '\\']
  else if c = '\n' then ['\\', 'n']
  else if c = '\r' then ['\\', 'r']
  else if c = '\t' then ['\\', 't']
  else if c = '\x08' then ['\\', 'b']
  else if c = '\x0c' then ['\\', 'f']
  else if c.toNat < 0x20 then '\\' :: 'u' :: hexDigits 4 c.toNat
  else [c]

/-- A text in quotes. -/
def quote (s : String) : String :=
  String.ofList ('"' :: s.toList.flatMap escapeChar ++ ['"'])

mutual

/-- The compact text of a value. -/
def render : Json → String
  | .null => "null"
  | .bool true => "true"
  | .bool false => "false"
  | .number n => n.render
  | .string s => quote s
  | .array items => "[" ++ String.intercalate "," (renderItems items) ++ "]"
  | .object fields => "\x7b" ++ String.intercalate "," (renderFields fields) ++ "\x7d"

/-- The texts of the items of an array. -/
def renderItems : List Json → List String
  | [] => []
  | j :: rest => render j :: renderItems rest

/-- The texts of the fields of an object. -/
def renderFields : List (String × Json) → List String
  | [] => []
  | (k, v) :: rest => (quote k ++ ":" ++ render v) :: renderFields rest

end

end Json

end EngineHost
