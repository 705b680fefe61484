/-!
# TOML documents

`Toml.Node` is a value of a TOML document as far as settings need it: texts, arrays and tables are
told apart, and all numbers, truth values and dates are one.  Tables remember how they came to be,
since that decides whether more may be added to them; `Toml.alter` makes a change below a path and
obeys those rules.
-/

namespace EngineHost

namespace Toml

/-- A value in a document. -/
inductive Node where
  /-- A number, a truth value or a date. -/
  | scalar
  | text (value : String)
  | array (items : List Node)
  /-- A table written in one line, to which nothing can be added. -/
  | inline (fields : List (String × Node))
  /-- A table; `implicit` when no header names it, `dotted` when keys with dots made it. -/
  | table (implicit dotted : Bool) (fields : List (String × Node))
  /-- An array of tables, made by headers. -/
  | tables (entries : List (List (String × Node)))

/-- The fields of a table. -/
abbrev Fields := List (String × Node)

/-- A change to the fields of a table, told whether keys with dots made the table. -/
abbrev Change := (dotted : Bool) → Fields → Option Fields

/-- Puts a field in the place of one of the same key. -/
def replaceField (key : String) (n : Node) (fields : Fields) : Fields :=
  fields.map fun f => if f.1 = key then (key, n) else f

/-- Makes a change below a path of keys, for a key with dots or else for a header.  Missing tables
are made; keys with dots do not add to a table that a header names. -/
def alter (byKey : Bool) (f : Change) : List String → Change
  | [] => f
  | key :: path => fun _ fields =>
    match fields.lookup key with
    | none => do
      let sub ← alter byKey f path byKey []
      pure (fields ++ [(key, .table true byKey sub)])
    | some (.table implicit dotted sub) =>
      if byKey && !implicit then none
      else do
        let sub ← alter byKey f path dotted sub
        pure (replaceField key (.table implicit dotted sub) fields)
    | some (.tables entries) => do
      let sub ← alter byKey f path false (entries.getLast?.getD [])
      pure (replaceField key (.tables (entries.dropLast ++ [sub])) fields)
    | some _ => none

/-- Sets a key, which may have dots before its last part, in a table. -/
def assign (path : List String) (key : String) (value : Node) (fields : Fields) : Option Fields :=
  let set : Change := fun dotted fields =>
    if dotted = path.isEmpty || (fields.lookup key).isSome then none
    else some (fields ++ [(key, value)])
  alter true set path false fields

/-- A line of a document. -/
inductive Statement where
  /-- A key, split at its dots, and its value. -/
  | assign (path : List String) (key : String) (value : Node)
  /-- The header of a table. -/
  | header (path : List String) (key : String)
  /-- The header of a new entry of an array of tables. -/
  | entryHeader (path : List String) (key : String)

/-- The assignments at the start of some lines, made in a table, and the lines after them. -/
def fillTable : List Statement → Fields → Option (Fields × List Statement)
  | .assign path key value :: rest, fields => do
    let fields ← Toml.assign path key value fields
    fillTable rest fields
  | rest, fields => some (fields, rest)

/-- Adds the assignments after a header to its table, which no header may have named before. -/
def openTable (key : String) (body : Fields → Option Fields) : Change := fun _ fields =>
  match fields.lookup key with
  | none => do
    let sub ← body []
    pure (fields ++ [(key, .table false false sub)])
  | some (.table true false sub) => do
    let sub ← body sub
    pure (replaceField key (.table false false sub) fields)
  | some _ => none

/-- Adds the assignments after a header to a new entry of its array of tables. -/
def openEntry (key : String) (body : Fields → Option Fields) : Change := fun _ fields =>
  match fields.lookup key with
  | none => do
    let sub ← body []
    pure (fields ++ [(key, .tables [sub])])
  | some (.tables entries) => do
    let sub ← body []
    pure (replaceField key (.tables (entries ++ [sub])) fields)
  | some _ => none

/-- The lines of a document one by one, where a header takes the assignments after it along. -/
def buildFrom : List Statement → Fields → Option Fields
  | [], fields => some fields
  | .assign .. :: rest, fields => buildFrom rest fields
  | .header path key :: rest, fields => do
    let body := fun sub => (fillTable rest sub).map Prod.fst
    let fields ← alter false (openTable key body) path false fields
    buildFrom rest fields
  | .entryHeader path key :: rest, fields => do
    let body := fun sub => (fillTable rest sub).map Prod.fst
    let fields ← alter false (openEntry key body) path false fields
    buildFrom rest fields

/-- The top table of a document, unless its lines contradict each other. -/
def build (lines : List Statement) : Option Fields := do
  let (fields, rest) ← fillTable lines []
  buildFrom rest fields

end Toml

end EngineHost
