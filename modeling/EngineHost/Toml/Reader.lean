import EngineHost.Toml.Basic
import EngineHost.Toml.Lexeme

/-!
# Reading TOML

`Toml.parse` reads a document and answers the fields of its top table, or nothing when the text is
no TOML document.  Arrays and tables in lines nest less than `Toml.nestingLimit` deep, and a key has
fewer parts than that.
-/

namespace EngineHost

namespace Toml

/-- Nesting that is too deep. -/
def nestingLimit : Nat := 80

/-- A character of a key that is not quoted. -/
def isKeyChar (c : Char) : Bool := c.isAlphanum || c = '_' || c = '-'

/-- One part of a key. -/
def readKeyPart (cs : List Char) : Option (String × List Char) :=
  match cs with
  | '"' :: rest => readBasic (rest.length + 1) [] rest
  | '\'' :: rest => readLiteral rest
  | _ =>
    let part := cs.takeWhile isKeyChar
    if part.isEmpty then none else some (String.ofList part, cs.drop part.length)

/-- A key: its parts, between dots. -/
def readKeyParts : (bound : Nat) → (read : List String) → List Char →
    Option (List String × List Char)
  | 0, _, _ => none
  | bound + 1, read, cs => do
    let (part, rest) ← readKeyPart (skipSpaces cs)
    match skipSpaces rest with
    | '.' :: more => readKeyParts bound (part :: read) more
    | rest => pure ((part :: read).reverse, rest)

/-- A key as the path before its last part, and the last part. -/
def readKey (cs : List Char) : Option ((List String × String) × List Char) := do
  let (parts, rest) ← readKeyParts (cs.length + 1) [] cs
  let last ← parts.getLast?
  if parts.length < nestingLimit then pure ((parts.dropLast, last), rest) else none

/-- What reads a value. -/
abbrev ValueReader := List Char → Option (Node × List Char)

/-- The items of an array, up to and with the closing bracket. -/
def readItems (value : ValueReader) :
    (bound : Nat) → (read : List Node) → List Char → Option (List Node × List Char)
  | 0, _, _ => none
  | bound + 1, read, cs =>
    match skipLines (cs.length + 1) cs with
    | ']' :: rest => some (read.reverse, rest)
    | cs => do
      let (item, rest) ← value cs
      match skipLines (rest.length + 1) rest with
      | ',' :: rest => readItems value bound (item :: read) rest
      | ']' :: rest => pure ((item :: read).reverse, rest)
      | _ => none

/-- A key and its value. -/
def readPair (value : ValueReader) (cs : List Char) :
    Option ((List String × String × Node) × List Char) := do
  let ((path, key), rest) ← readKey cs
  let rest ← readChar '=' rest
  let (n, rest) ← value (skipSpaces rest)
  pure ((path, key, n), rest)

/-- The pairs of a table in one line, up to and with the closing brace. -/
def readPairs (value : ValueReader) :
    (bound : Nat) → Fields → List Char → Option (Fields × List Char)
  | 0, _, _ => none
  | bound + 1, fields, cs => do
    let ((path, key, n), rest) ← readPair value cs
    let fields ← assign path key n fields
    match skipSpaces rest with
    | ',' :: rest => readPairs value bound fields rest
    | '}' :: rest => pure (fields, rest)
    | _ => none

/-- A value that may nest `depth` deep. -/
def readValue : (depth : Nat) → ValueReader
  | depth, cs =>
    match cs with
    | '"' :: _ | '\'' :: _ => (readText cs).map fun (s, rest) => (.text s, rest)
    | '[' :: rest =>
      match depth with
      | 0 => none
      | depth + 1 => do
        let (items, rest) ← readItems (readValue depth) (rest.length + 1) [] rest
        pure (.array items, rest)
    | '{' :: rest =>
      match depth with
      | 0 => none
      | depth + 1 =>
        match skipSpaces rest with
        | '}' :: rest => some (.inline [], rest)
        | rest => do
          let (fields, rest) ← readPairs (readValue depth) (rest.length + 1) [] rest
          pure (.inline fields, rest)
    | _ =>
      let word := (readWord "true" cs).or (readWord "false" cs)
      (word.or (readScalar cs)).map fun rest => (.scalar, rest)

/-- The key of a header and the line end after it. -/
def readHeader (close : List Char) (cs : List Char) :
    Option ((List String × String) × List Char) := do
  let (key, rest) ← readKey cs
  if rest.take close.length = close then
    let rest ← endOfLine? (rest.drop close.length)
    pure (key, rest)
  else none

/-- A line that says something. -/
def readStatement (cs : List Char) : Option (Statement × List Char) := do
  match cs with
  | '[' :: '[' :: rest =>
    let ((path, key), rest) ← readHeader [']', ']'] rest
    pure (.entryHeader path key, rest)
  | '[' :: rest =>
    let ((path, key), rest) ← readHeader [']'] rest
    pure (.header path key, rest)
  | _ =>
    let ((path, key, n), rest) ← readPair (readValue (nestingLimit - 1)) cs
    let rest ← endOfLine? rest
    pure (.assign path key n, rest)

/-- The lines of a document. -/
def readStatements : (bound : Nat) → (read : List Statement) → List Char → Option (List Statement)
  | 0, _, _ => none
  | bound + 1, read, cs =>
    let cs := skipSpaces cs
    match cs with
    | [] => some read.reverse
    | c :: _ =>
      if c = '#' || c = '\n' || c = '\r' then do
        let rest ← endOfLine? cs
        readStatements bound read rest
      else do
        let (s, rest) ← readStatement cs
        readStatements bound (s :: read) rest

/-- The top table of a document. -/
def parse (text : String) : Option Fields := do
  let cs := match text.toList with
    | '\ufeff' :: rest => rest
    | cs => cs
  let lines ← readStatements (cs.length + 1) [] cs
  build lines

end Toml

end EngineHost
