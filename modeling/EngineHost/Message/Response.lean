import EngineHost.Json.Mismatch

/-!
# Responses

`Response` is what a worker says.  `Response.fields` are the fields of its wire form in their
order, the kind first; `Response.toText` is the wire form itself and `Response.toJson` the same as
a value, with the fields sorted.  `Response.ofJson` reads a response back, from an object or from
an array that starts with the kind.
-/

namespace EngineHost

/-- What a worker says. -/
inductive Response where
  /-- The worker has started. -/
  | ready
  /-- The module is loaded; tells whether there is storage. -/
  | initialized (hasStorage : Bool)
  /-- A message could not be acted on. -/
  | error (id : Option Json) (message : String)
  /-- The outcome of a call. -/
  | result (id : Option Json) (success : Bool) (value : Option Json) (reason : Option String)
  /-- The answer to a ping. -/
  | pong (id : Option Json)

namespace Response

/-- The kinds of responses, as written. -/
def kinds : List String := ["ready", "initialized", "error", "result", "pong"]

/-- The id of the request that a response answers. -/
def id? : Response → Option Json
  | ready => none
  | initialized _ => none
  | error id _ => id
  | result id .. => id
  | pong id => id

/-- A field that is left out when it has no value. -/
def field (key : String) (value : Option Json) : List (String × Json) :=
  match value with
  | some j => [(key, j)]
  | none => []

/-- The fields of the wire form. -/
def fields : Response → List (String × Json)
  | ready => [("type", .string "ready")]
  | initialized hasStorage => [("type", .string "initialized"), ("opfsAvailable", .bool hasStorage)]
  | error id message =>
    ("type", .string "error") :: field "id" id ++ [("message", .string message)]
  | result id success value reason =>
    ("type", .string "result") :: field "id" id ++ ("success", .bool success) ::
      field "result" value ++ field "error" (reason.map .string)
  | pong id => ("type", .string "pong") :: field "id" id

/-- A response as a value. -/
def toJson (r : Response) : Json := .ofFields r.fields

/-- The wire form of a response. -/
def toText (r : Response) : String := (Json.object r.fields).render

open Json

/-- A response of a kind, read from its fields by name. -/
def ofFields (kind : String) (fs : List (String × Json)) : Except Mismatch Response := do
  let id := present (field? "id" fs)
  match kind with
  | "ready" => pure ready
  | "initialized" =>
    let hasStorage ← requiredField asBool "opfsAvailable" (field? "opfsAvailable" fs)
    pure (initialized hasStorage)
  | "error" =>
    let message ← requiredField asText "message" (field? "message" fs)
    pure (error id message)
  | "result" =>
    let reason ← optionalField asText (field? "error" fs)
    let success ← requiredField asBool "success" (field? "success" fs)
    pure (result id success (present (field? "result" fs)) reason)
  | "pong" => pure (pong id)
  | _ => throw (.unknown kind kinds)

/-- Refuses items beyond the fields of a response. -/
def checkCount (count : Nat) (items : List Json) : Except Mismatch Unit :=
  if items.length ≤ count then .ok ()
  else
    let elements := if count = 1 then " element" else " elements"
    .error (.length items.length (toString count ++ elements ++ " in sequence"))

/-- A response of a kind, read from its fields in order. -/
def ofItems (kind : String) (items : List Json) : Except Mismatch Response := do
  let id := present items[0]?
  match kind with
  | "ready" =>
    checkCount 0 items
    pure ready
  | "initialized" =>
    let some j := items[0]?
      | throw (.length 0 "struct variant Response::Initialized with 1 element")
    let hasStorage ← asBool j
    checkCount 1 items
    pure (initialized hasStorage)
  | "error" =>
    let some j := items[1]? | throw (.length 1 "struct variant Response::Error with 2 elements")
    let message ← asText j
    checkCount 2 items
    pure (error id message)
  | "result" =>
    let some j := items[1]? | throw (.length 1 "struct variant Response::Result with 4 elements")
    let success ← asBool j
    let reason ← optionalField asText items[3]?
    checkCount 4 items
    pure (result id success (present items[2]?) reason)
  | "pong" =>
    checkCount 1 items
    pure (pong id)
  | _ => throw (.unknown kind kinds)

/-- The kind of a response. -/
def toKind : Json → Except Mismatch String
  | .string s => if s ∈ kinds then .ok s else .error (.unknown s kinds)
  | j => .error (.type j "variant identifier")

/-- Reads a response. -/
def ofJson : Json → Except Mismatch Response
  | .object fs => do
    let kind ← requiredField toKind "type" (field? "type" fs)
    ofFields kind fs
  | .array items => do
    let kind ← requiredField toKind "type" items.head?
    ofItems kind items.tail
  | j => .error (.type j "internally tagged enum Response")

end Response

end EngineHost
