import EngineHost.Message.Response

/-!
# Requests

A message is an envelope of a type, an id and data.  `Request.parse` reads it as a `Request` or
tells in a `RequestError` what is wrong, together with as much of the envelope as an answer needs.
-/

namespace EngineHost

open Json

/-- What a worker is asked for. -/
inductive Request where
  /-- Load the module from a location. -/
  | load (id : Option Json) (location : String)
  /-- Call an export of the module. -/
  | call (id : Option Json) (function : String) (args : List Json)
  /-- Answer. -/
  | ping (id : Option Json)

namespace Request

/-- The id of a request. -/
def id? : Request → Option Json
  | load id _ => id
  | call id .. => id
  | ping id => id

end Request

/-- A message, opened but not read. -/
structure Envelope where
  type : Option Json
  id : Option Json
  data : Option Json

/-- Opens a message. -/
def Envelope.ofJson : Json → Except Mismatch Envelope
  | .object fs =>
    .ok ⟨present (field? "type" fs), present (field? "id" fs), present (field? "data" fs)⟩
  | .array items =>
    if items.length ≤ 3 then
      .ok ⟨present items[0]?, present items[1]?, present items[2]?⟩
    else .error (.tooLong items)
  | j => .error (.type j "struct Envelope")

/-- What is wrong with a message. -/
inductive RequestFault where
  /-- It is no envelope. -/
  | notEnvelope (m : Mismatch)
  /-- It has no type. -/
  | noType
  /-- Its type is not a text. -/
  | typeNotText (found : Json)
  /-- Its type is not known. -/
  | unknownType (name : String)
  /-- A load request has no data. -/
  | noLocation
  /-- The data of a load request has the wrong shape. -/
  | badLocation (m : Mismatch)
  /-- A call request has no data. -/
  | noFunction
  /-- The data of a call request has the wrong shape. -/
  | badCall (m : Mismatch)

/-- The words for a fault. -/
def RequestFault.message : RequestFault → String
  | notEnvelope m => "Invalid message: " ++ m.message
  | noType => "Unknown message type: undefined"
  | typeNotText found => "Unknown message type: " ++ found.render
  | unknownType name => "Unknown message type: " ++ name
  | noLocation => "Missing data.wasmUrl"
  | badLocation m => "Invalid initialize data: " ++ m.message
  | noFunction => "Missing data.functionName"
  | badCall m => "Invalid call data: " ++ m.message

/-- A message that is no request. -/
structure RequestError where
  id : Option Json
  /-- The type of the message, when it is a text. -/
  kind : Option String
  fault : RequestFault

namespace RequestError

/-- The words for an error. -/
def message (e : RequestError) : String := e.fault.message

/-- The response to a message that is no request; a call is answered by the outcome of a call. -/
def toResponse (e : RequestError) : Response :=
  match e.kind with
  | some "call" => .result e.id false none (some e.message)
  | _ => .error e.id e.message

end RequestError

namespace Request

/-- The location in the data of a load request. -/
def locationOf : Json → Except Mismatch String
  | .object fs => requiredField asText "wasmUrl" (field? "wasmUrl" fs)
  | .array [] => .error (.length 0 "struct InitializeData with 1 element")
  | .array (j :: rest) => do
    let location ← asText j
    if rest.isEmpty then pure location else throw (.tooLong (j :: rest))
  | j => .error (.type j "struct InitializeData")

/-- The function and arguments in the data of a call request. -/
def calleeOf : Json → Except Mismatch (String × List Json)
  | .object fs => do
    let args ← optionalField asItems (field? "args" fs)
    let function ← requiredField asText "functionName" (field? "functionName" fs)
    pure (function, args.getD [])
  | .array [] => .error (.length 0 "struct CallData with 2 elements")
  | .array (j :: rest) => do
    let function ← asText j
    let args ← optionalField asItems rest.head?
    if rest.length ≤ 1 then pure (function, args.getD []) else throw (.tooLong (j :: rest))
  | j => .error (.type j "struct CallData")

/-- The location of a load request. -/
def readLocation : Option Json → Except RequestFault String
  | none => .error .noLocation
  | some data => (locationOf data).mapError .badLocation

/-- The function and arguments of a call request. -/
def readCallee : Option Json → Except RequestFault (String × List Json)
  | none => .error .noFunction
  | some data => (calleeOf data).mapError .badCall

/-- Reads the request in an envelope of a known or unknown type. -/
def ofEnvelope (type : String) (id data : Option Json) : Except RequestFault Request :=
  match type with
  | "initialize" => (readLocation data).map (load id)
  | "call" => (readCallee data).map fun (function, args) => call id function args
  | "ping" => .ok (ping id)
  | name => .error (.unknownType name)

/-- Reads a message. -/
def parse (message : Json) : Except RequestError Request :=
  match Envelope.ofJson message with
  | .error m => .error ⟨none, none, .notEnvelope m⟩
  | .ok e =>
    match e.type with
    | none => .error ⟨e.id, none, .noType⟩
    | some (.string type) =>
      (ofEnvelope type e.id e.data).mapError fun fault => ⟨e.id, some type, fault⟩
    | some found => .error ⟨e.id, none, .typeNotText found⟩

end Request

end EngineHost
