import EngineHost.Json.Reader
import EngineHost.Worker.Basic

/-!
# The worker behind lines of text

`serve` reads bytes line by line, gives each line that is not blank to a worker as a message, and
writes every response on a line of its own.  A line that is not JSON is answered in its place by an
error.  A line that is not UTF-8 ends the reading.
-/

namespace EngineHost

variable {σ : Type}

/-- Blanks and line ends of all scripts. -/
def isWhite (c : Char) : Bool :=
  let n := c.toNat
  (9 ≤ n && n ≤ 13) || n = 0x20 || n = 0x85 || n = 0xa0 || n = 0x1680 ||
    (0x2000 ≤ n && n ≤ 0x200a) || n = 0x2028 || n = 0x2029 || n = 0x202f || n = 0x205f || n = 0x3000

/-- The lines of a text, without the line feeds that end them; after the last line feed there is
another line only if anything is there. -/
def splitLines : List UInt8 → List (List UInt8)
  | [] => []
  | b :: rest =>
    if b = 0x0a then [] :: splitLines rest
    else
      match splitLines rest with
      | [] => [[b]]
      | line :: others => (b :: line) :: others

/-- A line without the carriage return before its line feed. -/
def stripReturn (line : List UInt8) : List UInt8 :=
  if line.getLast? = some 0x0d then line.dropLast else line

/-- The lines of an input, in which a carriage return before a line feed belongs to the line end. -/
def inputLines (input : List UInt8) : List (List UInt8) :=
  let lines := splitLines input
  if input.getLast? = some 0x0a then lines.map stripReturn
  else lines.dropLast.map stripReturn ++ lines.getLast?.toList

/-- What a line is for the worker: nothing when it is blank. -/
def Inbound.ofLine (line : String) : Option Inbound :=
  if line.toList.all isWhite then none
  else
    match Json.parse line with
    | .ok j => some (.message j)
    | .error refusal => some (.reply (.error none ("Invalid JSON: " ++ refusal.message)))

/-- The location of the module that a message asks for. -/
def Inbound.location? : Inbound → Option String
  | .message j =>
    match Request.parse j with
    | .ok (.load _ location) => some location
    | _ => none
  | .reply _ => none

/-- The inbound queue of some lines, as far as they are UTF-8, and whether all are. -/
def readLines : List (List UInt8) → List Inbound × Bool
  | [] => ([], true)
  | line :: rest =>
    match String.fromUTF8? ⟨line.toArray⟩ with
    | none => ([], false)
    | some text =>
      let (queue, complete) := readLines rest
      ((Inbound.ofLine text).toList ++ queue, complete)

/-- The paths of the modules that the messages of an input ask for. -/
def modulePaths (settings : Settings) (input : List UInt8) : List String :=
  ((readLines (inputLines input)).1.filterMap Inbound.location?).filterMap fun location =>
    match ModuleSource.resolve location settings.baseDir with
    | .ok (.file path) => some path
    | _ => none

/-- What came of serving an input. -/
structure Served where
  /-- The lines written, without their line feeds. -/
  output : List String
  /-- Whether the whole input was read. -/
  complete : Bool
  deriving DecidableEq, Repr

/-- Serves an input with a new worker. -/
def serve (P : Platform σ) (settings : Settings) (input : List UInt8) (s : σ) : Served × σ :=
  let (queue, complete) := readLines (inputLines input)
  let w : Worker P := queue.foldl (fun w x => w.post x) (.start settings)
  let (responses, s) := Worker.terminate (w, s)
  (⟨responses.map Response.toText, complete⟩, s)

/-- The words for an input that was not read to its end. -/
def readFailure : String := "failed to read input"

end EngineHost
