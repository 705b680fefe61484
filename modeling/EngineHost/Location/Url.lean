import EngineHost.Location.Address
import EngineHost.Location.Domain
import EngineHost.Location.Percent

/-!
# Addresses

`Url.parse` reads an address of one of the schemes `http`, `https` and `file` in the way browsers
do: blanks around it and line breaks inside it are dropped, a backslash counts as a slash, the path
loses its `.` and `..` segments, and every part is percent-encoded where it must be.  `Url.render`
writes it in normal form.
-/

namespace EngineHost

/-- The schemes of addresses. -/
inductive Scheme where
  | http
  | https
  | file
  deriving DecidableEq, Repr

namespace Scheme

/-- The name of a scheme. -/
def name : Scheme → String
  | http => "http"
  | https => "https"
  | file => "file"

/-- The port that need not be written. -/
def defaultPort : Scheme → Option Nat
  | http => some 80
  | https => some 443
  | file => none

/-- The scheme of a name. -/
def ofName? (s : String) : Option Scheme := [http, https, file].find? fun scheme => scheme.name = s

end Scheme

/-- An address in normal form. -/
structure Url where
  scheme : Scheme
  /-- User name and password, encoded, with the colon between them. -/
  userinfo : String
  /-- The host, in the form it is written in; a file of this machine has none. -/
  host : Option String
  port : Option Nat
  /-- The path, which starts with `/`. -/
  path : String
  query : Option String
  fragment : Option String
  deriving DecidableEq, Repr

namespace Url

/-- The text of an address. -/
def render (u : Url) : String :=
  u.scheme.name ++ "://" ++ (if u.userinfo = "" then "" else u.userinfo ++ "@") ++
    u.host.getD "" ++ ((u.port.map fun n => ":" ++ toString n).getD "") ++ u.path ++
    ((u.query.map ("?" ++ ·)).getD "") ++ ((u.fragment.map ("#" ++ ·)).getD "")

/-! ### Cutting a text -/

/-- Whether a character is a separator in a path. -/
def isSlash (c : Char) : Bool := c = '/' || c = '\\'

/-- Whether a character ends a path. -/
def endsPath (c : Char) : Bool := c = '?' || c = '#'

/-- Whether a character ends what is before the path. -/
def endsAuthority (c : Char) : Bool := isSlash c || endsPath c

/-- The characters of a text that count: blanks and control characters at its ends do not, nor do
tabs and line breaks anywhere. -/
def relevant (s : String) : List Char :=
  let outer (c : Char) : Bool := c.toNat ≤ 0x20
  let inner := ((s.toList.dropWhile outer).reverse.dropWhile outer).reverse
  inner.filter fun c => c ≠ '\t' && c ≠ '\n' && c ≠ '\r'

/-- The name of the scheme, in lower case, and what is after its colon. -/
def cutScheme (cs : List Char) : Option (String × List Char) :=
  let isNameChar (c : Char) : Bool := c.isAlphanum || c = '+' || c = '-' || c = '.'
  let name := cs.takeWhile isNameChar
  match name, cs.drop name.length with
  | c :: _, ':' :: rest =>
    if c.isAlpha then some (String.ofList (name.map Char.toLower), rest) else none
  | _, _ => none

/-! ### Paths -/

/-- Whether a segment goes up. -/
def isDouble (segment : List Char) : Bool :=
  ["..", "%2e%2e", "%2e.", ".%2e"].contains (String.ofList (segment.map Char.toLower))

/-- Whether a segment stays. -/
def isSingle (segment : List Char) : Bool :=
  [".", "%2e"].contains (String.ofList (segment.map Char.toLower))

/-- Whether a segment is a drive: a letter and a colon or a bar. -/
def isDrive : List Char → Bool
  | [c, x] => c.isAlpha && (x = ':' || x = '|')
  | _ => false

/-- Whether a segment is a drive in normal form, with a colon. -/
def isColonDrive (segment : List Char) : Bool := isDrive segment && segment.getLast? = some ':'

/-- A path up to and with its last slash, and what is after that. -/
def cutLast (path : List Char) : List Char × List Char :=
  let last := (path.reverse.takeWhile (· ≠ '/')).reverse
  (path.take (path.length - last.length), last)

/-- Whether a path ends with a slash. -/
def endsWithSlash (path : List Char) : Bool := path.getLast? = some '/'

/-- A path without its last slash, unless that is the first one or stands after a drive. -/
def dropSlash (path : List Char) : List Char :=
  let (before, last) := cutLast path.dropLast
  if endsWithSlash path && !before.isEmpty && !isDrive last then path.dropLast else path

/-- A path without its last segment, unless that is the drive of a file. -/
def dropSegment (scheme : Scheme) (path : List Char) : List Char :=
  let (before, last) := cutLast path
  if scheme = .file && isColonDrive last then path else before

/-- The first segment of a file in normal form.  A drive has a colon, and what follows the colon of
a drive stands after a slash. -/
def normalizeFirst (segment : List Char) : List Char :=
  if isDrive segment then segment.take 1 ++ [':']
  else if isColonDrive (segment.take 2) then segment.take 2 ++ '/' :: segment.drop 2
  else segment

/-- A path with one more segment, which a slash follows or not. -/
def addSegment (scheme : Scheme) (path segment : List Char) (slash : Bool) : List Char :=
  if isDouble segment then
    let path := dropSegment scheme (dropSlash path)
    if slash && !endsWithSlash path then path ++ ['/'] else path
  else if isSingle segment then
    if endsWithSlash path then path else path ++ ['/']
  else
    let segment := if scheme = .file && path.length = 1 then normalizeFirst segment else segment
    path ++ segment ++ (if slash then ['/'] else [])

/-- Adds the segments of a text to a path, up to a query or fragment; answers what is left.  The
flag tells whether the first segment of a file was a drive. -/
def readPath (scheme : Scheme) :
    (bound : Nat) → (path : List Char) → List Char → List Char × List Char × Bool
  | 0, path, rest => (path, rest, false)
  | bound + 1, path, cs =>
    let raw := cs.takeWhile fun c => !endsAuthority c
    let segment := Percent.encode Percent.path raw
    let drive := scheme = .file && path.length = 1 && isDrive segment
    match cs.drop raw.length with
    | c :: rest =>
      if isSlash c then
        let (path, rest, later) := readPath scheme bound (addSegment scheme path segment true) rest
        (path, rest, drive || later)
      else (addSegment scheme path segment false, c :: rest, drive)
    | [] => (addSegment scheme path segment false, [], drive)

/-- The path of a file: exactly one slash at its front. -/
def normalizeFilePath (path : List Char) : List Char := '/' :: path.dropWhile (· = '/')

/-- The query and the fragment of what is after a path. -/
def readTail (cs : List Char) : Option String × Option String :=
  let fragment (cs : List Char) : Option String :=
    match cs with
    | '#' :: rest => some (String.ofList (Percent.encode Percent.fragment rest))
    | _ => none
  match cs with
  | '?' :: rest =>
    let query := rest.takeWhile (· ≠ '#')
    (some (String.ofList (Percent.encode Percent.query query)), fragment (rest.drop query.length))
  | cs => (none, fragment cs)

/-! ### Hosts -/

/-- Reads a host: an address of 128 bits in brackets, one of 32 bits, or a name. -/
def readHost (cs : List Char) : Option String :=
  match cs with
  | '[' :: rest =>
    if rest.getLast? = some ']' then
      (Address.readLong rest.dropLast).map fun groups => "[" ++ Address.showLong groups ++ "]"
    else none
  | _ => do
    let bytes := Percent.decode (cs.flatMap String.utf8EncodeChar)
    let text ← String.fromUTF8? ⟨bytes.toArray⟩
    let name ← Domain.toAscii text.toList
    if name.isEmpty then none
    else if Address.endsInNumber name then (Address.readShort name).map Address.showShort
    else pure (String.ofList name)

/-- The port after a host: none when it is left out or need not be written. -/
def readPort (scheme : Scheme) : List Char → Option (Option Nat)
  | ':' :: digits =>
    if digits.isEmpty then some none
    else do
      let n ← if digits.all Char.isDigit then Address.readBase 10 digits else none
      if n < 65536 then pure (if scheme.defaultPort = some n then none else some n) else none
  | [] => some none
  | _ => none

/-- A host and what is after it, at the first colon outside brackets. -/
def cutHost : (inBrackets : Bool) → List Char → List Char × List Char
  | _, [] => ([], [])
  | inBrackets, c :: rest =>
    if c = ':' && !inBrackets then ([], c :: rest)
    else
      let (host, port) := cutHost (c = '[' || (inBrackets && c ≠ ']')) rest
      (c :: host, port)

/-- User name and password in normal form. -/
def readUserinfo (cs : List Char) : String :=
  let name := cs.takeWhile (· ≠ ':')
  let encode (cs : List Char) : String := String.ofList (Percent.encode Percent.userinfo cs)
  match cs.drop name.length with
  | _ :: c :: password => encode name ++ ":" ++ encode (c :: password)
  | _ => encode name

/-- What is before the last `@`, if there is one, and what is after it. -/
def cutUserinfo (cs : List Char) : Option (List Char) × List Char :=
  if '@' ∈ cs then
    let after := (cs.reverse.takeWhile (· ≠ '@')).reverse
    (some (cs.take (cs.length - after.length - 1)), after)
  else (none, cs)

/-- An address of the web, after the colon of its scheme. -/
def readWeb (scheme : Scheme) (cs : List Char) : Option Url := do
  let cs := cs.dropWhile isSlash
  let authority := cs.takeWhile fun c => !endsAuthority c
  let rest := cs.drop authority.length
  let (userinfo, place) := cutUserinfo authority
  let (hostText, portText) := cutHost false place
  let host ← if hostText.isEmpty then none else readHost hostText
  let port ← readPort scheme portText
  let rest := match rest with
    | c :: more => if isSlash c then more else rest
    | [] => []
  let (path, rest, _) := readPath scheme (rest.length + 1) ['/'] rest
  let (query, fragment) := readTail rest
  pure ⟨scheme, (userinfo.map readUserinfo).getD "", some host, port, String.ofList path, query,
    fragment⟩

/-- A file without a host whose path goes on from a beginning. -/
def readLocal (start : List Char) (cs : List Char) : Url :=
  let (path, rest, _) := readPath .file (cs.length + 1) start cs
  let (query, fragment) := readTail rest
  ⟨.file, "", none, none, String.ofList (normalizeFilePath path), query, fragment⟩

/-- A file, after two slashes: perhaps a host, then a path. -/
def readHosted (cs : List Char) : Option Url := do
  let hostText := cs.takeWhile fun c => !endsAuthority c
  if isDrive hostText || hostText.isEmpty then pure (readLocal ['/'] cs)
  else
    let host ← readHost hostText
    let rest := cs.drop hostText.length
    if host = "localhost" then pure (readLocal ['/'] rest)
    else
      let rest := match rest with
        | c :: more => if isSlash c then more else rest
        | [] => []
      let (path, rest, drive) := readPath .file (rest.length + 1) ['/'] rest
      let (query, fragment) := readTail rest
      pure ⟨.file, "", if drive then none else some host, none,
        String.ofList (normalizeFilePath path), query, fragment⟩

/-- A file, after the colon of its scheme. -/
def readFile : List Char → Option Url
  | a :: b :: rest =>
    if isSlash a && isSlash b then readHosted rest
    else if isSlash a then some (readLocal [] (a :: b :: rest))
    else some (readLocal ['/'] (a :: b :: rest))
  | cs => some (readLocal ['/'] cs)

/-- Reads an address of a known scheme. -/
def parse (s : String) : Option Url := do
  let (name, rest) ← cutScheme (relevant s)
  match ← Scheme.ofName? name with
  | .file => readFile rest
  | scheme => readWeb scheme rest

/-! ### Files -/

/-- Whether a path ends with a letter and a colon or a bar. -/
def endsWithDrive (bytes : List UInt8) : Bool :=
  match bytes.reverse with
  | x :: c :: _ :: _ => (x = 0x3a || x = 0x7c) && (Char.ofNat c.toNat).isAlpha
  | _ => false

/-- The bytes of the path on the disk that the address of a file names. -/
def toPathBytes (u : Url) : List UInt8 :=
  let bytes := Percent.decode (u.path.toList.flatMap String.utf8EncodeChar)
  if endsWithDrive bytes then bytes ++ [0x2f] else bytes

end Url

end EngineHost
