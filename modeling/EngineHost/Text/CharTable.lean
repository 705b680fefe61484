/-!
# Tables of characters

A table gives values to characters.  It is a sequence of runs: characters whose code points follow
one another, or every second one of them, and whose values are the same or go along with them.

In its lines the runs are separated by commas and stand in the order of their first characters.
Each begins with the distance from the first character of the run before, in hexadecimal.  A mark
and the number of characters follow if there is more than one: `=` when all have the same values,
`>` when their values go along with them, `/` when these are every second character and their
values go along with them.  Then come the values of the first character, each after a blank.
-/

namespace EngineHost

/-- Characters whose values are the same, or go along with them. -/
structure CharRun where
  /-- The first code point. -/
  start : Nat
  /-- The number of characters. -/
  count : Nat
  /-- The distance between two of them. -/
  step : Nat
  /-- Whether values go along with the characters. -/
  goesAlong : Bool
  /-- The values of the first character. -/
  values : List Nat
  deriving DecidableEq, Repr

namespace CharRun

/-- The values of a character of the run. -/
def valuesAt (r : CharRun) (code : Nat) : Option (List Nat) :=
  let distance := code - r.start
  if code < r.start || distance % r.step ≠ 0 || r.count ≤ distance / r.step then none
  else some (if r.goesAlong then r.values.map (· + distance) else r.values)

end CharRun

/-- Runs in the order of their first characters, none of which lies inside another run. -/
structure CharTable where
  runs : Array CharRun
  deriving Repr

namespace CharTable

/-! ### Reading the lines of a table -/

/-- The value of a hexadecimal digit in lower case. -/
def digitValue (c : Char) : Nat :=
  if c.isDigit then c.toNat - '0'.toNat else c.toNat - 'a'.toNat + 10

/-- A run whose characters are not all read yet. -/
structure Unfinished where
  /-- Where the run before starts. -/
  origin : Nat
  /-- The mark, when it has been read. -/
  mark : Option Char
  /-- The numbers read so far, the last one first. -/
  numbers : List Nat

/-- The run of a mark and numbers. -/
def Unfinished.run (u : Unfinished) : CharRun :=
  let (distance, count, values) := match u.mark, u.numbers.reverse with
    | none, distance :: values => (distance, 1, values)
    | some _, distance :: count :: values => (distance, count, values)
    | _, _ => (0, 0, [])
  ⟨u.origin + distance, count, if u.mark = some '/' then 2 else 1,
    u.mark = some '>' || u.mark = some '/', values⟩

/-- Takes in one character of the lines of a table. -/
def readChar (state : Array CharRun × Unfinished) (c : Char) : Array CharRun × Unfinished :=
  let (runs, u) := state
  if c = ',' then
    let run := u.run
    (runs.push run, ⟨run.start, none, [0]⟩)
  else if c = ' ' then (runs, { u with numbers := 0 :: u.numbers })
  else if c = '=' || c = '>' || c = '/' then (runs, ⟨u.origin, some c, 0 :: u.numbers⟩)
  else
    match u.numbers with
    | n :: rest => (runs, { u with numbers := (16 * n + digitValue c) :: rest })
    | [] => (runs, { u with numbers := [digitValue c] })

/-- The table that lines write. -/
def ofLines (lines : List String) : CharTable :=
  let (runs, u) := lines.foldl (fun state line => line.toList.foldl readChar state)
    (#[], ⟨0, none, [0]⟩)
  ⟨runs.push u.run⟩

/-! ### Looking up -/

/-- The number of runs before a bound that start at or before a code point, when the number lies
between two others. -/
def countBefore (t : CharTable) (code low high : Nat) : Nat :=
  if _h : low < high then
    let middle := (low + high) / 2
    match t.runs[middle]? with
    | some run =>
      if run.start ≤ code then t.countBefore code (middle + 1) high
      else t.countBefore code low middle
    | none => low
  else low
termination_by high - low

/-- The values of a character. -/
def values? (t : CharTable) (c : Char) : Option (List Nat) :=
  match t.countBefore c.toNat 0 t.runs.size with
  | 0 => none
  | n + 1 => (t.runs[n]?).bind fun run => run.valuesAt c.toNat

/-- The first value of a character, zero when it has none. -/
def valueD (t : CharTable) (c : Char) : Nat := ((t.values? c).bind List.head?).getD 0

/-- Whether a table has a character. -/
def contains (t : CharTable) (c : Char) : Bool := (t.values? c).isSome

end CharTable

end EngineHost
