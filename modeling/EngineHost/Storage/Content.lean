/-!
# File contents

`Content` is a sequence of bytes held as runs, where a run of zeros costs nothing whatever its
length.  Files and guest memories are contents.  The meaning of a content is the list of its bytes,
`Content.toList`; each operation is described by one equation about that list.
-/

namespace EngineHost

/-- A stretch of bytes. -/
inductive Run where
  | bytes (data : List UInt8)
  | zeros (count : Nat)
  deriving DecidableEq, Repr

namespace Run

/-- The bytes of a run. -/
def toList : Run → List UInt8
  | bytes data => data
  | zeros count => List.replicate count 0

/-- The number of bytes of a run. -/
def length : Run → Nat
  | bytes data => data.length
  | zeros count => count

/-- The first `n` bytes of a run. -/
def take (n : Nat) : Run → Run
  | bytes data => bytes (data.take n)
  | zeros count => zeros (min n count)

/-- A run without its first `n` bytes. -/
def drop (n : Nat) : Run → Run
  | bytes data => bytes (data.drop n)
  | zeros count => zeros (count - n)

@[simp] theorem length_toList (r : Run) : r.toList.length = r.length := by
  cases r <;> simp [toList, length]

@[simp] theorem toList_take (n : Nat) (r : Run) : (r.take n).toList = r.toList.take n := by
  cases r <;> simp [toList, take]

@[simp] theorem toList_drop (n : Nat) (r : Run) : (r.drop n).toList = r.toList.drop n := by
  cases r <;> simp [toList, drop]

end Run

/-- A sequence of bytes. -/
structure Content where
  runs : List Run
  deriving DecidableEq, Repr

namespace Content

/-- The bytes. -/
def toList (c : Content) : List UInt8 := c.runs.flatMap Run.toList

/-- The number of bytes. -/
def length (c : Content) : Nat := c.runs.foldr (fun run n => run.length + n) 0

/-- No bytes. -/
def empty : Content := ⟨[]⟩

instance : Inhabited Content := ⟨empty⟩

/-- The content of the given bytes. -/
def ofList (data : List UInt8) : Content := ⟨[.bytes data]⟩

/-- So many zeros. -/
def zeros (count : Nat) : Content := ⟨[.zeros count]⟩

/-- One content after another. -/
def append (c d : Content) : Content := ⟨c.runs ++ d.runs⟩

instance : Append Content := ⟨append⟩

/-- The first `n` bytes of a list of runs. -/
def takeRuns (n : Nat) : List Run → List Run
  | [] => []
  | r :: rest =>
    if n = 0 then []
    else if n ≤ r.length then [r.take n]
    else r :: takeRuns (n - r.length) rest

/-- A list of runs without its first `n` bytes. -/
def dropRuns (n : Nat) : List Run → List Run
  | [] => []
  | r :: rest =>
    if n = 0 then r :: rest
    else if n < r.length then r.drop n :: rest
    else dropRuns (n - r.length) rest

/-- The first `n` bytes. -/
def take (n : Nat) (c : Content) : Content := ⟨takeRuns n c.runs⟩

/-- All but the first `n` bytes. -/
def drop (n : Nat) (c : Content) : Content := ⟨dropRuns n c.runs⟩

/-- The bytes from `start` on, `count` at most. -/
def slice (c : Content) (start count : Nat) : List UInt8 := ((c.drop start).take count).toList

/-- Cuts to `n` bytes or fills up with zeros. -/
def resize (c : Content) (n : Nat) : Content :=
  if n ≤ c.length then c.take n else c ++ zeros (n - c.length)

/-- Lays `data` over the bytes from `start` on, which must be no further than the end. -/
def overlay (c : Content) (start : Nat) (data : List UInt8) : Content :=
  if data.isEmpty then c
  else c.take start ++ ofList data ++ c.drop (start + data.length)

@[simp] theorem toList_empty : empty.toList = [] := rfl

@[simp] theorem toList_ofList (data : List UInt8) : (ofList data).toList = data := by
  simp [ofList, toList, Run.toList]

@[simp] theorem toList_zeros (n : Nat) : (zeros n).toList = List.replicate n 0 := by
  simp [zeros, toList, Run.toList]

@[simp] theorem toList_append (c d : Content) : (c ++ d).toList = c.toList ++ d.toList := by
  change (append c d).toList = _
  simp [append, toList]

@[simp] theorem length_toList (c : Content) : c.toList.length = c.length := by
  obtain ⟨runs⟩ := c
  induction runs with
  | nil => rfl
  | cons r rest ih =>
    simp only [toList, length] at ih
    simp [toList, length, ih]

theorem toList_takeRuns (n : Nat) (rs : List Run) :
    (takeRuns n rs).flatMap Run.toList = (rs.flatMap Run.toList).take n := by
  induction rs generalizing n with
  | nil => simp [takeRuns]
  | cons r rest ih =>
    rw [takeRuns]
    split
    · simp [*]
    · split
      · rename_i h
        have : n - r.length = 0 := by omega
        simp [List.take_append, this]
      · rename_i h
        have : r.toList.take n = r.toList := by
          apply List.take_of_length_le
          rw [Run.length_toList]; omega
        simp [List.take_append, this, ih]

theorem toList_dropRuns (n : Nat) (rs : List Run) :
    (dropRuns n rs).flatMap Run.toList = (rs.flatMap Run.toList).drop n := by
  induction rs generalizing n with
  | nil => simp [dropRuns]
  | cons r rest ih =>
    rw [dropRuns]
    split
    · simp [*]
    · split
      · have : n - r.length = 0 := by omega
        simp [List.drop_append, this]
      · have : r.toList.drop n = [] := by
          apply List.drop_eq_nil_of_le
          rw [Run.length_toList]; omega
        simp [List.drop_append, this, ih]

@[simp] theorem toList_take (n : Nat) (c : Content) : (c.take n).toList = c.toList.take n :=
  toList_takeRuns n c.runs

@[simp] theorem toList_drop (n : Nat) (c : Content) : (c.drop n).toList = c.toList.drop n :=
  toList_dropRuns n c.runs

theorem slice_eq (c : Content) (start count : Nat) :
    c.slice start count = (c.toList.drop start).take count := by
  simp [slice]

theorem toList_resize (c : Content) (n : Nat) :
    (c.resize n).toList = c.toList.take n ++ List.replicate (n - c.length) 0 := by
  rw [resize]
  split
  · rename_i h
    simp [Nat.sub_eq_zero_of_le h]
  · rename_i h
    have : c.toList.take n = c.toList := by
      apply List.take_of_length_le
      rw [length_toList]; omega
    simp [this]

theorem toList_overlay (c : Content) (start : Nat) (data : List UInt8) :
    (c.overlay start data).toList =
      c.toList.take start ++ data ++ c.toList.drop (start + data.length) := by
  rw [overlay]
  split
  · rename_i hd
    have : data = [] := by simpa using hd
    simp [this]
  · simp

@[simp] theorem length_resize (c : Content) (n : Nat) : (c.resize n).length = n := by
  rw [← length_toList, toList_resize]
  simp only [List.length_append, List.length_take, length_toList, List.length_replicate]
  omega

theorem length_overlay {c : Content} {start : Nat} {data : List UInt8}
    (h : start + data.length ≤ c.length) : (c.overlay start data).length = c.length := by
  rw [← length_toList, toList_overlay]
  simp only [List.length_append, List.length_take, List.length_drop, length_toList]
  omega

end Content

end EngineHost
