/-!
# Segments of a path

`pieces` cuts a text at every `/`.  The pieces of a text, put together again with a `/` between
each two of them, are the text (`joinPieces_pieces`), and no piece holds a `/`.
-/

namespace EngineHost

/-- The pieces of a text between its separators; there is one more of them than separators. -/
def pieces : List Char → List (List Char)
  | [] => [[]]
  | c :: rest =>
    if c = '/' then [] :: pieces rest
    else
      match pieces rest with
      | [] => [[c]]
      | piece :: others => (c :: piece) :: others

/-- Pieces with a separator between each two of them. -/
def joinPieces : List (List Char) → List Char
  | [] => []
  | [piece] => piece
  | piece :: others => piece ++ '/' :: joinPieces others

theorem pieces_ne_nil (cs : List Char) : pieces cs ≠ [] := by
  cases cs with
  | nil => simp [pieces]
  | cons c rest => rw [pieces]; split <;> (try split) <;> simp

theorem joinPieces_pieces (cs : List Char) : joinPieces (pieces cs) = cs := by
  induction cs with
  | nil => rfl
  | cons c rest ih =>
    rw [pieces]
    split
    · rename_i h
      cases hp : pieces rest with
      | nil => exact absurd hp (pieces_ne_nil rest)
      | cons piece others => rw [hp] at ih; simp [joinPieces, ih, h]
    · cases hp : pieces rest with
      | nil => exact absurd hp (pieces_ne_nil rest)
      | cons piece others =>
        rw [hp] at ih
        cases others with
        | nil => simp_all [joinPieces]
        | cons => simp_all [joinPieces]

/-- Segments that say nothing: the empty one and `.`. -/
def isBlankSegment (piece : List Char) : Bool := piece.isEmpty || piece == ['.']

/-- The segments of a text that say something. -/
def segments (cs : List Char) : List String :=
  ((pieces cs).filter fun piece => !isBlankSegment piece).map String.ofList

end EngineHost
