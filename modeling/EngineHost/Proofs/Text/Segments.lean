import EngineHost.Storage.Path
import Mathlib.Data.List.DropRight

/-!
# Reading a path by its segments

A path reads as its segments: those before the last one are the parent directories, the last one
names the file, and separators before the first one change nothing.

* `segments_append_slash` : the segments on the two sides of a separator do not depend on each
  other.
* `StoragePath.parse_eq_none_iff`, `StoragePath.parse_eq_some_iff` : a path told by its segments.
-/

namespace EngineHost

/-- The pieces of a text are what the library splits it into. -/
theorem pieces_eq_splitOn (cs : List Char) : pieces cs = cs.splitOn '/' := by
  induction cs with
  | nil => rfl
  | cons c rest ih =>
    rw [pieces, List.splitOn_cons_eq_if_modifyHead, ih]
    by_cases hc : c = '/'
    · rw [if_pos hc, if_pos (by simpa using hc)]
    · rw [if_neg hc, if_neg (by simpa using hc)]
      cases hrest : rest.splitOn '/' with
      | nil => exact absurd hrest (List.splitOn_ne_nil '/' rest)
      | cons piece others => rfl

theorem slash_notMem_of_mem_pieces {cs piece : List Char} (h : piece ∈ pieces cs) :
    '/' ∉ piece := by
  induction cs generalizing piece with
  | nil =>
    obtain rfl := List.mem_singleton.1 h
    exact List.not_mem_nil
  | cons c rest ih =>
    rw [pieces] at h
    split at h
    · rcases List.mem_cons.1 h with rfl | h
      · exact List.not_mem_nil
      · exact ih h
    · next hc =>
      cases hrest : pieces rest with
      | nil => exact absurd hrest (pieces_ne_nil rest)
      | cons first others =>
        rw [hrest] at h ih
        rcases List.mem_cons.1 h with rfl | h
        · rw [List.mem_cons, not_or]
          exact ⟨Ne.symm hc, ih List.mem_cons_self⟩
        · exact ih (List.mem_cons_of_mem _ h)

/-- A separator in the middle keeps apart what is read of the two sides. -/
theorem segments_append_slash (cs ds : List Char) :
    segments (cs ++ '/' :: ds) = segments cs ++ segments ds := by
  simp only [segments, pieces_eq_splitOn, List.splitOn_append_cons_self, List.filter_append,
    List.map_append]

/-- A separator in front adds no segment. -/
theorem segments_slash (cs : List Char) : segments ('/' :: cs) = segments cs :=
  segments_append_slash [] cs

theorem segments_dropWhile (cs : List Char) :
    segments (cs.dropWhile (· = '/')) = segments cs := by
  induction cs with
  | nil => rfl
  | cons c rest ih =>
    by_cases hc : c = '/'
    · subst hc
      rw [List.dropWhile_cons_of_pos (by simp), ih, segments_slash]
    · rw [List.dropWhile_cons_of_neg (by simpa using hc)]

namespace StoragePath

variable {path : String} {p : StoragePath}

/-- A path without a segment names nothing. -/
theorem parse_eq_none_iff : parse path = none ↔ segments path.toList = [] := by
  simp only [parse, segments_dropWhile, Option.map_eq_none_iff, List.getLast?_eq_none_iff]

theorem parse_eq_some_iff :
    parse path = some p ↔ segments path.toList = p.parents ++ [p.fileName] ∧
      p.normalized = String.ofList (path.toList.dropWhile (· = '/')) := by
  obtain ⟨normalized, parents, fileName⟩ := p
  simp only [parse, segments_dropWhile, Option.map_eq_some_iff, mk.injEq]
  constructor
  · rintro ⟨last, hlast, rfl, rfl, rfl⟩
    obtain ⟨front, hfront⟩ := List.getLast?_eq_some_iff.1 hlast
    exact ⟨by rw [hfront, List.dropLast_concat], rfl⟩
  · rintro ⟨hsegments, rfl⟩
    refine ⟨fileName, ?_, rfl, ?_, rfl⟩
    · rw [hsegments, List.getLast?_concat]
    · rw [hsegments, List.dropLast_concat]

/-- The remembered form of a path reads like the path. -/
theorem parse_normalized (h : parse path = some p) : parse p.normalized = some p := by
  obtain ⟨fileName, hlast, rfl⟩ := Option.map_eq_some_iff.1 h
  rw [parse, String.toList_ofList, List.dropWhile_idempotent]
  exact Option.map_eq_some_iff.2 ⟨fileName, hlast, rfl⟩

end StoragePath

end EngineHost
