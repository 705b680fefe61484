import EngineHost.Proofs.Text.Segments
import Mathlib.Logic.Relation

/-!
# Paths and the names in them

A path is cut at its separators.  Pieces that are empty or `.` are blank, and the others are the
names that the path goes through, the last of them the file's.  Which names there are is all that
reading a path finds out, apart from the text that is remembered.

* `StoragePath.Blank` : a piece that says nothing.
* `StoragePath.Padded` : a path with one more blank piece, after a separator or at one of its ends.
* `StoragePath.eqvGen_padded_iff` : two texts have the same names exactly when blank pieces put in
  and taken out lead from one to the other.
* `StoragePath.parse_canonical` : what is read of a path, and from which other texts the same is
  read.

For `eqvGen_padded_iff` every path is led back to its names with a single separator between each
two of them, by induction on the pieces: a change behind a separator is a change of the whole path
(`Padded.behind`), so the rest of a path can be led back first.
-/

namespace EngineHost

namespace StoragePath

/-! ### Pieces and names -/

/-- A piece of a path that says nothing. -/
def Blank (piece : String) : Prop := piece = "" ∨ piece = "."

instance : DecidablePred Blank := fun piece =>
  inferInstanceAs (Decidable (piece = "" ∨ piece = "."))

/-- The directories of a path and its file. -/
def target (p : StoragePath) : List String × String := (p.parents, p.fileName)

variable {path path' name piece : String} {names : List String} {p : StoragePath}

theorem isBlankSegment_iff {cs : List Char} :
    isBlankSegment cs = true ↔ Blank (String.ofList cs) := by
  rw [isBlankSegment, Blank, Bool.or_eq_true, List.isEmpty_iff, beq_iff_eq,
    ← String.toList_inj, ← String.toList_inj, String.toList_ofList]
  rfl

/-- The names in a path are the pieces that are not blank. -/
theorem segments_eq_filter (path : String) : segments path.toList =
    ((path.split '/').toList.map String.Slice.copy).filter fun piece => ¬ Blank piece := by
  rw [String.toList_split_char, segments, pieces_eq_splitOn, List.filter_map]
  congr 1
  refine List.filter_congr fun cs _ => ?_
  rw [Bool.eq_iff_iff, Function.comp_apply, decide_eq_true_iff, ← isBlankSegment_iff]
  simp

/-- The pieces of a path, put together again, are the path. -/
theorem intercalate_split (path : String) :
    "/".intercalate ((path.split '/').toList.map String.Slice.copy) = path := by
  rw [← String.toList_inj, String.toList_intercalate, String.toList_split_char, List.map_map]
  have hmap : String.toList ∘ String.ofList = id := funext fun _ => String.toList_ofList
  rw [hmap, List.map_id]
  exact List.intercalate_splitOn '/'

theorem of_mem_segments {cs : List Char} (h : name ∈ segments cs) :
    ¬ Blank name ∧ '/' ∉ name.toList := by
  obtain ⟨piece, hpiece, rfl⟩ := List.mem_map.1 h
  obtain ⟨hmem, hblank⟩ := List.mem_filter.1 hpiece
  refine ⟨fun hname => ?_, ?_⟩
  · rw [isBlankSegment_iff.2 hname] at hblank
    cases hblank
  · rw [String.toList_ofList]
    exact slash_notMem_of_mem_pieces hmem

theorem segments_of_blank (h : Blank piece) : segments piece.toList = [] := by
  rcases h with rfl | rfl
  · rfl
  · rfl

/-! ### Blank pieces put in -/

/-- One more piece in a path that says nothing. -/
inductive Padded : String → String → Prop
  /-- A separator becomes two, with nothing or `.` between them. -/
  | between (front back : String) {blank : String} : Blank blank →
      Padded (front ++ "/" ++ back) (front ++ "/" ++ blank ++ "/" ++ back)
  /-- The path gets `/` or `./` in front. -/
  | first (path : String) {blank : String} : Blank blank → Padded path (blank ++ "/" ++ path)
  /-- The path gets `/` or `/.` at its end. -/
  | last (path : String) {blank : String} : Blank blank → Padded path (path ++ "/" ++ blank)

theorem segments_append (front back : String) :
    segments (front ++ "/" ++ back).toList = segments front.toList ++ segments back.toList := by
  rw [String.toList_append, String.toList_append, List.append_assoc]
  exact segments_append_slash front.toList back.toList

theorem Padded.segments_eq (h : Padded path path') :
    segments path.toList = segments path'.toList := by
  cases h with
  | between front back hblank =>
    rw [segments_append, segments_append, segments_append, segments_of_blank hblank,
      List.append_nil]
  | first _ hblank => rw [segments_append, segments_of_blank hblank, List.nil_append]
  | last _ hblank => rw [segments_append, segments_of_blank hblank, List.append_nil]

/-- What is put in behind a separator is put into the whole path. -/
theorem Padded.behind (h : Padded path path') (front : String) :
    Padded (front ++ "/" ++ path) (front ++ "/" ++ path') := by
  cases h with
  | between front' back hblank =>
    simpa only [String.append_assoc] using
      Padded.between (front ++ "/" ++ front') back hblank
  | first _ hblank =>
    simpa only [String.append_assoc] using Padded.between front path hblank
  | last _ hblank =>
    simpa only [String.append_assoc] using Padded.last (front ++ "/" ++ path) hblank

open Relation

theorem eqvGen_behind (h : EqvGen Padded path path') (front : String) :
    EqvGen Padded (front ++ "/" ++ path) (front ++ "/" ++ path') := by
  induction h with
  | rel _ _ h => exact .rel _ _ (h.behind front)
  | refl _ => exact .refl _
  | symm _ _ _ ih => exact ih.symm
  | trans _ _ _ _ _ ih ih' => exact ih.trans _ _ _ ih'

/-- A path of a single blank piece is led back to nothing.  No piece put into nothing makes it `.`,
so both are led to a third path. -/
theorem eqvGen_blank (h : Blank piece) : EqvGen Padded "" piece := by
  have hempty : EqvGen Padded "" ("" ++ "/" ++ piece) := .rel _ _ (.last "" h)
  have hpiece : EqvGen Padded piece ("" ++ "/" ++ piece) := .rel _ _ (.first piece (.inl rfl))
  exact hempty.trans _ _ _ hpiece.symm

/-- Pieces are led back to the names among them. -/
theorem eqvGen_intercalate (pieces : List String) :
    EqvGen Padded ("/".intercalate (pieces.filter fun piece => ¬ Blank piece))
      ("/".intercalate pieces) := by
  induction pieces with
  | nil => exact .refl _
  | cons piece pieces ih =>
    by_cases hpieces : pieces = []
    · subst hpieces
      by_cases hblank : Blank piece
      · rw [List.filter_cons_of_neg (by simpa using hblank), String.intercalate_singleton]
        exact eqvGen_blank hblank
      · rw [List.filter_cons_of_pos (by simpa using hblank)]
        exact .refl _
    · have hrest := eqvGen_behind ih piece
      rw [String.intercalate_cons_of_ne_nil hpieces]
      by_cases hblank : Blank piece
      · rw [List.filter_cons_of_neg (by simpa using hblank)]
        exact .trans _ _ _ (.rel _ _ (.first _ hblank)) hrest
      · rw [List.filter_cons_of_pos (by simpa using hblank)]
        by_cases hnames : (pieces.filter fun piece => ¬ Blank piece) = []
        · -- there is no further name, and the separator after this one goes as well
          rw [hnames] at hrest ⊢
          rw [String.intercalate_singleton]
          exact .trans _ _ _ (.rel _ _ (.last piece (.inl rfl))) hrest
        · rw [String.intercalate_cons_of_ne_nil hnames]
          exact hrest

/-- Every path is led back to its names. -/
theorem eqvGen_segments (path : String) :
    EqvGen Padded ("/".intercalate (segments path.toList)) path := by
  have h := eqvGen_intercalate ((path.split '/').toList.map String.Slice.copy)
  rwa [intercalate_split, ← segments_eq_filter] at h

/-- Blank pieces put in and taken out lead from each path to those with the same names, and to no
others. -/
theorem eqvGen_padded_iff :
    EqvGen Padded path path' ↔ segments path.toList = segments path'.toList := by
  constructor
  · intro h
    induction h with
    | rel _ _ h => exact h.segments_eq
    | refl _ => rfl
    | symm _ _ _ ih => exact ih.symm
    | trans _ _ _ _ _ ih ih' => exact ih.trans ih'
  · intro h
    have hpath := eqvGen_segments path
    rw [h] at hpath
    exact hpath.symm.trans _ _ _ (eqvGen_segments path')

/-! ### Reading -/

theorem parse_target_eq_iff : (parse path).map target = (parse path').map target ↔
    segments path.toList = segments path'.toList := by
  constructor
  · intro h
    cases hp : parse path with
    | none =>
      rw [hp, Option.map_none, eq_comm, Option.map_eq_none_iff] at h
      rw [parse_eq_none_iff.1 hp, parse_eq_none_iff.1 h]
    | some p =>
      rw [hp, Option.map_some, eq_comm, Option.map_eq_some_iff] at h
      obtain ⟨q, hq, htarget⟩ := h
      obtain ⟨hparents, hfileName⟩ := Prod.mk.inj htarget
      rw [(parse_eq_some_iff.1 hp).1, (parse_eq_some_iff.1 hq).1, hparents, hfileName]
  · intro h
    simp only [parse, segments_dropWhile, h, Option.map_map]
    rfl

/-- What is remembered of a path is its text without the separators in front. -/
theorem normalized_spec (h : parse path = some p) :
    (∃ n, path = String.ofList (List.replicate n '/') ++ p.normalized) ∧
      p.normalized.toList.head? ≠ some '/' := by
  have hnormalized := (parse_eq_some_iff.1 h).2
  constructor
  · have hfront : path.toList.takeWhile (· = '/') =
        List.replicate (path.toList.takeWhile (· = '/')).length '/' :=
      List.eq_replicate_of_mem fun c hc => by simpa using List.mem_takeWhile_imp hc
    refine ⟨(path.toList.takeWhile (· = '/')).length, ?_⟩
    calc path
        = String.ofList (path.toList.takeWhile (· = '/') ++ path.toList.dropWhile (· = '/')) := by
          rw [List.takeWhile_append_dropWhile, String.ofList_toList]
      _ = String.ofList (path.toList.takeWhile (· = '/')) ++ p.normalized := by
          rw [String.ofList_append, hnormalized]
      _ = _ := by rw [← hfront]
  · intro hhead
    have hnot := List.head?_dropWhile_not (· = '/') path.toList
    rw [hnormalized, String.toList_ofList] at hhead
    rw [hhead] at hnot
    exact absurd rfl (of_decide_eq_false hnot)

/-- Nothing is cut off in front of names that are put together. -/
theorem dropWhile_intercalate (h : ∀ name ∈ names, ¬ Blank name ∧ '/' ∉ name.toList) :
    ("/".intercalate names).toList.dropWhile (· = '/') = ("/".intercalate names).toList := by
  cases names with
  | nil => rfl
  | cons name names =>
    obtain ⟨hblank, hslash⟩ := h name List.mem_cons_self
    cases hname : name.toList with
    | nil => exact absurd (.inl (String.toList_eq_nil_iff.1 hname)) hblank
    | cons c rest =>
      rw [hname, List.mem_cons, not_or] at hslash
      rw [String.toList_intercalate, List.map_cons, hname, List.intercalate_cons_cons_left,
        List.dropWhile_cons_of_neg (by simpa using Ne.symm hslash.1)]

/-- The names of a path, put together, are read as the path, and remembered as they stand. -/
theorem parse_intercalate (path : String) :
    let joined := "/".intercalate (segments path.toList)
    parse joined = (parse path).map fun p => { p with normalized := joined } := by
  intro joined
  have hsegments : segments joined.toList = segments path.toList :=
    eqvGen_padded_iff.1 (eqvGen_segments path)
  have hnormalized : joined.toList.dropWhile (· = '/') = joined.toList :=
    dropWhile_intercalate fun _ => of_mem_segments
  simp only [parse, segments_dropWhile, hsegments, hnormalized, String.ofList_toList,
    Option.map_map]
  rfl

/-- **Reading a path finds the names in it.**  A path is read unless all its pieces are blank.  Then
its directories and its file are the other pieces in their order, and what is remembered of it is
the text without the separators in front, which reads like the path itself.  The names put together
with one separator between each two of them name the same directories and the same file.  So do all
the texts into which the path goes by putting in blank pieces, anywhere and any number of times, or
by taking them out again; no other text does. -/
theorem parse_canonical (path : String) :
    let pieces := (path.split '/').toList.map String.Slice.copy
    let names := pieces.filter fun piece => ¬ Blank piece
    let joined := "/".intercalate names
    (parse path = none ↔ ∀ piece ∈ pieces, Blank piece) ∧
      (∀ p, parse path = some p →
        p.parents ++ [p.fileName] = names ∧
        (∀ name ∈ names, name ≠ "" ∧ name ≠ "." ∧ '/' ∉ name.toList) ∧
        ((∃ n, path = String.ofList (List.replicate n '/') ++ p.normalized) ∧
          p.normalized.toList.head? ≠ some '/') ∧
        parse p.normalized = some p) ∧
      parse joined = (parse path).map (fun p => { p with normalized := joined }) ∧
      ∀ path', (parse path').map target = (parse path).map target ↔
        EqvGen Padded path path' := by
  intro pieces names joined
  have hnames : segments path.toList = names := segments_eq_filter path
  have hjoined : joined = "/".intercalate (segments path.toList) := by rw [hnames]
  refine ⟨?_, ?_, ?_, ?_⟩
  · rw [parse_eq_none_iff, hnames, List.filter_eq_nil_iff]
    simp only [decide_eq_true_eq, not_not]
  · intro p hp
    refine ⟨hnames ▸ (parse_eq_some_iff.1 hp).1.symm, fun name hname => ?_, normalized_spec hp,
      parse_normalized hp⟩
    obtain ⟨hblank, hslash⟩ := of_mem_segments (hnames ▸ hname)
    exact ⟨fun h => hblank (.inl h), fun h => hblank (.inr h), hslash⟩
  · rw [hjoined]
    exact parse_intercalate path
  · intro path'
    rw [parse_target_eq_iff, eqvGen_padded_iff, eq_comm]

/-- A path with blank pieces in front and between its names: it is remembered without the
separators in front, and reads like the path with a separator and a dot at its end. -/
theorem parse_canonical_dotted :
    let path := "//a//./b"
    parse path = some ⟨"a//./b", ["a"], "b"⟩ ∧ parse "a//./b" = some ⟨"a//./b", ["a"], "b"⟩ ∧
      (parse (path ++ "/" ++ ".")).map target = some (["a"], "b") := by
  intro path
  have hpath : parse path = some ⟨"a//./b", ["a"], "b"⟩ := by decide +kernel
  obtain ⟨-, hread, -, htarget⟩ := parse_canonical path
  obtain ⟨-, -, -, hagain⟩ := hread _ hpath
  refine ⟨hpath, hagain, ?_⟩
  rw [(htarget (path ++ "/" ++ ".")).2 (.rel _ _ (.last path (.inr rfl))), hpath]
  rfl

end StoragePath

end EngineHost
