import EngineHost.Proofs.Text.Utf8
import EngineHost.Proofs.Worker.Interleaving
import EngineHost.Worker.Lines

/-!
# The lines of a text and their answers

A worker is served bytes, and lines are found in the bytes.  `textLines` says on characters what the
lines of a text are, and `lineAnswers` what one host answers to lines, one after another.

* `inputLines_utf8` : the lines found in the bytes of a text are the bytes of its lines.
* `readLines_utf8` : every one of them is read, and stands for at most one thing in the queue.
* `answers_ofLine` : what is answered to that queue are the answers to the lines.
* `lineAnswers_of_refused` : a line that is not JSON adds its own answer and changes no other.
* `textLines_unlines` : lines that are written are the lines of what was written.
-/

namespace EngineHost

variable {σ : Type} {P : Platform σ}

/-- What stands before a line feed, without a carriage return directly before the line feed. -/
def endedLine (cs : List Char) : List Char := if cs.getLast? = some '\r' then cs.dropLast else cs

/-- The lines of a text: what stands before each line feed, and what stands after the last one if
anything does. -/
def textLines (text : String) : List String :=
  let pieces := text.toList.splitOn '\n'
  (pieces.dropLast.map endedLine ++ pieces.getLast?.toList.filter (· ≠ [])).map String.ofList

example : textLines "a\r\n\nb\r" = ["a", "", "b\r"] := by decide

/-! ### In bytes -/

/-- Bytes up to the first line feed are the first line. -/
theorem splitLines_feed {line : List UInt8} (h : 0x0a ∉ line) (rest : List UInt8) :
    splitLines (line ++ 0x0a :: rest) = line :: splitLines rest := by
  induction line with
  | nil => rfl
  | cons b line ih =>
    rw [List.mem_cons, not_or] at h
    rw [List.cons_append, splitLines, if_neg (Ne.symm h.1), ih h.2]

/-- Bytes without a line feed are one line, if there are any. -/
theorem splitLines_last {line : List UInt8} (h : 0x0a ∉ line) :
    splitLines line = [line].filter (· ≠ []) := by
  induction line with
  | nil => rfl
  | cons b line ih =>
    rw [List.mem_cons, not_or] at h
    rw [splitLines, if_neg (Ne.symm h.1), ih h.2]
    cases line <;> rfl

theorem splitLines_flatMap {ended : List (List UInt8)} (h : ∀ line ∈ ended, 0x0a ∉ line)
    {last : List UInt8} (hlast : 0x0a ∉ last) :
    splitLines (ended.flatMap (· ++ [0x0a]) ++ last) = ended ++ [last].filter (· ≠ []) := by
  induction ended with
  | nil => exact splitLines_last hlast
  | cons line ended ih =>
    rw [List.flatMap_cons, List.append_assoc, List.append_assoc, List.singleton_append,
      splitLines_feed (h line List.mem_cons_self), List.cons_append,
      ih fun l hl => h l (List.mem_cons_of_mem line hl)]

/-- The lines of an input that is given piece by piece. -/
theorem inputLines_flatMap {ended : List (List UInt8)} (h : ∀ line ∈ ended, 0x0a ∉ line)
    {last : List UInt8} (hlast : 0x0a ∉ last) :
    inputLines (ended.flatMap (· ++ [0x0a]) ++ last) =
      ended.map stripReturn ++ [last].filter (· ≠ []) := by
  rw [inputLines, splitLines_flatMap h hlast]
  rcases List.eq_nil_or_concat last with rfl | ⟨front, b, rfl⟩
  · -- the input is empty or ends with a line feed
    rcases List.eq_nil_or_concat ended with rfl | ⟨front, line, rfl⟩
    · rfl
    · simp
  · have hb : b ≠ 0x0a := fun hb => hlast (by simp [hb])
    simp [hb]

/-! ### In characters -/

/-- The pieces of a text that is given piece by piece. -/
theorem splitOn_feeds {ended : List (List Char)} (h : ∀ piece ∈ ended, '\n' ∉ piece)
    {last : List Char} (hlast : '\n' ∉ last) :
    (ended.flatMap (· ++ ['\n']) ++ last).splitOn '\n' = ended ++ [last] := by
  have hfeed : ∀ {piece : List Char}, '\n' ∉ piece → ∀ c ∈ piece, (c == '\n') = false := by
    intro piece hpiece c hc
    exact beq_eq_false_iff_ne.2 fun heq => hpiece (heq ▸ hc)
  rw [List.splitOn_eq_splitOnP]
  induction ended with
  | nil => exact List.splitOnP_eq_singleton (hfeed hlast)
  | cons piece ended ih =>
    rw [List.forall_mem_cons] at h
    rw [List.flatMap_cons, List.append_assoc, List.append_assoc, List.singleton_append,
      List.splitOnP_append_cons_of_forall_mem (hfeed h.1) _ rfl, ih h.2, List.cons_append]

/-- A text is its pieces, each but the last before a line feed. -/
theorem exists_pieces (cs : List Char) :
    ∃ (ended : List (List Char)) (last : List Char), (∀ piece ∈ ended, '\n' ∉ piece) ∧
      '\n' ∉ last ∧ cs = ended.flatMap (· ++ ['\n']) ++ last := by
  induction cs with
  | nil => exact ⟨[], [], nofun, nofun, rfl⟩
  | cons c cs ih =>
    obtain ⟨ended, last, hended, hlast, rfl⟩ := ih
    by_cases hc : c = '\n'
    · exact ⟨[] :: ended, last, List.forall_mem_cons.2 ⟨nofun, hended⟩, hlast, by rw [hc]; rfl⟩
    · -- the character goes to the front of the first piece, which may be the last one too
      have hcons : ∀ {piece}, '\n' ∉ piece → '\n' ∉ c :: piece := fun hpiece hmem =>
        (List.mem_cons.1 hmem).elim (fun heq => hc heq.symm) hpiece
      cases ended with
      | nil => exact ⟨[], c :: last, nofun, hcons hlast, rfl⟩
      | cons piece ended =>
        rw [List.forall_mem_cons] at hended
        exact ⟨(c :: piece) :: ended, last,
          List.forall_mem_cons.2 ⟨hcons hended.1, hended.2⟩, hlast, rfl⟩

theorem newline_not_mem_utf8 {cs : List Char} (h : '\n' ∉ cs) : 0x0a ∉ utf8 cs :=
  mt (mem_utf8_iff (c := '\n') (by decide)).1 h

/-- A carriage return at the end of a line is one byte at the end of its bytes. -/
theorem stripReturn_utf8 (cs : List Char) : stripReturn (utf8 cs) = utf8 (endedLine cs) := by
  rcases List.eq_nil_or_concat cs with rfl | ⟨front, c, rfl⟩
  · rfl
  · have hone : utf8 [c] = String.utf8EncodeChar c := List.append_nil _
    rw [List.concat_eq_append, stripReturn, endedLine, utf8_append, hone, List.getLast?_concat]
    by_cases hc : c = '\r'
    · subst hc
      have hreturn : String.utf8EncodeChar '\r' = [0x0d] := by decide
      rw [if_pos rfl, hreturn, List.getLast?_concat, if_pos rfl, List.dropLast_concat,
        List.dropLast_concat]
    · have hlast : (utf8 front ++ String.utf8EncodeChar c).getLast? ≠ some 0x0d := by
        intro h
        rw [List.getLast?_append, List.getLast?_eq_some_getLast String.utf8EncodeChar_ne_nil,
          Option.some_or] at h
        have hmem : 0x0d ∈ String.utf8EncodeChar c := by
          rw [← Option.some.inj h]
          exact List.getLast_mem _
        exact hc (Char.toNat_inj.1 (toNat_eq_of_mem_utf8EncodeChar hmem (by decide)))
      rw [if_neg hlast, if_neg (mt Option.some.inj hc), utf8_append, hone]

theorem utf8_feeds (ended : List (List Char)) :
    utf8 (ended.flatMap (· ++ ['\n'])) = (ended.map utf8).flatMap (· ++ [0x0a]) := by
  have hfeed : utf8 ['\n'] = [0x0a] := by decide
  induction ended with
  | nil => rfl
  | cons piece ended ih =>
    rw [List.flatMap_cons, utf8_append, utf8_append, hfeed, ih, List.map_cons, List.flatMap_cons]

/-- **The lines found in the bytes of a text are the bytes of its lines.** -/
theorem inputLines_utf8 (text : String) :
    inputLines (utf8 text.toList) = (textLines text).map fun line => utf8 line.toList := by
  obtain ⟨ended, last, hended, hlast, htext⟩ := exists_pieces text.toList
  have hbytes : utf8 text.toList =
      (ended.map utf8).flatMap (· ++ [0x0a]) ++ utf8 last := by
    rw [htext, utf8_append, utf8_feeds]
  have hfeeds : ∀ line ∈ ended.map utf8, 0x0a ∉ line :=
    List.forall_mem_map.2 fun piece hpiece => newline_not_mem_utf8 (hended piece hpiece)
  have hlines : (ended.map utf8).map stripReturn = (ended.map endedLine).map utf8 := by
    rw [List.map_map, List.map_map]
    exact List.map_congr_left fun piece _ => stripReturn_utf8 piece
  have hfilter : [utf8 last].filter (· ≠ []) = ([last].filter (· ≠ [])).map utf8 := by
    cases last <;> simp [utf8_eq_nil_iff]
  rw [hbytes, inputLines_flatMap hfeeds (newline_not_mem_utf8 hlast), hlines, hfilter, textLines,
    htext, splitOn_feeds hended hlast]
  simp [Function.comp_def]

/-! ### What the lines stand for -/

/-- A line that is read is followed by the others. -/
theorem readLines_of_some {line : List UInt8} {text : String}
    (h : String.fromUTF8? ⟨line.toArray⟩ = some text) (rest : List (List UInt8)) :
    readLines (line :: rest) =
      ((Inbound.ofLine text).toList ++ (readLines rest).1, (readLines rest).2) := by
  rw [readLines, h]

theorem readLines_of_none {line : List UInt8} (h : String.fromUTF8? ⟨line.toArray⟩ = none)
    (rest : List (List UInt8)) : readLines (line :: rest) = ([], false) := by
  rw [readLines, h]

/-- **Every line of a text is read**, and stands for at most one thing in the queue. -/
theorem readLines_utf8 (lines : List String) :
    readLines (lines.map fun line => utf8 line.toList) =
      (lines.filterMap Inbound.ofLine, true) := by
  induction lines with
  | nil => rfl
  | cons line lines ih =>
    rw [List.map_cons, readLines_of_some (fromUTF8?_utf8 line.toList), ih, String.ofList_toList,
      List.filterMap_cons]
    cases Inbound.ofLine line <;> rfl

/-- Whether a line is blank. -/
def isBlank (line : String) : Bool := line.toList.all isWhite

/-- The response of a host to a line: none to a blank line, an error to a line that is not JSON, and
to any other line what the host answers to its value. -/
def lineAnswer (line : String) : HostM P (List Response)
  | w =>
    if isBlank line then ([], w)
    else
      match Json.parse line with
      | .ok j =>
        let (r, w) := Host.handle j w
        ([r], w)
      | .error refusal => ([.error none ("Invalid JSON: " ++ refusal.message)], w)

/-- The responses of one host to lines, one after another. -/
def lineAnswers : List String → HostM P (List Response)
  | [], w => ([], w)
  | line :: rest, w =>
    let (r, w) := lineAnswer line w
    let (rs, w) := lineAnswers rest w
    (r ++ rs, w)

theorem lineAnswers_cons (line : String) (rest : List String) (w : Host P × σ) :
    lineAnswers (line :: rest) w =
      ((lineAnswer line w).1 ++ (lineAnswers rest (lineAnswer line w).2).1,
        (lineAnswers rest (lineAnswer line w).2).2) := rfl

theorem lineAnswers_append (lines more : List String) (w : Host P × σ) :
    lineAnswers (lines ++ more) w =
      ((lineAnswers lines w).1 ++ (lineAnswers more (lineAnswers lines w).2).1,
        (lineAnswers more (lineAnswers lines w).2).2) := by
  induction lines generalizing w with
  | nil => rfl
  | cons line lines ih => rw [List.cons_append, lineAnswers_cons, ih, lineAnswers_cons,
      List.append_assoc]

/-- A line is answered as what it stands for in the queue. -/
theorem lineAnswer_ofLine (line : String) (w : Host P × σ) :
    Worker.answers (Inbound.ofLine line).toList w = lineAnswer line w := by
  rw [Inbound.ofLine, lineAnswer, isBlank]
  split_ifs with hblank
  · rfl
  · cases Json.parse line <;> rfl

/-- **What is answered to the queue of some lines are the answers to the lines.** -/
theorem answers_ofLine (lines : List String) (w : Host P × σ) :
    Worker.answers (lines.filterMap Inbound.ofLine) w = lineAnswers lines w := by
  induction lines generalizing w with
  | nil => rfl
  | cons line lines ih =>
    rw [lineAnswers_cons, ← lineAnswer_ofLine, List.filterMap_cons]
    cases Inbound.ofLine line with
    | none => exact ih w
    | some x => rw [Worker.answers_cons, ih, Option.toList_some, Worker.answers_cons]; rfl

/-- There is one answer to every line that is not blank. -/
theorem length_lineAnswers (lines : List String) (w : Host P × σ) :
    (lineAnswers lines w).1.length = lines.countP fun line => !isBlank line := by
  have hone : ∀ line (w : Host P × σ),
      (lineAnswer line w).1.length = if !isBlank line then 1 else 0 := by
    intro line w
    rw [lineAnswer]
    cases isBlank line with
    | true => rfl
    | false => cases Json.parse line <;> rfl
  induction lines generalizing w with
  | nil => rfl
  | cons line lines ih =>
    rw [lineAnswers_cons, List.length_append, hone, ih, List.countP_cons, Nat.add_comm]

/-- **A line that is not JSON adds its own answer** where it stands, and changes no other. -/
theorem lineAnswers_of_refused {line : String} {refusal : Json.Refusal}
    (hline : isBlank line = false) (hparse : Json.parse line = .error refusal)
    (before after : List String) (w : Host P × σ) :
    let first := lineAnswers before w
    let others := lineAnswers after first.2
    (lineAnswers (before ++ line :: after) w).1 =
        first.1 ++ .error none ("Invalid JSON: " ++ refusal.message) :: others.1 ∧
      (lineAnswers (before ++ after) w).1 = first.1 ++ others.1 := by
  intro first others
  have hown : lineAnswer line first.2 =
      ([.error none ("Invalid JSON: " ++ refusal.message)], first.2) := by
    rw [lineAnswer, hline, hparse]
    rfl
  rw [lineAnswers_append, lineAnswers_append, lineAnswers_cons, hown]
  exact ⟨rfl, rfl⟩

/-! ### Lines that are written -/

/-- Lines, each with a line feed after it. -/
def unlines (lines : List String) : String := String.join (lines.map (· ++ "\n"))

/-- **Lines that are written are the lines of what was written**, if they hold no line ends. -/
theorem textLines_unlines {lines : List String}
    (h : ∀ line ∈ lines, '\n' ∉ line.toList ∧ '\r' ∉ line.toList) :
    textLines (unlines lines) = lines := by
  have hfeeds : ∀ piece ∈ lines.map String.toList, '\n' ∉ piece :=
    List.forall_mem_map.2 fun line hline => (h line hline).1
  have htext : (unlines lines).toList = (lines.map String.toList).flatMap (· ++ ['\n']) ++ [] := by
    simp [unlines, String.toList_join, List.flatMap_map]
  have hended : ∀ line ∈ lines, endedLine line.toList = line.toList := by
    intro line hline
    exact if_neg fun hlast => (h line hline).2 (List.mem_of_getLast? hlast)
  rw [textLines, htext, splitOn_feeds hfeeds List.not_mem_nil]
  have hmap : (lines.map String.toList).map endedLine = lines.map String.toList := by
    rw [List.map_map]
    exact List.map_congr_left hended
  simp [hmap]

end EngineHost
