import EngineHost.Host.World
import EngineHost.Proofs.Worker.Serving

/-!
# A line that cannot be read

When a line is not UTF-8, serving ends in the middle of its input.  It waits for the thread of the
worker, so that everything before the line is answered, but not for the writer, so that the answers
may not have been written when it returns.

* `Serving.Sound.output_of_returned` : what has been written then, and what has not.
* `Serving.Sound.exists_returned` : nothing need have been written.
* `Serving.run_unreadable` : both, for every input with such a line.
-/

namespace EngineHost

variable {σ : Type} {P : Platform σ}

/-- Lines are read up to the first one that is not UTF-8. -/
theorem readLines_broken {bad : List UInt8} (hbad : String.fromUTF8? ⟨bad.toArray⟩ = none)
    (lines : List String) (after : List (List UInt8)) :
    readLines ((lines.map fun line => utf8 line.toList) ++ bad :: after) =
      (lines.filterMap Inbound.ofLine, false) := by
  induction lines with
  | nil => exact readLines_of_none hbad after
  | cons line lines ih =>
    rw [List.map_cons, List.cons_append, readLines_of_some (fromUTF8?_utf8 line.toList), ih,
      String.ofList_toList, List.filterMap_cons]
    cases Inbound.ofLine line <;> rfl

namespace Serving

open Threaded (received)
open Worker (answers)

variable {settings : Settings} {s : σ} {lines : List (List UInt8)} {es : List WorkerEvent}
  {c c' : Serving P} {a : Actor}

/-- Only where there are no responses nothing is written. -/
theorem written_eq_empty_iff {rs : List Response} : written rs = "" ↔ rs = [] := by
  refine ⟨fun h => ?_, fun h => by rw [h]; rfl⟩
  have hlines := textLines_written rs
  rw [h] at hlines
  exact List.map_eq_nil_iff.1 hlines.symm

/-- How serving is about to end, or has ended. -/
def Reader.ending? : Reader → Option Ending
  | .joining how | .returned how => some how
  | .starting | .reading | .waiting => none

namespace Sound

/-- The worker refuses nothing, so that serving does not end for that. -/
theorem ending?_step (h : Sound settings s lines es c) (hstep : Step c a c')
    (hending : c.reader.ending? ≠ some .disconnected) :
    c'.reader.ending? ≠ some .disconnected := by
  cases hstep with
  | connect | unreadable | exhausted | joined | returned => nofun
  | refused _ _ _ _ hrefuse => exact absurd hrefuse h.faithful.not_refuse
  | failed hreader =>
    rw [hreader] at hending
    exact hending
  | skip | give | work | receive | write | hangUp => exact hending

/-- **What has been written, what the writer has and what waits for it are the answers** to what
was read, when serving has returned. -/
theorem output_of_returned (h : Sound settings s lines es c) {how : Ending}
    (hreader : c.reader = .returned how) :
    c.worker.stage = .ended ∧ c.output ++ written (c.writer.held ++ c.worker.worker.outbound) =
      written (.ready :: (answers (readLines lines).1 ((.new settings, s) : Host P × σ)).1) := by
  have hgiven := h.reader.given
  simp only [pending, hreader, List.append_nil] at hgiven
  have howner := h.reader.owner
  rw [hreader] at howner
  have hstage : c.worker.stage = .ended := h.faithful.joined howner
  refine ⟨hstage, ?_⟩
  have hsaid := h.faithful.said
  have hlook : c.worker.outlook.1 = [] := by simp [Threaded.outlook, hstage]
  rw [hlook, List.append_nil] at hsaid
  rw [← hgiven, ← hsaid, written_append, ← String.append_assoc, h.writer.written, ← written_append]

end Sound

/-- Serving does not end because the worker refuses something. -/
theorem ending?_run {input : List UInt8} {as : List Actor}
    (h : Trace Step (start P settings input s) as c) : c.reader.ending? ≠ some .disconnected := by
  induction h with
  | nil => nofun
  | snoc hrun hstep ih =>
    obtain ⟨es, hsound⟩ := sound_run hrun
    exact hsound.ending?_step hstep ih

/-- What others than the writer do is not seen in the output. -/
theorem output_of_ne_writer (hstep : Step c a c') (ha : a ≠ .writer) : c'.output = c.output := by
  cases hstep with
  | receive | write | hangUp => exact absurd rfl ha
  | connect | skip | give | refused | unreadable | exhausted | joined | failed | returned
  | work => rfl

/-- **Serving can return without a step of the writer**, if a line cannot be read. -/
theorem Sound.exists_returned (h : Sound settings s lines es c)
    (hbroken : (readLines lines).2 = false) :
    ∃ as c' how, Trace Step c as c' ∧ c'.reader = .returned how ∧ c'.output = c.output := by
  induction hleft : c.stepsLeft using Nat.strongRecOn generalizing es c with
  | ind n ih =>
    rcases h.reader_progress with ⟨how, hreturned⟩ | hwaiting | ⟨a, c₁, ha, hstep⟩
    · exact ⟨[], c, how, .nil c, hreturned, rfl⟩
    · -- the reader waits for the writer only after the last line
      have hgiven := congrArg Prod.snd h.reader.given
      simp [pending, hwaiting, hbroken] at hgiven
    · obtain ⟨es₁, hsound⟩ := h.step hstep
      obtain ⟨as, c', how, hrun, hreturned, houtput⟩ :=
        ih _ (hleft ▸ stepsLeft_step hstep) hsound rfl
      exact ⟨a :: as, c', how, .cons hstep hrun, hreturned,
        houtput.trans (output_of_ne_writer hstep ha)⟩

/-- **When a line cannot be read, what has been written is the beginning of the answers** to the
lines before it, however the reader, the worker and the writer interleave.

* The threads take a bounded number of steps, and go on until the reader returns.  It returns
  because of this line, and the worker has answered everything then.
* What is not written is what the writer holds and what waits for it.  So everything is written just
  when there is nothing of this kind, in particular when the writer has ended.
* A writer that has not ended can go on, but nobody waits for it. -/
theorem run_unreadable (settings : Settings) (s : σ) {input bad : List UInt8} {lines : List String}
    {after : List (List UInt8)}
    (hlines : inputLines input = (lines.map fun line => utf8 line.toList) ++ bad :: after)
    (hbad : String.fromUTF8? ⟨bad.toArray⟩ = none) :
    let responses := Response.ready :: (lineAnswers lines ((.new settings, s) : Host P × σ)).1
    (∀ as c, Trace Step (start P settings input s) as c →
      as.length ≤ 10 * (inputLines input).length + 12 ∧
      ((∃ how, c.reader = .returned how) ∨ ∃ a c', Step c a c') ∧
      ∀ how, c.reader = .returned how →
        how = .unreadable ∧ c.worker.stage = .ended ∧
        c.output ++ written (c.writer.held ++ c.worker.worker.outbound) = written responses ∧
        (c.output = written responses ↔ c.writer.held ++ c.worker.worker.outbound = []) ∧
        (c.writer = .ended → c.output = written responses) ∧
        (c.writer = .ended ∨ ∃ c', Step c .writer c')) ∧
    ∃ as c how, Trace Step (start P settings input s) as c ∧ c.reader = .returned how ∧
      c.output = "" := by
  intro responses
  have hread : readLines (inputLines input) = (lines.filterMap Inbound.ofLine, false) := by
    rw [hlines, readLines_broken hbad]
  refine ⟨fun as c hrun => ?_, (sound_start settings input s).exists_returned (by rw [hread])⟩
  obtain ⟨es, hsound⟩ := sound_run hrun
  refine ⟨?_, hsound.progress, fun how hreturned => ?_⟩
  · have hleft := stepsLeft_run hrun
    have hstart : (start P settings input s).stepsLeft = 10 * (inputLines input).length + 12 := by
      simp [stepsLeft, start, Threaded.spawn, Threaded.workLeft, Reader.stepsLeft,
        Writer.stepsLeft]
    omega
  · obtain ⟨hstage, houtput⟩ := hsound.output_of_returned hreturned
    rw [hread, answers_ofLine] at houtput
    have hall : c.output = written responses ↔ c.writer.held ++ c.worker.worker.outbound = [] := by
      rw [← houtput, eq_comm, String.append_eq_left_iff, written_eq_empty_iff]
    have hmade : c.writer ≠ .absent := fun habsent => by
      have hstarting := hsound.made.1 habsent
      rw [hreturned] at hstarting
      cases hstarting
    refine ⟨?_, hstage, houtput, hall, fun hended => hall.2 ?_, hsound.writer_progress hstage hmade⟩
    · have hcomplete := hsound.complete_iff hreturned
      have hrefused := ending?_run hrun
      rw [hread] at hcomplete
      rw [hreturned] at hrefused
      cases how with
      | complete => exact absurd (hcomplete.1 rfl) Bool.false_ne_true
      | unreadable => rfl
      | disconnected => exact absurd rfl hrefused
    · rw [hended, (hsound.writer.heard hended).2]
      rfl

/-- The line of a message that is answered at once. -/
def pingLine : String := "\x7b\"type\":\"ping\",\"id\":1\x7d"

/-- A message, and a line that is not UTF-8. -/
def brokenInput : List UInt8 := utf8 pingLine.toList ++ [0x0a, 0xff, 0x0a]

theorem inputLines_brokenInput :
    inputLines brokenInput = ([pingLine].map fun line => utf8 line.toList) ++ [0xff] :: [] := by
  decide +kernel

theorem fromUTF8?_broken : String.fromUTF8? ⟨#[0xff]⟩ = none := by decide +kernel

/-- A new host in an empty world. -/
def newHost : Host World.platform × World := (.new .standard, World.ofDisk (.blank []))

theorem run_unreadable_brokenInput :
    inputLines brokenInput = ([pingLine].map fun line => utf8 line.toList) ++ [0xff] :: [] ∧
    String.fromUTF8? ⟨#[0xff]⟩ = none ∧
    ∃ as c, Trace Step (start World.platform .standard brokenInput newHost.2) as c ∧
      c.reader = .returned .unreadable ∧ as.length ≤ 32 ∧
      written (c.writer.held ++ c.worker.worker.outbound) =
        written (.ready :: (lineAnswers [pingLine] newHost).1) := by
  obtain ⟨hruns, as, c, how, hrun, hreturned, hempty⟩ :=
    run_unreadable .standard newHost.2 inputLines_brokenInput fromUTF8?_broken
  obtain ⟨hsteps, -, hend⟩ := hruns as c hrun
  obtain ⟨rfl, -, houtput, -⟩ := hend how hreturned
  rw [hempty, String.empty_append] at houtput
  exact ⟨inputLines_brokenInput, fromUTF8?_broken, as, c, hrun, hreturned, hsteps, houtput⟩

/-- The answers to the lines before the one that cannot be read may be lost. -/
theorem run_unreadable_unwritten :
    ¬ ∀ as c,
      Trace Step (start World.platform .standard brokenInput newHost.2) as c →
        ∀ how, c.reader = .returned how → c.output =
          written (.ready :: (lineAnswers [pingLine] newHost).1) := by
  intro hclaim
  have hbroken : (readLines (inputLines brokenInput)).2 = false := by
    rw [inputLines_brokenInput, readLines_broken fromUTF8?_broken]
  obtain ⟨as, c, how, hrun, hreturned, hempty⟩ :=
    (sound_start .standard brokenInput newHost.2).exists_returned hbroken
  have hwritten := hclaim as c hrun how hreturned
  exact List.cons_ne_nil _ _ (written_eq_empty_iff.1 (hwritten.symm.trans hempty))

end Serving

end EngineHost
