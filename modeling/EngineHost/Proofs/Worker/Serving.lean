import EngineHost.Proofs.Json.Text
import EngineHost.Proofs.Worker.Lines
import EngineHost.Worker.Serving

/-!
# Serving answers line by line

However its three threads interleave, serving a text writes that the worker is ready and then one
line for every line of the text that is not blank: the answer of one host that is asked one line
after another.

* `Serving.Sound` : what the reader, the worker and the writer have in common.
* `Serving.Sound.step`, `Serving.sound_run` : every step keeps this, hence every run.
* `Serving.Sound.progress`, `Serving.stepsLeft_run` : serving goes on until it returns, and it does
  not go on forever.
* `Serving.serve_lines` : hence it returns, and what it has written then is settled by the text.

The reader and the writer meet only in the worker, so each has an invariant of its own, and a step
of one of them leaves that of the other as it is.
-/

namespace EngineHost

variable {σ : Type} {P : Platform σ}

namespace Threaded

variable {c c' : Threaded P}

/-- The thread hands out no receivers and takes none back. -/
theorem receivers_work (hstep : Step c .work c') : c'.receivers = c.receivers := by
  cases hstep <;> rfl

/-- The thread says one thing at a time. -/
theorem length_outbound_work (hstep : Step c .work c') :
    c'.worker.outbound.length ≤ c.worker.outbound.length + 1 := by
  cases hstep <;> simp [Worker.say, answer, stop]

end Threaded

namespace Serving

open Threaded (posted received posted_append received_append)
open Worker (answers)

/-! ### The reader -/

/-- What the reader has made of the owner of the worker. -/
def Reader.owner : Reader → Owner
  | .starting | .reading => .present
  | .joining _ => .leaving
  | .waiting | .returned _ => .gone

/-- What the reader will yet give to the worker, and whether it will have read the whole input. -/
def pending (c : Serving P) : List Inbound × Bool :=
  match c.reader with
  | .starting | .reading => readLines c.unread
  | .joining how | .returned how => ([], decide (how = .complete))
  | .waiting => ([], true)

variable {settings : Settings} {s : σ} {lines : List (List UInt8)} {es es' : List WorkerEvent}
  {c c' : Serving P} {a : Actor}

/-- The reader gives the worker what the lines stand for, and owns it until there are no more. -/
structure ReaderSound (lines : List (List UInt8)) (es : List WorkerEvent) (c : Serving P) :
    Prop where
  given : (posted es ++ c.pending.1, c.pending.2) = readLines lines
  owner : c.worker.owner = c.reader.owner

/-- A step that gives the worker nothing leaves what the reader will yet give. -/
theorem ReaderSound.frame (h : ReaderSound lines es c) (hposted : posted es' = [])
    (hpending : c'.pending = c.pending) (howner : c'.worker.owner = c'.reader.owner) :
    ReaderSound lines (es ++ es') c' where
  given := by
    rw [posted_append, hposted, List.append_nil, hpending]
    exact h.given
  owner := howner

/-! ### The writer -/

/-- How many receivers the writer has. -/
def Writer.receivers : Writer → Nat
  | .absent | .ended => 0
  | .receiving | .writing _ => 1

/-- What the writer has received and not written. -/
def Writer.held : Writer → List Response
  | .writing r => [r]
  | .absent | .receiving | .ended => []

/-- The text of responses, each on a line. -/
def written (rs : List Response) : String := String.join (rs.map Response.line)

theorem written_append (rs rs' : List Response) :
    written (rs ++ rs') = written rs ++ written rs' := by
  simp [written, String.join_append]

theorem written_concat (rs : List Response) (r : Response) :
    written (rs ++ [r]) = written rs ++ r.line := by
  simp [written, String.join_append]

/-- The writer writes what it receives, and ends only when there will be no more. -/
structure WriterSound (es : List WorkerEvent) (c : Serving P) : Prop where
  written : c.output ++ written c.writer.held = written (received es)
  receivers : c.worker.receivers = c.writer.receivers
  heard : c.writer = .ended → c.worker.stage = .ended ∧ c.worker.worker.outbound = []

/-- A step of another leaves what the writer has written and has to write. -/
theorem WriterSound.frame (h : WriterSound es c) (hreceived : received es' = [])
    (houtput : c'.output = c.output) (hwriter : c'.writer = c.writer)
    (hreceivers : c'.worker.receivers = c.worker.receivers)
    (hended : c.worker.stage = .ended → c'.worker.stage = .ended ∧
      c'.worker.worker.outbound = c.worker.worker.outbound) : WriterSound (es ++ es') c' where
  written := by
    rw [received_append, hreceived, List.append_nil, houtput, hwriter]
    exact h.written
  receivers := by
    rw [hreceivers, hwriter]
    exact h.receivers
  heard hnow := by
    obtain ⟨hstage, hout⟩ := h.heard (hwriter ▸ hnow)
    obtain ⟨hstage', hout'⟩ := hended hstage
    exact ⟨hstage', hout'.trans hout⟩

/-! ### Every step -/

/-- What the reader, the worker and the writer have in common: the worker has run, and showed the
reader and the writer what they know.  The writer is made when the reader starts to read, and the
reader does not return from a whole input before the writer has ended. -/
structure Sound (settings : Settings) (s : σ) (lines : List (List UInt8)) (es : List WorkerEvent)
    (c : Serving P) : Prop where
  run : Trace Threaded.Step (.spawn settings s) es c.worker
  reader : ReaderSound lines es c
  writer : WriterSound es c
  made : c.writer = .absent ↔ c.reader = .starting
  finished : c.reader = .returned .complete → c.writer = .ended

theorem sound_start (settings : Settings) (input : List UInt8) (s : σ) :
    Sound settings s (inputLines input) [] (start P settings input s) where
  run := .nil _
  reader := ⟨rfl, rfl⟩
  writer := ⟨rfl, rfl, nofun⟩
  made := ⟨fun _ => rfl, fun _ => rfl⟩
  finished h := nomatch h

namespace Sound

theorem faithful (h : Sound settings s lines es c) : Threaded.Faithful settings s es c.worker :=
  Threaded.faithful_run h.run

/-- A step of the reader, once it has made the writer, takes nothing from the worker. -/
theorem read (h : Sound settings s lines es c) {w : Threaded P} {unread : List (List UInt8)}
    {reader : Reader} (hrun : Trace Threaded.Step c.worker es' w) (hreceived : received es' = [])
    (hreceivers : w.receivers = c.worker.receivers)
    (hended : c.worker.stage = .ended → w.stage = .ended ∧
      w.worker.outbound = c.worker.worker.outbound)
    (hreader : ReaderSound lines (es ++ es')
      { c with worker := w, unread := unread, reader := reader })
    (hbefore : c.reader ≠ .starting) (hafter : reader ≠ .starting)
    (hfinished : reader = .returned .complete → c.writer = .ended) :
    Sound settings s lines (es ++ es')
      { c with worker := w, unread := unread, reader := reader } where
  run := h.run.append hrun
  reader := hreader
  writer := h.writer.frame hreceived rfl rfl hreceivers hended
  made := iff_of_false (mt h.made.1 hbefore) hafter
  finished := hfinished

theorem connect (h : Sound settings s lines es c) (hreader : c.reader = .starting)
    {w : Threaded P} (hshare : c.worker.Step .share w) :
    Sound settings s lines (es ++ [.share])
      { c with worker := w, reader := .reading, writer := .receiving } := by
  have habsent := h.made.2 hreader
  cases hshare with
  | share hreceiver =>
    refine ⟨h.run.snoc (.share hreceiver), ?_, ⟨?_, ?_, nofun⟩, ⟨nofun, nofun⟩, nofun⟩
    · have howner := h.reader.owner
      rw [hreader] at howner
      exact h.reader.frame rfl (by simp only [pending, hreader]) howner
    · rw [received_append]
      simpa [habsent, Writer.held, received] using h.writer.written
    · simp [h.writer.receivers, habsent, Writer.receivers]

/-- A line is taken, and the worker is given what it stands for. -/
theorem take (h : Sound settings s lines es c) (hreader : c.reader = .reading)
    {line : List UInt8} {rest : List (List UInt8)} {text : String}
    (hunread : c.unread = line :: rest)
    (htext : String.fromUTF8? ⟨line.toArray⟩ = some text) {w : Threaded P}
    (hrun : Trace Threaded.Step c.worker es' w)
    (hposted : posted es' = (Inbound.ofLine text).toList) (hreceived : received es' = [])
    (howner : w.owner = c.worker.owner) (hreceivers : w.receivers = c.worker.receivers)
    (hended : c.worker.stage = .ended → w.stage = .ended ∧
      w.worker.outbound = c.worker.worker.outbound) :
    Sound settings s lines (es ++ es') { c with worker := w, unread := rest } := by
  have hgiven := h.reader.given
  simp only [pending, hreader, hunread, readLines_of_some htext] at hgiven
  have hstarted : c.reader ≠ .starting := by rw [hreader]; nofun
  refine h.read hrun hreceived hreceivers hended ⟨?_, howner.trans h.reader.owner⟩ hstarted hstarted
    h.finished
  simp only [pending, hreader, posted_append, hposted, List.append_assoc]
  exact hgiven

/-- The reader gives the queue of the worker up when there is nothing more to give. -/
theorem leave (h : Sound settings s lines es c) (hreader : c.reader = .reading) {how : Ending}
    (hrest : readLines c.unread = ([], decide (how = .complete))) {w : Threaded P}
    (hleave : c.worker.Step .leave w) (unread : List (List UInt8)) :
    Sound settings s lines (es ++ [.leave])
      { c with worker := w, unread := unread, reader := .joining how } := by
  cases hleave with
  | leave howner =>
    refine h.read (.single (.leave howner)) rfl rfl (fun hstage => ⟨hstage, rfl⟩)
      (h.reader.frame rfl ?_ rfl) (by rw [hreader]; nofun) nofun nofun
    simp only [pending, hreader, hrest]

/-- The thread of the worker has ended, and the reader goes on. -/
theorem join (h : Sound settings s lines es c) {how : Ending} (hreader : c.reader = .joining how)
    {w : Threaded P} (hjoined : c.worker.Step .joined w) {reader : Reader}
    (hnext : reader = .waiting ∧ how = .complete ∨ reader = .returned how ∧ how ≠ .complete) :
    Sound settings s lines (es ++ [.joined]) { c with worker := w, reader := reader } := by
  have hstarted : c.reader ≠ .starting := by rw [hreader]; nofun
  cases hjoined with
  | joined howner hstage =>
    have hrun := Trace.single (Threaded.Step.joined howner hstage)
    rcases hnext with ⟨rfl, rfl⟩ | ⟨rfl, hhow⟩
    · refine h.read hrun rfl rfl (fun hended => ⟨hended, rfl⟩) (h.reader.frame rfl ?_ rfl) hstarted
        nofun nofun
      simp [pending, hreader]
    · refine h.read hrun rfl rfl (fun hended => ⟨hended, rfl⟩) (h.reader.frame rfl ?_ rfl) hstarted
        nofun fun hreturned => absurd (Reader.returned.inj hreturned) hhow
      simp only [pending, hreader]

/-- The worker does nothing that the reader or the writer would not know of. -/
theorem work (h : Sound settings s lines es c) {w : Threaded P} (hwork : c.worker.Step .work w) :
    Sound settings s lines (es ++ [.work]) { c with worker := w } where
  run := h.run.snoc hwork
  reader := by
    have hreceiver := h.faithful.hasReceiver (Threaded.there_of_work hwork)
    exact h.reader.frame rfl rfl ((Threaded.owner_work hwork hreceiver).1.trans h.reader.owner)
  -- a thread that works has not ended, so neither has the writer
  writer := h.writer.frame rfl rfl rfl (Threaded.receivers_work hwork) fun hstage =>
    absurd hstage (Threaded.there_of_work hwork)
  made := h.made
  finished := h.finished

/-- A step of the writer, once it was made, gives the worker nothing and leaves its owner. -/
theorem wrote (h : Sound settings s lines es c) {w : Threaded P} {writer : Writer} {output : String}
    (hrun : Trace Threaded.Step c.worker es' w) (hposted : posted es' = [])
    (howner : w.owner = c.worker.owner)
    (hwriter : WriterSound (es ++ es') { c with worker := w, writer := writer, output := output })
    (hbefore : c.writer ≠ .absent) (hafter : writer ≠ .absent)
    (hended : c.writer = .ended → writer = .ended) :
    Sound settings s lines (es ++ es')
      { c with worker := w, writer := writer, output := output } where
  run := h.run.append hrun
  reader := h.reader.frame hposted rfl (howner.trans h.reader.owner)
  writer := hwriter
  made := iff_of_false hafter (mt h.made.2 hbefore)
  finished hreturned := hended (h.finished hreturned)

theorem receive (h : Sound settings s lines es c) (hwriter : c.writer = .receiving) {r : Response}
    {w : Threaded P} (hreceive : c.worker.Step (.receive r) w) :
    Sound settings s lines (es ++ [.receive r]) { c with worker := w, writer := .writing r } := by
  have hwritten := h.writer.written
  have hreceivers := h.writer.receivers
  rw [hwriter] at hwritten hreceivers
  cases hreceive with
  | receive hreceiver hout =>
    refine h.wrote (.single (.receive hreceiver hout)) rfl rfl ⟨?_, hreceivers, nofun⟩
      (by rw [hwriter]; nofun) nofun (by rw [hwriter]; nofun)
    have hheld : c.output = Serving.written (received es) := by
      simpa [Writer.held, Serving.written] using hwritten
    rw [received_append]
    exact hheld ▸ (written_concat (received es) r).symm

theorem write (h : Sound settings s lines es c) {r : Response} (hwriter : c.writer = .writing r) :
    Sound settings s lines es { c with writer := .receiving, output := c.output ++ r.line } := by
  have hwritten := h.writer.written
  have hreceivers := h.writer.receivers
  rw [hwriter] at hwritten hreceivers
  -- the worker sees nothing of this
  rw [← List.append_nil es]
  refine h.wrote (.nil _) rfl rfl ⟨?_, hreceivers, nofun⟩ (by rw [hwriter]; nofun) nofun
    (by rw [hwriter]; nofun)
  simpa [Writer.held, Serving.written] using hwritten

theorem hangUp (h : Sound settings s lines es c) (hwriter : c.writer = .receiving)
    {w w' : Threaded P} (hdisconnected : c.worker.Step .disconnected w)
    (hunshare : w.Step .unshare w') :
    Sound settings s lines (es ++ [.disconnected, .unshare])
      { c with worker := w', writer := .ended } := by
  have hwritten := h.writer.written
  have hreceivers := h.writer.receivers
  rw [hwriter] at hwritten hreceivers
  cases hdisconnected with
  | disconnected hreceiver hout hstage =>
    cases hunshare with
    | unshare hpos =>
      have hrun := Trace.cons (Threaded.Step.disconnected hreceiver hout hstage)
        (.single (.unshare hpos))
      refine h.wrote hrun rfl rfl ⟨?_, ?_, fun _ => ⟨hstage, hout⟩⟩ (by rw [hwriter]; nofun) nofun
        fun _ => rfl
      · rw [received_append]
        simpa [Writer.held, received] using hwritten
      · rw [hreceivers]; rfl

/-- **Every step keeps what the three have in common.** -/
theorem step (h : Sound settings s lines es c) (hstep : Step c a c') :
    ∃ es', Sound settings s lines es' c' := by
  cases hstep with
  | connect hreader hshare => exact ⟨_, h.connect hreader hshare⟩
  | skip hreader hunread htext hblank =>
    exact ⟨_, h.take hreader hunread htext (.nil _) (by rw [hblank]; rfl) rfl rfl rfl
      fun hstage => ⟨hstage, rfl⟩⟩
  | give hreader hunread htext hline hgive =>
    cases hgive with
    | post _ howner hstage =>
      exact ⟨_, h.take hreader hunread htext (.single (.post _ howner hstage)) (by rw [hline]; rfl)
        rfl rfl rfl fun hstage => ⟨hstage, rfl⟩⟩
  | refused _ _ _ _ hrefuse =>
    -- the thread stays for as long as the reader may give it something
    exact absurd hrefuse h.faithful.not_refuse
  | unreadable hreader hunread htext hleave =>
    exact ⟨_, h.leave hreader (by rw [hunread, readLines_of_none htext]; rfl) hleave _⟩
  | exhausted hreader hunread hleave =>
    exact ⟨_, h.leave hreader (by rw [hunread]; rfl) hleave _⟩
  | joined hreader hjoined => exact ⟨_, h.join hreader hjoined (.inl ⟨rfl, rfl⟩)⟩
  | failed hreader hhow hjoined => exact ⟨_, h.join hreader hjoined (.inr ⟨rfl, hhow⟩)⟩
  | returned hreader hwriter =>
    have howner := h.reader.owner
    rw [hreader] at howner
    refine ⟨_, h.read (.nil _) rfl rfl (fun hstage => ⟨hstage, rfl⟩)
      (h.reader.frame rfl ?_ howner) (by rw [hreader]; nofun) nofun fun _ => hwriter⟩
    simp [pending, hreader]
  | work hwork => exact ⟨_, h.work hwork⟩
  | receive hwriter hreceive => exact ⟨_, h.receive hwriter hreceive⟩
  | write hwriter => exact ⟨_, h.write hwriter⟩
  | hangUp hwriter hdisconnected hunshare => exact ⟨_, h.hangUp hwriter hdisconnected hunshare⟩

end Sound

/-- **Every run keeps what the three have in common.** -/
theorem sound_run {input : List UInt8} {as : List Actor}
    (h : Trace Step (start P settings input s) as c) :
    ∃ es, Sound settings s (inputLines input) es c := by
  induction h with
  | nil => exact ⟨[], sound_start settings input s⟩
  | snoc _ hstep ih =>
    obtain ⟨es, hsound⟩ := ih
    exact hsound.step hstep

/-! ### Until it returns -/

namespace Sound

/-- The writer has something to do, until it has ended, once the thread of the worker has. -/
theorem writer_progress (h : Sound settings s lines es c) (hstage : c.worker.stage = .ended)
    (hmade : c.writer ≠ .absent) : c.writer = .ended ∨ ∃ c', Step c .writer c' := by
  cases hwriter : c.writer with
  | absent => exact absurd hwriter hmade
  | ended => exact .inl rfl
  | writing r => exact .inr ⟨_, .write hwriter⟩
  | receiving =>
    have hpos : 0 < c.worker.receivers := by
      rw [h.writer.receivers, hwriter]
      exact Nat.one_pos
    cases hout : c.worker.worker.outbound with
    | nil =>
      exact .inr ⟨_, .hangUp hwriter (.disconnected (.inr hpos) hout hstage) (.unshare hpos)⟩
    | cons r rest => exact .inr ⟨_, .receive hwriter (.receive (.inr hpos) hout)⟩

/-- Until it returns, serving goes on without the writer, unless the reader waits for it. -/
theorem reader_progress (h : Sound settings s lines es c) :
    (∃ how, c.reader = .returned how) ∨ c.reader = .waiting ∨
      ∃ a c', a ≠ .writer ∧ Step c a c' := by
  have howner := h.reader.owner
  cases hreader : c.reader with
  | returned how => exact .inl ⟨how, rfl⟩
  | waiting => exact .inr (.inl rfl)
  | starting =>
    rw [hreader] at howner
    have hreceiver : c.worker.HasReceiver := .inl (by rw [howner]; nofun)
    exact .inr (.inr ⟨.reader, _, nofun, .connect hreader (.share hreceiver)⟩)
  | reading =>
    rw [hreader] at howner
    refine .inr (.inr ⟨.reader, ?_⟩)
    cases hunread : c.unread with
    | nil => exact ⟨_, nofun, .exhausted hreader hunread (.leave howner)⟩
    | cons line rest =>
      cases htext : String.fromUTF8? ⟨line.toArray⟩ with
      | none => exact ⟨_, nofun, .unreadable hreader hunread htext (.leave howner)⟩
      | some text =>
        cases hline : Inbound.ofLine text with
        | none => exact ⟨_, nofun, .skip hreader hunread htext hline⟩
        | some x =>
          have hthere : c.worker.stage ≠ .ended := fun hstage => h.faithful.owned hstage howner
          exact ⟨_, nofun, .give hreader hunread htext hline (.post x howner hthere)⟩
  | joining how =>
    rw [hreader] at howner
    rcases h.faithful.work_or_wait with hended | ⟨hpresent, -⟩ | ⟨w, hwork⟩
    · by_cases hhow : how = .complete
      · subst hhow
        exact .inr (.inr ⟨.reader, _, nofun, .joined hreader (.joined howner hended)⟩)
      · exact .inr (.inr ⟨.reader, _, nofun, .failed hreader hhow (.joined howner hended)⟩)
    · rw [howner] at hpresent
      nomatch hpresent
    · exact .inr (.inr ⟨.worker, _, nofun, .work hwork⟩)

/-- **Serving goes on until it returns.** -/
theorem progress (h : Sound settings s lines es c) :
    (∃ how, c.reader = .returned how) ∨ ∃ a c', Step c a c' := by
  rcases h.reader_progress with hreturned | hreader | ⟨a, c', -, hstep⟩
  · exact .inl hreturned
  · have howner := h.reader.owner
    rw [hreader] at howner
    have hmade : c.writer ≠ .absent := fun habsent => by
      have hstarting := h.made.1 habsent
      rw [hreader] at hstarting
      nomatch hstarting
    rcases h.writer_progress (h.faithful.joined howner) hmade with hwriter | ⟨c', hstep⟩
    · exact .inr ⟨_, _, .returned hreader hwriter⟩
    · exact .inr ⟨_, c', hstep⟩
  · exact .inr ⟨a, c', hstep⟩

/-- Serving returns from a whole input if every line of it can be read. -/
theorem complete_iff (h : Sound settings s lines es c) {how : Ending}
    (hreader : c.reader = .returned how) : how = .complete ↔ (readLines lines).2 = true := by
  have hgiven := h.reader.given
  simp only [pending, hreader] at hgiven
  rw [← hgiven, decide_eq_true_iff]

/-- When it has returned from a whole input, everything is written. -/
theorem output_of_complete (h : Sound settings s lines es c)
    (hreader : c.reader = .returned .complete) :
    c.output =
      written (.ready :: (answers (readLines lines).1 ((.new settings, s) : Host P × σ)).1) := by
  have hgiven := h.reader.given
  simp only [pending, hreader, List.append_nil] at hgiven
  have hwriter := h.finished hreader
  obtain ⟨hstage, hout⟩ := h.writer.heard hwriter
  have hsaid := h.faithful.said
  have hlook : c.worker.outlook.1 = [] := by simp [Threaded.outlook, hstage]
  rw [hout, hlook, List.append_nil, List.append_nil] at hsaid
  have hwritten := h.writer.written
  rw [hwriter] at hwritten
  rw [← hgiven, ← hsaid, ← hwritten]
  exact String.append_empty.symm

end Sound

/-- A bound on the steps of the reader about anything but lines. -/
def Reader.stepsLeft : Reader → Nat
  | .starting => 6
  | .reading => 4
  | .joining _ => 3
  | .waiting => 2
  | .returned _ => 0

/-- What the writer has left to do about what it has received. -/
def Writer.stepsLeft : Writer → Nat
  | .absent | .ended => 0
  | .receiving => 1
  | .writing _ => 2

/-- A bound on the steps that are left.  A line is one step of the reader and stands for three
pieces of work, and each piece leaves at most one response, which is two steps of the writer. -/
def stepsLeft (c : Serving P) : Nat :=
  10 * c.unread.length + 3 * c.worker.workLeft + 2 * c.worker.worker.outbound.length +
    c.reader.stepsLeft + c.writer.stepsLeft

/-- A step that is taken is not left. -/
theorem stepsLeft_step (hstep : Step c a c') : c'.stepsLeft < c.stepsLeft := by
  cases hstep with
  | connect hreader hshare =>
    cases hshare
    simp only [stepsLeft, hreader, Reader.stepsLeft, Writer.stepsLeft, Threaded.workLeft]
    omega
  | skip hreader hunread =>
    simp only [stepsLeft, hunread, List.length_cons]
    omega
  | give hreader hunread _ _ hgive =>
    cases hgive
    simp only [stepsLeft, hunread, List.length_cons, Threaded.workLeft, Worker.post,
      List.length_append, List.length_nil]
    omega
  | refused hreader hunread _ _ hrefuse hleave =>
    cases hrefuse
    cases hleave
    simp only [stepsLeft, hreader, hunread, List.length_cons, Reader.stepsLeft, Threaded.workLeft]
    omega
  | unreadable hreader hunread _ hleave =>
    cases hleave
    simp only [stepsLeft, hreader, hunread, List.length_cons, Reader.stepsLeft, Threaded.workLeft]
    omega
  | exhausted hreader hunread hleave =>
    cases hleave
    simp only [stepsLeft, hreader, Reader.stepsLeft, Threaded.workLeft]
    omega
  | joined hreader hjoined | failed hreader _ hjoined =>
    cases hjoined
    simp only [stepsLeft, hreader, Reader.stepsLeft, Threaded.workLeft]
    omega
  | returned hreader =>
    simp only [stepsLeft, hreader, Reader.stepsLeft]
    omega
  | work hwork =>
    have hleft := Threaded.workLeft_work hwork
    have hout := Threaded.length_outbound_work hwork
    simp only [stepsLeft]
    omega
  | receive hwriter hreceive =>
    cases hreceive with
    | receive _ hout =>
      simp only [stepsLeft, hwriter, hout, List.length_cons, Writer.stepsLeft, Threaded.workLeft]
      omega
  | write hwriter =>
    simp only [stepsLeft, hwriter, Writer.stepsLeft]
    omega
  | hangUp hwriter hdisconnected hunshare =>
    cases hdisconnected
    cases hunshare
    simp only [stepsLeft, hwriter, Writer.stepsLeft, Threaded.workLeft]
    omega

/-- **Serving does not go on forever.** -/
theorem stepsLeft_run {as : List Actor} (h : Trace Step c as c') :
    as.length + c'.stepsLeft ≤ c.stepsLeft := by
  induction h with
  | nil => simp
  | snoc _ hstep ih =>
    have hlast := stepsLeft_step hstep
    rw [List.length_append, List.length_singleton]
    omega

/-! ### Texts -/

/-- What is written are lines, one for each response. -/
theorem textLines_written (rs : List Response) :
    textLines (written rs) = rs.map Response.toText := by
  have hunlines : written rs = unlines (rs.map Response.toText) := by
    rw [written, unlines, List.map_map]
    rfl
  rw [hunlines]
  refine textLines_unlines (List.forall_mem_map.2 fun r _ => ?_)
  exact ⟨r.plain_toText.not_mem (by decide), r.plain_toText.not_mem (by decide)⟩

/-- **Serving answers line by line**, whatever the lines of the text are and however the reader, the
worker and the writer interleave.

* Served in one go, or by three threads, a text is answered by the same lines: that the worker is
  ready, and the answers to its lines, one after another.  The threads take a bounded number of
  steps, go on until the reader returns, and then the whole text was read and exactly these lines
  were written.
* Each response is one line, and there is one for every line of the text that is not blank.
* A line that is not JSON adds an error without an identifier where it stands.  What stands before
  and after it is what is answered to the text without it. -/
theorem serve_lines (settings : Settings) (s : σ) (text : String) :
    let input := text.toUTF8.data.toList
    let lines := textLines text
    let w : Host P × σ := (.new settings, s)
    let responses := Response.ready :: (lineAnswers lines w).1
    ((serve P settings input s).1 = ⟨responses.map Response.toText, true⟩ ∧
      ∀ as c, Trace Step (start P settings input s) as c →
        as.length ≤ 10 * lines.length + 12 ∧
        ((∃ how, c.reader = .returned how) ∨ ∃ a c', Step c a c') ∧
        ∀ how, c.reader = .returned how →
          how = .complete ∧ c.output = String.join (responses.map Response.line)) ∧
    (textLines (String.join (responses.map Response.line)) = responses.map Response.toText ∧
      responses.length = 1 + lines.countP fun line => !isBlank line) ∧
    ∀ before line after refusal, lines = before ++ line :: after → isBlank line = false →
      Json.parse line = .error refusal →
      let first := lineAnswers before w
      let others := lineAnswers after first.2
      responses = .ready :: first.1 ++
          .error none ("Invalid JSON: " ++ refusal.message) :: others.1 ∧
        Response.ready :: (lineAnswers (before ++ after) w).1 = .ready :: first.1 ++ others.1 := by
  intro input lines w responses
  have hinput : inputLines input = lines.map fun line => utf8 line.toList := by
    rw [← inputLines_utf8, utf8_toList]
  have hread : readLines (inputLines input) = (lines.filterMap Inbound.ofLine, true) := by
    rw [hinput, readLines_utf8]
  have hresponses : responses = .ready :: (answers (readLines (inputLines input)).1 w).1 := by
    rw [hread, answers_ofLine]
  refine ⟨⟨?_, ?_⟩, ⟨textLines_written responses, ?_⟩, ?_⟩
  · rw [hresponses, serve, hread]
    dsimp only
    rw [Worker.terminate_eq]
  · intro as c hrun
    obtain ⟨es, hsound⟩ := sound_run hrun
    refine ⟨?_, hsound.progress, fun how hreturned => ?_⟩
    · have hleft := stepsLeft_run hrun
      have hstart : (start P settings input s).stepsLeft = 10 * lines.length + 12 := by
        simp [stepsLeft, start, hinput, Threaded.spawn, Threaded.workLeft, Reader.stepsLeft,
          Writer.stepsLeft]
      omega
    · obtain rfl := (hsound.complete_iff hreturned).2 (by rw [hread])
      rw [hresponses]
      exact ⟨rfl, hsound.output_of_complete hreturned⟩
  · rw [List.length_cons, length_lineAnswers, Nat.add_comm]
  · intro before line after refusal hlines hline hparse first others
    obtain ⟨hwith, hwithout⟩ := lineAnswers_of_refused hline hparse before after w
    rw [List.cons_append, List.cons_append, ← hwithout, ← hwith, ← hlines]
    exact ⟨rfl, rfl⟩

end Serving

end EngineHost
