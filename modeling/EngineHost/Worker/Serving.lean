import EngineHost.Worker.Lines
import EngineHost.Worker.Threaded

/-!
# Serving while it runs

`serve` has three threads, and `Serving.Step` lists what each of them does next.

* The reader makes the worker and starts the writer.  Then it takes line after line and gives the
  worker what the line stands for.  After the last line it ends the worker, waits for the thread of
  the worker and then for the writer, and returns.  When a line is not UTF-8, or the worker refuses
  what it is given, it drops the worker, which waits for the thread of the worker too, and returns
  without waiting for the writer.
* The thread of the worker works.
* The writer has a receiver of its own.  It receives response after response and writes each on a
  line, until it learns that there will be no more.

The threads can be made and the output takes whatever is written.
-/

namespace EngineHost

variable {σ : Type}

/-- The line on which a response is written. -/
def Response.line (r : Response) : String := r.toText ++ "\n"

/-- How serving ends. -/
inductive Serving.Ending where
  /-- The whole input was read. -/
  | complete
  /-- A line is not UTF-8. -/
  | unreadable
  /-- The worker refused something. -/
  | disconnected
  deriving DecidableEq, Repr

/-- What the thread is doing that serves. -/
inductive Serving.Reader where
  /-- It has made the worker, but not the writer. -/
  | starting
  | reading
  /-- It has given up the queue of the worker and waits for its thread. -/
  | joining (how : Serving.Ending)
  /-- It waits for the writer. -/
  | waiting
  | returned (how : Serving.Ending)

/-- What the writer is doing. -/
inductive Serving.Writer where
  /-- It has not been made. -/
  | absent
  /-- It waits for a response. -/
  | receiving
  /-- It has a response to write. -/
  | writing (r : Response)
  | ended

/-- Serving while it runs. -/
structure Serving (P : Platform σ) where
  worker : Threaded P
  /-- The lines of the input that have not been taken. -/
  unread : List (List UInt8)
  reader : Serving.Reader
  writer : Serving.Writer
  /-- What has been written. -/
  output : String

/-- Who takes a step. -/
inductive Serving.Actor where
  | reader
  | worker
  | writer

namespace Serving

variable {P : Platform σ}

/-- A worker was made, and nothing was read. -/
def start (P : Platform σ) (settings : Settings) (input : List UInt8) (s : σ) : Serving P :=
  ⟨.spawn settings s, inputLines input, .starting, .absent, ""⟩

/-- What can happen next. -/
inductive Step : Serving P → Actor → Serving P → Prop
  /-- The writer gets a receiver. -/
  | connect {c : Serving P} {w : Threaded P} : c.reader = .starting → c.worker.Step .share w →
      Step c .reader { c with worker := w, reader := .reading, writer := .receiving }
  /-- A line is blank. -/
  | skip {c : Serving P} {line : List UInt8} {rest : List (List UInt8)} {text : String} :
      c.reader = .reading → c.unread = line :: rest →
      String.fromUTF8? ⟨line.toArray⟩ = some text → Inbound.ofLine text = none →
      Step c .reader { c with unread := rest }
  | give {c : Serving P} {line : List UInt8} {rest : List (List UInt8)} {text : String}
      {x : Inbound} {w : Threaded P} : c.reader = .reading → c.unread = line :: rest →
      String.fromUTF8? ⟨line.toArray⟩ = some text → Inbound.ofLine text = some x →
      c.worker.Step (.post x) w → Step c .reader { c with worker := w, unread := rest }
  /-- The worker refuses what it is given, and is dropped. -/
  | refused {c : Serving P} {line : List UInt8} {rest : List (List UInt8)} {text : String}
      {x : Inbound} {w w' : Threaded P} : c.reader = .reading → c.unread = line :: rest →
      String.fromUTF8? ⟨line.toArray⟩ = some text → Inbound.ofLine text = some x →
      c.worker.Step (.refuse x) w → w.Step .leave w' →
      Step c .reader { c with worker := w', unread := rest, reader := .joining .disconnected }
  /-- A line is not UTF-8, and the worker is dropped. -/
  | unreadable {c : Serving P} {line : List UInt8} {rest : List (List UInt8)} {w : Threaded P} :
      c.reader = .reading → c.unread = line :: rest →
      String.fromUTF8? ⟨line.toArray⟩ = none → c.worker.Step .leave w →
      Step c .reader { c with worker := w, unread := rest, reader := .joining .unreadable }
  /-- There are no more lines, and the worker is ended. -/
  | exhausted {c : Serving P} {w : Threaded P} : c.reader = .reading → c.unread = [] →
      c.worker.Step .leave w →
      Step c .reader { c with worker := w, reader := .joining .complete }
  | joined {c : Serving P} {w : Threaded P} : c.reader = .joining .complete →
      c.worker.Step .joined w → Step c .reader { c with worker := w, reader := .waiting }
  /-- The writer is left to itself. -/
  | failed {c : Serving P} {w : Threaded P} {how : Ending} : c.reader = .joining how →
      how ≠ .complete → c.worker.Step .joined w →
      Step c .reader { c with worker := w, reader := .returned how }
  | returned {c : Serving P} : c.reader = .waiting → c.writer = .ended →
      Step c .reader { c with reader := .returned .complete }
  | work {c : Serving P} {w : Threaded P} : c.worker.Step .work w →
      Step c .worker { c with worker := w }
  | receive {c : Serving P} {w : Threaded P} {r : Response} : c.writer = .receiving →
      c.worker.Step (.receive r) w →
      Step c .writer { c with worker := w, writer := .writing r }
  | write {c : Serving P} {r : Response} : c.writer = .writing r →
      Step c .writer { c with writer := .receiving, output := c.output ++ r.line }
  /-- There will be no more responses, and the receiver of the writer goes. -/
  | hangUp {c : Serving P} {w w' : Threaded P} : c.writer = .receiving →
      c.worker.Step .disconnected w → w.Step .unshare w' →
      Step c .writer { c with worker := w', writer := .ended }

end Serving

end EngineHost
