import EngineHost.Worker.Basic

/-!
# The worker on its thread

A worker runs on a thread of its own while its callers act.  `Threaded P` is a worker together with
what its thread is doing and what has become of its owner, and `Threaded.Step` lists what can happen
next: one access of a caller to a queue, or one piece of the work of the thread.

* The thread says that it is ready.  Then it takes what it was given, lets it be answered and says
  the answer, until the queue is empty and nobody can give it anything more.  It also ends when
  nobody is left to receive what it says.
* The owner gives the worker messages and replies.  When it ends the worker it gives up the queue
  first and then waits for the thread to end.
* The owner may hand out receivers, which outlive it.  Whoever has one takes the oldest response,
  gives up waiting for one, or learns that there will be none.

Both queues are unbounded, keep their order and lose nothing.
-/

namespace EngineHost

variable {σ : Type}

/-- What the thread of a worker is doing. -/
inductive Stage where
  /-- It has not said that it is ready. -/
  | starting
  /-- It waits for something to do. -/
  | idle
  /-- It has taken something from the queue. -/
  | taken (x : Inbound)
  /-- It has an answer to say. -/
  | answered (r : Response)
  /-- It has ended. -/
  | ended

/-- What has become of the owner of a worker. -/
inductive Owner where
  /-- It can give the worker something. -/
  | present
  /-- It has given the queue up and waits for the thread to end. -/
  | leaving
  /-- It is gone. -/
  | gone

/-- A worker on its thread. -/
structure Threaded (P : Platform σ) where
  worker : Worker P
  /-- What is around the host. -/
  world : σ
  stage : Stage
  owner : Owner
  /-- How many receivers there are besides that of the owner. -/
  receivers : Nat

/-- What callers see of a step. -/
inductive WorkerEvent where
  /-- Something is given to the worker. -/
  | post (x : Inbound)
  /-- Something is refused. -/
  | refuse (x : Inbound)
  /-- A response is received. -/
  | receive (r : Response)
  /-- Somebody gives up waiting for a response. -/
  | timeout
  /-- Somebody learns that there will be no more responses. -/
  | disconnected
  /-- A receiver is handed out. -/
  | share
  /-- A receiver that was handed out goes. -/
  | unshare
  /-- The owner ends the worker, or drops it. -/
  | leave
  /-- The thread has ended, and the owner goes. -/
  | joined
  /-- The thread works. -/
  | work

namespace Worker

variable {P : Platform σ}

/-- Puts a response into the queue for callers. -/
def say (r : Response) (w : Worker P) : Worker P := { w with outbound := w.outbound ++ [r] }

end Worker

namespace Threaded

variable {P : Platform σ}

/-- A worker whose thread was just made. -/
def spawn (settings : Settings) (s : σ) : Threaded P :=
  ⟨⟨.new settings, [], []⟩, s, .starting, .present, 0⟩

/-- Whether anybody can receive what the worker says. -/
def HasReceiver (c : Threaded P) : Prop := c.owner ≠ .gone ∨ 0 < c.receivers

/-- The thread ends, and its host goes with it. -/
def stop (c : Threaded P) : Threaded P :=
  { c with world := c.worker.host.dispose c.world, stage := .ended }

/-- The thread lets the host answer what was taken. -/
def answer (c : Threaded P) (x : Inbound) : Threaded P :=
  let out := Worker.respond x (c.worker.host, c.world)
  { c with
    worker := { c.worker with host := out.2.1 }
    world := out.2.2
    stage := .answered out.1 }

/-- What can happen next. -/
inductive Step : Threaded P → WorkerEvent → Threaded P → Prop
  /-- The queue takes what is given while the thread is there. -/
  | post {c : Threaded P} (x : Inbound) : c.owner = .present → c.stage ≠ .ended →
      Step c (.post x) { c with worker := c.worker.post x }
  | refuse {c : Threaded P} (x : Inbound) : c.owner = .present → c.stage = .ended →
      Step c (.refuse x) c
  | receive {c : Threaded P} {r : Response} {rest : List Response} : c.HasReceiver →
      c.worker.outbound = r :: rest →
      Step c (.receive r) { c with worker := { c.worker with outbound := rest } }
  | timeout {c : Threaded P} : c.HasReceiver → Step c .timeout c
  | disconnected {c : Threaded P} : c.HasReceiver → c.worker.outbound = [] → c.stage = .ended →
      Step c .disconnected c
  | share {c : Threaded P} : c.HasReceiver →
      Step c .share { c with receivers := c.receivers + 1 }
  | unshare {c : Threaded P} : 0 < c.receivers →
      Step c .unshare { c with receivers := c.receivers - 1 }
  | leave {c : Threaded P} : c.owner = .present → Step c .leave { c with owner := .leaving }
  | joined {c : Threaded P} : c.owner = .leaving → c.stage = .ended →
      Step c .joined { c with owner := .gone }
  | start {c : Threaded P} : c.stage = .starting → c.HasReceiver →
      Step c .work { c with worker := c.worker.say .ready, stage := .idle }
  /-- Nobody is left to hear that the thread is ready. -/
  | unheard {c : Threaded P} : c.stage = .starting → ¬ c.HasReceiver →
      Step c .work { c with stage := .ended }
  | take {c : Threaded P} {x : Inbound} {rest : List Inbound} : c.stage = .idle →
      c.worker.inbound = x :: rest →
      Step c .work { c with worker := { c.worker with inbound := rest }, stage := .taken x }
  | handle {c : Threaded P} {x : Inbound} : c.stage = .taken x → Step c .work (c.answer x)
  | say {c : Threaded P} {r : Response} : c.stage = .answered r → c.HasReceiver →
      Step c .work { c with worker := c.worker.say r, stage := .idle }
  /-- Nobody is left to hear the answer. -/
  | cut {c : Threaded P} {r : Response} : c.stage = .answered r → ¬ c.HasReceiver →
      Step c .work c.stop
  /-- The queue is empty and nobody can give anything more. -/
  | finish {c : Threaded P} : c.stage = .idle → c.worker.inbound = [] → c.owner ≠ .present →
      Step c .work c.stop

end Threaded

end EngineHost
