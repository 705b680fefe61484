import EngineHost.Host.Basic

/-!
# The worker

A `Worker P` is a host between two queues.  Callers put messages and ready-made replies into the
first one; the worker takes them in order, lets the host answer the messages and puts what comes
out into the second one, from which callers receive.  The first response of a worker is that it is
ready.
-/

namespace EngineHost

variable {σ : Type}

/-- What callers give to a worker. -/
inductive Inbound where
  /-- A message for the host. -/
  | message (j : Json)
  /-- A response that takes its turn among the others. -/
  | reply (r : Response)

/-- A host between two queues. -/
structure Worker (P : Platform σ) where
  host : Host P
  /-- What callers gave, the oldest first. -/
  inbound : List Inbound
  /-- What they have not received yet, the oldest first. -/
  outbound : List Response

namespace Worker

variable {P : Platform σ}

/-- A worker that has just started. -/
def start (settings : Settings) : Worker P := ⟨.new settings, [], [.ready]⟩

/-- Gives something to a worker. -/
def post (x : Inbound) (w : Worker P) : Worker P := { w with inbound := w.inbound ++ [x] }

/-- What comes out for something that was given. -/
def respond : Inbound → HostM P Response
  | .message j => Host.handle j
  | .reply r => pure r

/-- The worker takes the oldest thing given to it, if there is one. -/
def turn : Worker P × σ → Worker P × σ
  | (w, s) =>
    match w.inbound with
    | [] => (w, s)
    | x :: rest =>
      let (r, host, s) := respond x (w.host, s)
      (⟨host, rest, w.outbound ++ [r]⟩, s)

/-- So many turns. -/
def turns : Nat → Worker P × σ → Worker P × σ
  | 0, w => w
  | n + 1, w => turns n (turn w)

/-- The worker takes everything given to it. -/
def drain (w : Worker P × σ) : Worker P × σ := turns w.1.inbound.length w

/-- Receives the oldest response; waits for the worker while there is none. -/
def receive : Worker P × σ → Option Response × Worker P × σ
  | (w, s) =>
    match w.outbound with
    | r :: rest => (some r, { w with outbound := rest }, s)
    | [] =>
      let (w, s) := turn (w, s)
      match w.outbound with
      | r :: rest => (some r, { w with outbound := rest }, s)
      | [] => (none, w, s)

/-- Ends a worker: it takes everything given to it before it goes.  Answers the responses that
nobody has received. -/
def terminate (w : Worker P × σ) : List Response × σ :=
  let (w, s) := drain w
  (w.outbound, w.host.dispose s)

end Worker

end EngineHost
