import EngineHost.Proofs.Trace
import EngineHost.Worker.Threaded

/-!
# The worker answers in order

However the callers of a worker and its thread interleave, what is received is the beginning of one
list of responses: that the worker is ready, and then one response for everything that was given, in
the order in which it was given.

* `Worker.answers` : the responses of one host that is asked one thing after another.
* `Threaded.Faithful` : what was received, what waits to be received and what the thread has yet to
  say make up this list.
* `Threaded.Faithful.step` : every step keeps this.
* `Threaded.run_in_order` : hence nothing is lost, said twice, out of order or made up, and what was
  given before the worker was ended is answered before it is gone.

The proof follows `Threaded.outlook`, what the thread has yet to say if nothing more is given: a
piece of its work moves the head of the outlook on towards the queue, and something given adds its
answer to the end of the outlook and of the list alike.
-/

namespace EngineHost

variable {σ : Type} {P : Platform σ}

/-! ### One thing after another -/

namespace Worker

/-- The responses of one host to what is given: a message is answered by the host as the messages
before it left it, and a reply stands for itself. -/
def answers : List Inbound → HostM P (List Response)
  | [], w => ([], w)
  | .message j :: rest, w =>
    let (r, w) := Host.handle j w
    let (rs, w) := answers rest w
    (r :: rs, w)
  | .reply r :: rest, w =>
    let (rs, w) := answers rest w
    (r :: rs, w)

variable {w : Host P × σ} {x : Inbound} {xs ys : List Inbound}

theorem answers_cons (x : Inbound) (xs : List Inbound) (w : Host P × σ) :
    answers (x :: xs) w = ((respond x w).1 :: (answers xs (respond x w).2).1,
      (answers xs (respond x w).2).2) := by
  cases x <;> rfl

/-- What is given last is answered last. -/
theorem answers_concat (xs : List Inbound) (x : Inbound) (w : Host P × σ) :
    answers (xs ++ [x]) w =
      ((answers xs w).1 ++ [(respond x (answers xs w).2).1], (respond x (answers xs w).2).2) := by
  induction xs generalizing w with
  | nil => rw [List.nil_append, answers_cons]; rfl
  | cons y xs ih => rw [List.cons_append, answers_cons, ih, answers_cons]; rfl

/-- A worker that takes everything given to it says the answers. -/
theorem drain_eq (w : Worker P) (s : σ) :
    drain (w, s) =
      (⟨(answers w.inbound (w.host, s)).2.1, [], w.outbound ++ (answers w.inbound (w.host, s)).1⟩,
        (answers w.inbound (w.host, s)).2.2) := by
  obtain ⟨host, inbound, outbound⟩ := w
  unfold drain
  induction inbound generalizing host outbound s with
  | nil => simp [turns, answers]
  | cons x rest ih =>
    have hturn : turn (⟨host, x :: rest, outbound⟩, s) =
        (⟨(respond x (host, s)).2.1, rest, outbound ++ [(respond x (host, s)).1]⟩,
          (respond x (host, s)).2.2) := rfl
    rw [List.length_cons, turns, hturn, answers_cons]
    refine (ih _ _ _).trans ?_
    simp

/-- What is given to a worker waits in its queue. -/
theorem foldl_post (w : Worker P) (xs : List Inbound) :
    xs.foldl (fun w x => w.post x) w = { w with inbound := w.inbound ++ xs } := by
  induction xs generalizing w with
  | nil => simp
  | cons x xs ih => rw [List.foldl_cons, ih, post]; simp

/-- A worker that is given everything at once and then ended says the answers. -/
theorem terminate_eq (settings : Settings) (s : σ) (xs : List Inbound) :
    let w := (answers xs ((.new settings, s) : Host P × σ)).2
    terminate (xs.foldl (fun w x => w.post x) (start settings : Worker P), s) =
      (.ready :: (answers xs ((.new settings, s) : Host P × σ)).1, w.1.dispose w.2) := by
  intro w
  rw [terminate, foldl_post, drain_eq]
  rfl

end Worker

namespace Threaded

open Worker (answers answers_cons answers_concat respond)

/-! ### What was seen of a run -/

/-- What was given, the first one first. -/
def posted (es : List WorkerEvent) : List Inbound :=
  es.filterMap fun
    | .post x => some x
    | _ => none

/-- What was received, the first one first. -/
def received (es : List WorkerEvent) : List Response :=
  es.filterMap fun
    | .receive r => some r
    | _ => none

variable {c c' : Threaded P} {e : WorkerEvent} {es : List WorkerEvent} {settings : Settings} {s : σ}
  {x : Inbound} {n : Nat}

theorem posted_append (es es' : List WorkerEvent) :
    posted (es ++ es') = posted es ++ posted es' :=
  List.filterMap_append

theorem received_append (es es' : List WorkerEvent) :
    received (es ++ es') = received es ++ received es' :=
  List.filterMap_append

/-- What the thread has yet to say if nothing more is given, and where that leaves the host. -/
def outlook (c : Threaded P) : List Response × Host P × σ :=
  let w := (c.worker.host, c.world)
  match c.stage with
  | .starting => (.ready :: (answers c.worker.inbound w).1, (answers c.worker.inbound w).2)
  | .idle => answers c.worker.inbound w
  | .taken x => answers (x :: c.worker.inbound) w
  | .answered r => (r :: (answers c.worker.inbound w).1, (answers c.worker.inbound w).2)
  | .ended => ([], w)

/-- What is given while the thread is there is answered last. -/
theorem outlook_post (hstage : c.stage ≠ .ended) (x : Inbound) :
    outlook { c with worker := c.worker.post x } =
      (c.outlook.1 ++ [(respond x c.outlook.2).1], (respond x c.outlook.2).2) := by
  obtain ⟨w, world, stage, owner, receivers⟩ := c
  simp only [outlook, Worker.post]
  cases stage with
  | starting | idle | answered => simp [answers_concat]
  | taken y => exact answers_concat (y :: w.inbound) x (w.host, world)
  | ended => exact absurd rfl hstage

/-- A thread that has ended does not work. -/
theorem there_of_work (hstep : Step c .work c') : c.stage ≠ .ended := by
  cases hstep with
  | start hstage | unheard hstage | take hstage | handle hstage | say hstage | cut hstage
  | finish hstage => rw [hstage]; nofun

/-- A piece of work moves the head of the outlook on towards the queue, while somebody can receive
it. -/
theorem outlook_work (hstep : Step c .work c') (hreceiver : c.HasReceiver) :
    c'.worker.outbound ++ c'.outlook.1 = c.worker.outbound ++ c.outlook.1 ∧
      (c'.stage ≠ .ended → c'.outlook.2 = c.outlook.2) := by
  cases hstep with
  | start hstage =>
    simp [outlook, hstage, Worker.say]
  | unheard _ hno => exact absurd hreceiver hno
  | take hstage hin =>
    simp [outlook, hstage, hin]
  | handle hstage =>
    simp [outlook, hstage, answer, answers_cons]
  | say hstage =>
    simp [outlook, hstage, Worker.say]
  | cut _ hno => exact absurd hreceiver hno
  | finish hstage hin =>
    simp [outlook, hstage, hin, stop, answers]

/-- The thread does not touch what the owner has, and it ends only when the owner has given the
queue up. -/
theorem owner_work (hstep : Step c .work c') (hreceiver : c.HasReceiver) :
    c'.owner = c.owner ∧ (c'.stage = .ended → c'.owner ≠ .present) := by
  cases hstep with
  | start | take | handle | say => exact ⟨rfl, nofun⟩
  | unheard _ hno | cut _ hno => exact absurd hreceiver hno
  | finish _ _ howner => exact ⟨rfl, fun _ => howner⟩

/-! ### Every step -/

/-- Seen from where the worker was made: what was received, what waits to be received and what is
yet to be said are the answers to what was given.  The thread has not ended while the owner is
there, and the owner is not gone while the thread is there. -/
structure Faithful (settings : Settings) (s : σ) (es : List WorkerEvent) (c : Threaded P) :
    Prop where
  said : received es ++ c.worker.outbound ++ c.outlook.1 =
    .ready :: (answers (posted es) ((.new settings, s) : Host P × σ)).1
  host : c.stage ≠ .ended →
    c.outlook.2 = (answers (posted es) ((.new settings, s) : Host P × σ)).2
  owned : c.stage = .ended → c.owner ≠ .present
  joined : c.owner = .gone → c.stage = .ended

namespace Faithful

theorem spawn (settings : Settings) (s : σ) :
    Faithful settings s [] (spawn settings s : Threaded P) where
  said := rfl
  host _ := rfl
  owned h := nomatch h
  joined h := nomatch h

/-- While the thread is there, somebody can receive. -/
theorem hasReceiver (h : Faithful settings s es c) (hstage : c.stage ≠ .ended) :
    c.HasReceiver :=
  .inl fun howner => hstage (h.joined howner)

/-- Nothing is refused. -/
theorem not_refuse (h : Faithful settings s es c) : ¬ Step c (.refuse x) c' := by
  intro hstep
  cases hstep with
  | refuse _ howner hstage => exact h.owned hstage howner

/-- A step that gives nothing and receives nothing keeps a worker faithful if it leaves what waits
to be received and what is yet to be said together as they were. -/
theorem silent (h : Faithful settings s es c) (hposted : posted [e] = [])
    (hreceived : received [e] = [])
    (hsaid : c'.worker.outbound ++ c'.outlook.1 = c.worker.outbound ++ c.outlook.1)
    (hhost : c'.stage ≠ .ended → c.stage ≠ .ended ∧ c'.outlook.2 = c.outlook.2)
    (howned : c'.stage = .ended → c'.owner ≠ .present)
    (hjoined : c'.owner = .gone → c'.stage = .ended) : Faithful settings s (es ++ [e]) c' where
  said := by
    rw [posted_append, received_append, hposted, hreceived, List.append_nil, List.append_nil,
      List.append_assoc, hsaid, ← List.append_assoc]
    exact h.said
  host hstage := by
    obtain ⟨hbefore, hlook⟩ := hhost hstage
    rw [posted_append, hposted, List.append_nil, hlook]
    exact h.host hbefore
  owned := howned
  joined := hjoined

/-- Something that is given adds its answer to the end. -/
theorem post (h : Faithful settings s es c) (hstage : c.stage ≠ .ended) (x : Inbound) :
    Faithful settings s (es ++ [.post x]) { c with worker := c.worker.post x } := by
  have hposted : posted (es ++ [.post x]) = posted es ++ [x] := posted_append es _
  have hreceived : received (es ++ [.post x]) = received es :=
    (received_append es _).trans (List.append_nil _)
  refine ⟨?_, fun _ => ?_, fun hended => absurd hended hstage, h.joined⟩
  · have hsaid := congrArg (· ++ [(respond x c.outlook.2).1]) h.said
    rw [hposted, hreceived, answers_concat, outlook_post hstage, h.host hstage]
    simpa [Worker.post, h.host hstage] using hsaid
  · rw [hposted, answers_concat, outlook_post hstage, h.host hstage]

/-- What is received is what waited longest. -/
theorem receive (h : Faithful settings s es c) {r : Response} {rest : List Response}
    (hout : c.worker.outbound = r :: rest) :
    Faithful settings s (es ++ [.receive r])
      { c with worker := { c.worker with outbound := rest } } := by
  have hposted : posted (es ++ [.receive r]) = posted es :=
    (posted_append es _).trans (List.append_nil _)
  have hreceived : received (es ++ [.receive r]) = received es ++ [r] := received_append es _
  have hlook : outlook { c with worker := { c.worker with outbound := rest } } = c.outlook := rfl
  refine ⟨?_, ?_, h.owned, h.joined⟩
  · have hsaid := h.said
    rw [hout] at hsaid
    rw [hposted, hreceived, hlook]
    simpa using hsaid
  · rw [hposted, hlook]
    exact h.host

/-- A piece of work keeps a worker faithful: somebody can receive what it says. -/
theorem work (h : Faithful settings s es c) (hstep : Step c .work c') :
    Faithful settings s (es ++ [.work]) c' := by
  have hthere := there_of_work hstep
  have hreceiver := h.hasReceiver hthere
  obtain ⟨hsaid, hhost⟩ := outlook_work hstep hreceiver
  obtain ⟨howner, howned⟩ := owner_work hstep hreceiver
  refine h.silent rfl rfl hsaid (fun hstage => ⟨hthere, hhost hstage⟩) howned fun hgone => ?_
  exact absurd (h.joined (howner ▸ hgone)) hthere

/-- **Every step keeps the worker faithful.** -/
theorem step (h : Faithful settings s es c) (hstep : Step c e c') :
    Faithful settings s (es ++ [e]) c' := by
  cases hstep with
  | post x howner hstage => exact h.post hstage x
  | refuse x howner hstage => exact absurd howner (h.owned hstage)
  | receive _ hout => exact h.receive hout
  | timeout | disconnected | share | unshare =>
    exact h.silent rfl rfl rfl (fun hstage => ⟨hstage, rfl⟩) h.owned h.joined
  | leave => exact h.silent rfl rfl rfl (fun hstage => ⟨hstage, rfl⟩) (fun _ => nofun) nofun
  | joined _ hstage =>
    exact h.silent rfl rfl rfl (fun hstage => ⟨hstage, rfl⟩) (fun _ => nofun) fun _ => hstage
  | start hstage hreceiver => exact h.work (.start hstage hreceiver)
  | unheard hstage hno => exact h.work (.unheard hstage hno)
  | take hstage hin => exact h.work (.take hstage hin)
  | handle hstage => exact h.work (.handle hstage)
  | say hstage hreceiver => exact h.work (.say hstage hreceiver)
  | cut hstage hno => exact h.work (.cut hstage hno)
  | finish hstage hin howner => exact h.work (.finish hstage hin howner)

end Faithful

theorem faithful_run (h : Trace Step (Threaded.spawn settings s : Threaded P) es c) :
    Faithful settings s es c := by
  induction h with
  | nil => exact Faithful.spawn settings s
  | snoc _ hstep ih => exact ih.step hstep

/-! ### The work of the thread -/

/-- A turn of a worker that runs without a thread is three pieces of the work of one. -/
theorem turn_works (hstage : c.stage = .idle) (hin : c.worker.inbound ≠ [])
    (hreceiver : c.HasReceiver) :
    Trace Step c [.work, .work, .work]
      { c with
        worker := (Worker.turn (c.worker, c.world)).1
        world := (Worker.turn (c.worker, c.world)).2 } := by
  obtain ⟨⟨host, inbound, outbound⟩, world, stage, owner, receivers⟩ := c
  cases hstage
  cases inbound with
  | nil => exact absurd rfl hin
  | cons x rest => exact .cons (.take rfl rfl) (.cons (.handle rfl) (.single (.say rfl hreceiver)))

/-- A bound on the pieces of work that the thread has left if nothing more is given: three for
everything that waits, and what it is about. -/
def workLeft (c : Threaded P) : Nat :=
  3 * c.worker.inbound.length +
    match c.stage with
    | .starting => 2
    | .idle => 1
    | .taken _ => 3
    | .answered _ => 2
    | .ended => 0

/-- A piece of work that is done is not left. -/
theorem workLeft_work (hstep : Step c .work c') : c'.workLeft < c.workLeft := by
  cases hstep with
  | start hstage | unheard hstage | say hstage | cut hstage =>
    simp [workLeft, hstage, Worker.say, stop]
  | handle hstage => simp [workLeft, hstage, answer]
  | take hstage hin =>
    simp only [workLeft, hstage, hin, List.length_cons]
    omega
  | finish hstage hin => simp [workLeft, hstage, hin, stop]

/-- Nothing is seen but the work of the thread. -/
def OnlyWork (es : List WorkerEvent) : Prop := ∀ e ∈ es, e = .work

theorem OnlyWork.posted {es : List WorkerEvent} (h : OnlyWork es) : posted es = [] := by
  refine List.filterMap_eq_nil_iff.2 fun e he => ?_
  rw [h e he]

theorem OnlyWork.received {es : List WorkerEvent} (h : OnlyWork es) : received es = [] := by
  refine List.filterMap_eq_nil_iff.2 fun e he => ?_
  rw [h e he]

/-- The thread does not work forever. -/
theorem workLeft_run (h : Trace Step c es c') (hes : OnlyWork es) :
    es.length + c'.workLeft ≤ c.workLeft := by
  induction h with
  | nil => simp
  | @snoc _ _ es e _ hstep ih =>
    obtain rfl : e = .work := hes e (by simp)
    have hbefore := ih fun e he => hes e (by simp [he])
    have hlast := workLeft_work hstep
    rw [List.length_append, List.length_singleton]
    omega

namespace Faithful

/-- A thread that has not ended works, unless it waits for what its owner will give. -/
theorem work_or_wait (h : Faithful settings s es c) :
    c.stage = .ended ∨ (c.owner = .present ∧ c.outlook.1 = []) ∨ ∃ c', Step c .work c' := by
  cases hstage : c.stage with
  | ended => exact .inl rfl
  | starting =>
    have hreceiver := h.hasReceiver (by rw [hstage]; nofun)
    exact .inr (.inr ⟨_, .start hstage hreceiver⟩)
  | taken x => exact .inr (.inr ⟨_, .handle hstage⟩)
  | answered r =>
    have hreceiver := h.hasReceiver (by rw [hstage]; nofun)
    exact .inr (.inr ⟨_, .say hstage hreceiver⟩)
  | idle =>
    cases hin : c.worker.inbound with
    | cons x rest => exact .inr (.inr ⟨_, .take hstage hin⟩)
    | nil =>
      by_cases howner : c.owner = .present
      · exact .inr (.inl ⟨howner, by simp [outlook, hstage, hin, answers]⟩)
      · exact .inr (.inr ⟨_, .finish hstage hin howner⟩)

/-- Left to itself the thread says everything that it has yet to say, and it ends if the owner has
given the queue up. -/
theorem work_through (h : Faithful settings s es c) :
    ∃ es' c', OnlyWork es' ∧ Trace Step c es' c' ∧ Faithful settings s (es ++ es') c' ∧
      c'.owner = c.owner ∧ c'.outlook.1 = [] ∧ (c'.stage = .ended ∨ c'.owner = .present) := by
  induction hleft : c.workLeft using Nat.strongRecOn generalizing es c with
  | ind n ih =>
    have hnow : Faithful settings s (es ++ []) c := by rwa [List.append_nil]
    rcases h.work_or_wait with hended | ⟨howner, hlook⟩ | ⟨c₁, hstep⟩
    · exact ⟨[], c, nofun, .nil c, hnow, rfl, by simp [outlook, hended], .inl hended⟩
    · exact ⟨[], c, nofun, .nil c, hnow, rfl, hlook, .inr howner⟩
    · have hone := h.work hstep
      obtain ⟨es', c', hwork, hrun, hfaithful, howner, hlook, hend⟩ :=
        ih _ (hleft ▸ workLeft_work hstep) hone rfl
      refine ⟨.work :: es', c', ?_, .cons hstep hrun, ?_, ?_, hlook, hend⟩
      · exact fun e he => (List.mem_cons.1 he).elim id (hwork e)
      · rwa [List.append_assoc] at hfaithful
      · exact howner.trans (owner_work hstep (h.hasReceiver (there_of_work hstep))).1

end Faithful

/-- **A worker answers in order**, however its callers and its thread interleave.

* What was received, and then what waits to be received, is the beginning of one list: that the
  worker is ready, and one response for everything that was given, as one host gives them that is
  asked one thing after another.  Nothing that is given is refused.
* Left to itself the thread says the rest of the list, in a bounded number of pieces of work, and
  an owner that leaves is then gone.
* When the owner is gone the thread has ended.  When the thread has ended the whole list was
  received or waits to be received, what waits can be received, and only then is anybody told that
  there will be no more.
* It is the list that a worker says that is given everything at once. -/
theorem run_in_order (settings : Settings) (s : σ) (es : List WorkerEvent) (c : Threaded P)
    (h : Trace Step (Threaded.spawn settings s : Threaded P) es c) :
    let said := Response.ready :: (answers (posted es) ((.new settings, s) : Host P × σ)).1
    (received es ++ c.worker.outbound <+: said ∧ ∀ x c', ¬ Step c (.refuse x) c') ∧
    ((∃ es' c', OnlyWork es' ∧ Trace Step c es' c' ∧ received es ++ c'.worker.outbound = said ∧
        (c.owner = .leaving → Step c' .joined { c' with owner := .gone })) ∧
      ∀ es' c', OnlyWork es' → Trace Step c es' c' → es'.length ≤ c.workLeft) ∧
    (c.owner = .gone → c.stage = .ended) ∧
    (c.stage = .ended → received es ++ c.worker.outbound = said ∧
      (c.HasReceiver → ∀ r rest, c.worker.outbound = r :: rest → ∃ c', Step c (.receive r) c') ∧
      (c.HasReceiver → c.worker.outbound = [] → Step c .disconnected c)) ∧
    (∀ c', Step c .disconnected c' → received es = said) ∧
    (Worker.terminate
      ((posted es).foldl (fun w x => w.post x) (.start settings : Worker P), s)).1 = said := by
  intro said
  have hfaithful := faithful_run h
  have hended : c.stage = .ended → received es ++ c.worker.outbound = said := by
    intro hstage
    have hsaid := hfaithful.said
    rwa [show c.outlook.1 = [] by simp [outlook, hstage], List.append_nil] at hsaid
  refine ⟨⟨⟨c.outlook.1, hfaithful.said⟩, fun x c' => hfaithful.not_refuse⟩, ⟨?_, ?_⟩,
    hfaithful.joined, fun hstage => ⟨hended hstage, ?_, ?_⟩, ?_, ?_⟩
  · obtain ⟨es', c', hwork, hrun, hlater, howner, hlook, hend⟩ := hfaithful.work_through
    refine ⟨es', c', hwork, hrun, ?_, fun hleaving => ?_⟩
    · have hsaid := hlater.said
      rwa [hlook, posted_append, received_append, hwork.posted, hwork.received, List.append_nil,
        List.append_nil, List.append_nil] at hsaid
    · have hgone := howner.trans hleaving
      exact .joined hgone (hend.resolve_right (by rw [hgone]; nofun))
  · intro es' c' hwork hrun
    have hleft := workLeft_run hrun hwork
    omega
  · intro hreceiver r rest hout
    exact ⟨_, .receive hreceiver hout⟩
  · exact fun hreceiver hout => .disconnected hreceiver hout hstage
  · intro c' hstep
    cases hstep with
    | disconnected _ hout hstage =>
      have hall := hended hstage
      rwa [hout, List.append_nil] at hall
  · rw [Worker.terminate_eq]

/-- A platform without storage and without modules. -/
def bare : Platform Unit where
  storage _ := .absent
  prepare _ s := s
  fetch location _ _ := .error ⟨location, "there are no modules"⟩
  compile _ _ := none

/-- A worker is asked for a sign of life and ended; a receiver that outlives it hears that it was
ready, the answer, and that there is no more. -/
theorem run_in_order_ping :
    let settings : Settings := ⟨.disabled, none⟩
    let ping : Inbound := .message (.object [("type", .string "ping")])
    let es : List WorkerEvent := [.share, .post ping, .leave, .work, .work, .work, .work, .work,
      .joined, .receive .ready, .receive (.pong none)]
    ∃ c, Trace Step (Threaded.spawn settings () : Threaded bare) es c ∧ Step c .disconnected c ∧
      received es = .ready :: (answers [ping] ((.new settings, ()) : Host bare × Unit)).1 := by
  intro settings ping es
  have hrun : Trace Step (Threaded.spawn settings () : Threaded bare) es _ :=
    .cons (.share (.inl nofun)) <| .cons (.post ping rfl nofun) <| .cons (.leave rfl) <|
    .cons (.start rfl (.inl nofun)) <| .cons (.take rfl rfl) <| .cons (.handle rfl) <|
    .cons (.say rfl (.inl nofun)) <| .cons (.finish rfl rfl nofun) <| .cons (.joined rfl rfl) <|
    .cons (.receive (.inr Nat.one_pos) rfl) <| .cons (.receive (.inr Nat.one_pos) rfl) <| .nil _
  obtain ⟨-, -, -, -, hdisconnected, -⟩ := run_in_order settings () es _ hrun
  refine ⟨_, hrun, ?hend, hdisconnected _ ?hend⟩
  exact .disconnected (.inr Nat.one_pos) rfl rfl

end Threaded

end EngineHost
