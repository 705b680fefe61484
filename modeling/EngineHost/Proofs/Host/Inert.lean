import EngineHost.Guest.Catalog
import EngineHost.Proofs.Host.Lifecycle
import Mathlib.Data.List.Induction

/-!
# Messages that leave no trace

Many messages are answered and do nothing else: a ping, a message that is no request, a call that
cannot be made, a load after the first one.  `Host.Inert` lists them, each at its place in a run of
messages.  Nobody can tell from the other responses, or from what the run leaves of the host, its
module's memory and descriptors, and the storage, which of them were sent.

* `Host.handle_of_inert` : an inert message leaves the host and the world as they were.
* `Host.answers_of_struck_out` : hence any of them may be struck out of a run.
-/

namespace EngineHost

variable {σ : Type} {P : Platform σ}

namespace Host

/-- The responses of a host to messages, one after another. -/
def answers (js : List Json) : HostM P (List Response) := js.mapM handle

/-- A message that does nothing, given to a host after other messages. -/
inductive Inert (before : List Json) (h : Host P) : Json → Prop
  | ping {j : Json} {id : Option Json} : Request.parse j = .ok (.ping id) → Inert before h j
  /-- It is no request. -/
  | unread {j : Json} {e : RequestError} : Request.parse j = .error e → Inert before h j
  /-- A call of a host that is not ready. -/
  | early {j : Json} {id : Option Json} {name : String} {args : List Json} :
      Request.parse j = .ok (.call id name args) → h.phase ≠ .ready → Inert before h j
  /-- A call of what is no exported function. -/
  | missing {j : Json} {id : Option Json} {name : String} {args : List Json}
      {r : Runtime (P.storage h.settings.storage)} : Request.parse j = .ok (.call id name args) →
      h.runtime = some r → r.module.function? name = none → Inert before h j
  /-- A call with arguments that do not fit the parameters. -/
  | misfit {j : Json} {id : Option Json} {name : String} {args : List Json}
      {r : Runtime (P.storage h.settings.storage)} {f : Function (P.storage h.settings.storage)}
      {fault : ArgumentsFault} : Request.parse j = .ok (.call id name args) →
      h.runtime = some r → r.module.function? name = some f →
      Value.ofArguments f.params args = .error fault → Inert before h j
  /-- A load after the first one. -/
  | again {j j' : Json} {id id' : Option Json} {location location' : String} :
      Request.parse j = .ok (.load id location) → j' ∈ before →
      Request.parse j' = .ok (.load id' location') → Inert before h j

variable {js before : List Json} {j : Json} {w : Host P × σ} {h : Host P} {settings : Settings}
  {s : σ}

/-! ### Runs of messages -/

theorem answers_concat (js : List Json) (j : Json) (w : Host P × σ) :
    answers (js ++ [j]) w =
      ((answers js w).1 ++ [(handle j (answers js w).2).1], (handle j (answers js w).2).2) := by
  unfold answers
  rw [List.mapM_append]
  simp only [List.mapM_cons, List.mapM_nil, bind_pure_comp, map_pure]
  rfl

/-- Every message is answered. -/
theorem length_answers (js : List Json) (w : Host P × σ) :
    (answers js w).1.length = js.length := by
  induction js using List.reverseRecOn with
  | nil => rfl
  | append_singleton js j ih => simp [answers_concat, ih]

theorem answers_snd (js : List Json) (w : Host P × σ) :
    (answers js w).2 = run (js.map .message) w := by
  induction js using List.reverseRecOn with
  | nil => rfl
  | append_singleton js j ih =>
    rw [answers_concat, ih, run, run, List.map_append, List.foldl_append]
    rfl

/-- After a load a host is not uninitialized. -/
theorem initialized_of_load {id : Option Json} {location : String} (hj : j ∈ js)
    (hparse : Request.parse j = .ok (.load id location)) (w : Host P × σ) :
    (answers js w).2.1.phase ≠ .uninitialized := by
  intro hphase
  rw [answers_snd, uninitialized_run_iff] at hphase
  have hno := hphase.2 (.message j) (List.mem_map_of_mem hj)
  rw [HostEvent.location?, hparse] at hno
  cases hno

/-! ### Inert messages -/

theorem handle_of_parse {r : Request} (hparse : Request.parse j = .ok r) (w : Host P × σ) :
    (handle j w).2 = (handleRequest r w).2 := by
  rw [handle, hparse]

/-- **An inert message leaves the host and the world as they were.** -/
theorem handle_of_inert (hw : w = (answers before ((new settings, s) : Host P × σ)).2)
    (hj : Inert before w.1 j) : (handle j w).2 = w := by
  cases hj with
  | ping hparse =>
    rw [handle_of_parse hparse]
    rfl
  | unread hparse =>
    rw [handle, hparse]
    rfl
  | early hparse hphase =>
    rw [handle_of_parse hparse]
    exact call_of_not_ready hphase _ _ w.2
  | @missing id name args r hparse hruntime hmissing =>
    rw [handle_of_parse hparse]
    have hprepare : prepareCall r.module name args = .error (.missingExport name) := by
      simp [prepareCall, hmissing, throw, throwThe, MonadExceptOf.throw]
    exact call_of_unprepared hruntime hprepare w.2
  | @misfit id name args r f fault hparse hruntime hfunction hmisfit =>
    rw [handle_of_parse hparse]
    have hprepare : prepareCall r.module name args = .error (.arguments name fault) := by
      simp [prepareCall, hfunction, hmisfit, Except.mapError, bind, Except.bind]
    exact call_of_unprepared hruntime hprepare w.2
  | again hparse hbefore hload =>
    rw [handle_of_parse hparse]
    have hphase : w.1.phase ≠ .uninitialized := hw ▸ initialized_of_load hbefore hload _
    exact load_of_initialized hphase _ w.2

/-- **Inert messages leave no trace.**  Strike any of them out of a run (`false` marks what is
struck out): the other messages get the responses that they got, and the host and the world are left
as they were left, that is the phase, the module with its memory, the descriptors and the
storage. -/
theorem answers_of_struck_out (settings : Settings) (s : σ) (marked : List (Json × Bool))
    (hinert : ∀ i j, marked[i]? = some (j, false) →
      let before := (marked.take i).map Prod.fst
      Inert before (answers before ((new settings, s) : Host P × σ)).2.1 j) :
    let all := answers (marked.map Prod.fst) ((new settings, s) : Host P × σ)
    let rest := answers ((marked.filter Prod.snd).map Prod.fst) ((new settings, s) : Host P × σ)
    rest.2 = all.2 ∧
      all.1.length = marked.length ∧
      rest.1 = ((all.1.zip (marked.map Prod.snd)).filter Prod.snd).map Prod.fst := by
  induction marked using List.reverseRecOn with
  | nil => exact ⟨rfl, rfl, rfl⟩
  | append_singleton marked x ih =>
    obtain ⟨j, kept⟩ := x
    -- what was struck out before is inert in the shorter run too, which is where it stands
    have hearlier : ∀ i j, marked[i]? = some (j, false) →
        Inert ((marked.take i).map Prod.fst)
          (answers ((marked.take i).map Prod.fst) ((new settings, s) : Host P × σ)).2.1 j := by
      intro i j' hi
      have hlt : i < marked.length := (List.getElem?_eq_some_iff.1 hi).1
      have hplace := hinert i j' (by rw [List.getElem?_append_left hlt, hi])
      rwa [List.take_append_of_le_length (Nat.le_of_lt hlt)] at hplace
    obtain ⟨hstate, hlength, hresponses⟩ := ih hearlier
    have hzip : ∀ r : Response,
        ((answers (marked.map Prod.fst) ((new settings, s) : Host P × σ)).1 ++ [r]).zip
            (marked.map Prod.snd ++ [kept]) =
          (answers (marked.map Prod.fst) ((new settings, s) : Host P × σ)).1.zip
            (marked.map Prod.snd) ++ [(r, kept)] := fun r =>
      List.zip_append (by rw [hlength, List.length_map])
    simp only [List.map_append, List.map_cons, List.map_nil, List.filter_append, answers_concat,
      hzip, List.length_append, List.length_singleton, hlength, true_and]
    cases kept with
    | true =>
      -- the two hosts are in one state, so they answer alike
      simp [answers_concat, hstate, hresponses]
    | false =>
      have hlast := hinert marked.length j (by simp)
      rw [List.take_left] at hlast
      simp only [Bool.false_eq_true, not_false_eq_true, List.filter_cons_of_neg, List.filter_nil,
        List.map_nil, List.append_nil]
      exact ⟨hstate.trans (handle_of_inert rfl hlast).symm, hresponses⟩

/-- A platform with one module, which gives a number back. -/
def echoing : Platform Unit where
  storage _ := .absent
  prepare _ s := s
  fetch _ _ _ := .ok []
  compile _ _ := some
    { imports := []
      memory := none
      globals := []
      exports := [("echo", .function (.identity .i32))]
      start := pure () }

/-- A host is asked to load and to call a function twice.  In between it gets one inert message of
every kind. -/
theorem answers_of_struck_out_echoing :
    let settings : Settings := ⟨.disabled, none⟩
    let ping : Json := .object [("type", .string "ping")]
    let load : Json := .object [("type", .string "initialize"),
      ("data", .object [("wasmUrl", .string "m")])]
    let call (name : String) (arg : Json) : Json := .object [("type", .string "call"),
      ("data", .object [("functionName", .string name), ("args", .array [arg])])]
    let marked : List (Json × Bool) :=
      [(call "echo" .null, false), (load, true), (ping, false), (call "echo" (.bool true), true),
        (call "boom" .null, false), (call "echo" .null, false), (load, false), (.null, false),
        (call "echo" (.bool false), true)]
    let all := answers (marked.map Prod.fst) ((new settings, ()) : Host echoing × Unit)
    let rest := answers ((marked.filter Prod.snd).map Prod.fst)
      ((new settings, ()) : Host echoing × Unit)
    all.1.length = 9 ∧ rest.2 = all.2 ∧
      rest.1 = [.initialized false, .result none true (some (.ofInt 1)) none,
        .result none true (some (.ofInt 0)) none] := by
  intro settings ping load call marked all rest
  have hinert : ∀ i j, marked[i]? = some (j, false) →
      let before := (marked.take i).map Prod.fst
      Inert before (answers before ((new settings, ()) : Host echoing × Unit)).2.1 j := by
    intro i j hj
    match i, hj with
    | 0, rfl => exact .early rfl nofun
    | 2, rfl => exact .ping rfl
    | 4, rfl => exact .missing rfl rfl rfl
    | 5, rfl => exact .misfit rfl rfl rfl rfl
    | 6, rfl => exact .again rfl (by simp [marked]) (rfl : Request.parse load = _)
    | 7, rfl => exact .unread rfl
    | 8, hj => cases hj
    | _ + 9, hj => cases hj
  obtain ⟨hstate, hlength, -⟩ := answers_of_struck_out settings () marked hinert
  exact ⟨hlength, hstate, rfl⟩

end Host

end EngineHost
