import EngineHost.Host.Basic

/-!
# The right answer to every message

A caller waits for an answer of the kind that goes with what was sent, under the id that was sent.
The answer is made in many places: where the message is no request, where the host refuses, where
the call fails and where it succeeds.

* `Response.Answers` : the responses that may answer a message of a type with an id.
* `Host.handle_of_type` : every message of a type that is a text gets such a response.
* `Host.handle_object` : what this comes to for the single types of messages.
-/

namespace EngineHost

open Json

/-! ### Responses that answer -/

namespace Response

/-- The outcome of a call says either what was returned or what went wrong. -/
def Told (success : Bool) (value : Option Json) (reason : Option String) : Prop :=
  (success = true ↔ value.isSome = true) ∧ (success = true ↔ reason = none)

/-- The responses that may answer a message of a type with an id. -/
inductive Answers (id : Option Json) : String → Response → Prop
  /-- A ping is answered as such. -/
  | pong : Answers id "ping" (pong id)
  /-- A call is answered with its outcome. -/
  | result {success : Bool} {value : Option Json} {reason : Option String} :
      Told success value reason → Answers id "call" (result id success value reason)
  /-- A load that succeeded has no id. -/
  | initialized {hasStorage : Bool} : Answers id "initialize" (initialized hasStorage)
  /-- A load that failed. -/
  | refused {words : String} : Answers id "initialize" (error id words)
  /-- A message of another type. -/
  | unknown {type words : String} : type ≠ "ping" → type ≠ "call" → type ≠ "initialize" →
      Answers id type (error id words)

variable {id : Option Json} {type : String} {r : Response}

/-- The answer to a ping. -/
theorem Answers.ping (h : Answers id type r) (htype : type = "ping") : r = .pong id := by
  cases h with
  | pong => rfl
  | unknown hping => exact absurd htype hping
  | result | initialized | refused => exact absurd htype (by decide)

/-- The answer to a call. -/
theorem Answers.call (h : Answers id type r) (htype : type = "call") :
    ∃ success value reason, r = .result id success value reason := by
  cases h with
  | result => exact ⟨_, _, _, rfl⟩
  | unknown _ hcall => exact absurd htype hcall
  | pong | initialized | refused => exact absurd htype (by decide)

/-- The answer to a load. -/
theorem Answers.load (h : Answers id type r) (htype : type = "initialize") :
    (∃ hasStorage, r = .initialized hasStorage) ∨ ∃ words, r = .error id words := by
  cases h with
  | initialized => exact .inl ⟨_, rfl⟩
  | refused => exact .inr ⟨_, rfl⟩
  | unknown _ _ hload => exact absurd htype hload
  | pong | result => exact absurd htype (by decide)

/-- The answer to everything else. -/
theorem Answers.other (h : Answers id type r) (hping : type ≠ "ping") (hcall : type ≠ "call")
    (hload : type ≠ "initialize") : ∃ words, r = .error id words := by
  cases h with
  | unknown => exact ⟨_, rfl⟩
  | pong => exact absurd rfl hping
  | result => exact absurd rfl hcall
  | initialized | refused => exact absurd rfl hload

/-- An answer has the id of its message, but for that to a load that succeeded. -/
theorem Answers.id? (h : Answers id type r) (hload : ∀ hasStorage, r ≠ .initialized hasStorage) :
    r.id? = id := by
  cases h with
  | initialized => exact absurd rfl (hload _)
  | pong | result | refused | unknown => rfl

/-- An outcome tells one thing. -/
theorem Answers.told (h : Answers id type r) {id' : Option Json} {success : Bool}
    {value : Option Json} {reason : Option String} (hr : r = .result id' success value reason) :
    Told success value reason := by
  cases h with
  | result htold =>
    cases hr
    exact htold
  | pong | initialized | refused | unknown => cases hr

end Response

open Response (Answers)

/-! ### Requests -/

namespace Request

/-- The type of the messages that ask for something. -/
def type : Request → String
  | load .. => "initialize"
  | call .. => "call"
  | ping _ => "ping"

variable {id data : Option Json} {type : String} {r : Request} {fault : RequestFault}

/-- A request keeps the id and the type of its envelope. -/
theorem ofEnvelope_ok (h : ofEnvelope type id data = .ok r) : r.id? = id ∧ r.type = type := by
  unfold ofEnvelope at h
  split at h
  · cases hl : readLocation data with
    | ok location =>
      rw [hl] at h
      cases h
      exact ⟨rfl, rfl⟩
    | error fault => rw [hl] at h; cases h
  · cases hc : readCallee data with
    | ok callee =>
      rw [hc] at h
      cases h
      exact ⟨rfl, rfl⟩
    | error fault => rw [hc] at h; cases h
  · cases h
    exact ⟨rfl, rfl⟩
  · cases h

/-- An envelope that holds no request is answered in the way of its type.  A ping always is one. -/
theorem ofEnvelope_error (h : ofEnvelope type id data = .error fault) :
    Answers id type (RequestError.toResponse ⟨id, some type, fault⟩) := by
  unfold ofEnvelope at h
  split at h
  · exact .refused
  · exact .result ⟨by simp, by simp⟩
  · cases h
  · rename_i hload hcall hping
    have hresponse : RequestError.toResponse ⟨id, some type, fault⟩ =
        .error id (RequestError.message ⟨id, some type, fault⟩) := by
      unfold RequestError.toResponse
      split
      · rename_i hkind
        exact absurd (Option.some.inj hkind) hcall
      · rfl
    rw [hresponse]
    exact .unknown hping hcall hload

variable {fields : List (String × Json)}

/-- A message of a type that is a text is read by its type. -/
theorem parse_of_type (h : field? "type" fields = some (.string type)) :
    parse (.object fields) =
      (ofEnvelope type (present (field? "id" fields)) (present (field? "data" fields))).mapError
        fun fault => ⟨present (field? "id" fields), some type, fault⟩ := by
  simp only [parse, Envelope.ofJson, h]
  rfl

/-- A message without a type that is a text is no request. -/
theorem parse_of_no_type (h : ∀ type, field? "type" fields ≠ some (.string type)) :
    ∃ fault, parse (.object fields) = .error ⟨present (field? "id" fields), none, fault⟩ := by
  simp only [parse, Envelope.ofJson]
  cases htype : field? "type" fields with
  | none => exact ⟨_, rfl⟩
  | some found =>
    cases found with
    | string type => exact absurd htype (h type)
    | null | bool | number | array | object => exact ⟨_, rfl⟩

end Request

/-! ### Hosts -/

namespace Host

variable {σ : Type} {P : Platform σ}

/-- Whatever comes of loading is an answer to a load. -/
theorem answers_load (id : Option Json) (outcome : Except HostError Bool) :
    Answers id "initialize" (loadResponse id outcome) := by
  unfold loadResponse
  split
  · exact .initialized
  · exact .refused
  · exact .refused
  · exact .refused

/-- Whatever comes of calling is an answer to a call. -/
theorem answers_call (id : Option Json) (outcome : Except HostError Json) :
    Answers id "call" (callResponse id outcome) := by
  cases outcome with
  | ok value => exact .result ⟨by simp, by simp⟩
  | error e => exact .result ⟨by simp, by simp⟩

/-- A request is answered in the way of its type, in whatever state the host is. -/
theorem answers_request (r : Request) (w : Host P × σ) :
    Answers r.id? r.type (handleRequest r w).1 := by
  cases r with
  | load id location => exact answers_load id (load location w).1
  | call id function args => exact answers_call id (call function args w).1
  | ping id => exact .pong

/-- A message of a type that is a text is answered in the way of its type. -/
theorem handle_of_type {fields : List (String × Json)} {type : String}
    (htype : field? "type" fields = some (.string type)) (w : Host P × σ) :
    Answers (present (field? "id" fields)) type (handle (.object fields) w).1 := by
  rw [handle, Request.parse_of_type htype]
  cases henvelope : Request.ofEnvelope type (present (field? "id" fields))
      (present (field? "data" fields)) with
  | ok request =>
    obtain ⟨hid, hkind⟩ := Request.ofEnvelope_ok henvelope
    rw [← hid, ← hkind]
    exact answers_request request w
  | error fault => exact Request.ofEnvelope_error henvelope

/-- A message without a type that is a text is answered with an error. -/
theorem handle_of_no_type {fields : List (String × Json)}
    (htype : ∀ type, field? "type" fields ≠ some (.string type)) (w : Host P × σ) :
    ∃ words, (handle (.object fields) w).1 = .error (present (field? "id" fields)) words := by
  obtain ⟨fault, hparse⟩ := Request.parse_of_no_type htype
  rw [handle, hparse]
  exact ⟨_, rfl⟩

/-- **Every message is answered with the right kind of response and its own id**, in every state of
the host, which takes in those that messages lead to, and on every platform, whatever modules there
do.  A ping is answered as a ping; a call with an outcome, well formed or not; a load with one of
its two responses; and everything else with an error.  Only the answer to a load that succeeded
has no id.  An outcome is a success exactly when it has a value and exactly when it has no
reason. -/
theorem handle_object (P : Platform σ) (h : Host P) (s : σ) (fields : List (String × Json)) :
    let type := field? "type" fields
    let id := present (field? "id" fields)
    let r := (handle (.object fields) (h, s)).1
    (type = some (.string "ping") → r = .pong id) ∧
    (type = some (.string "call") → ∃ success value reason, r = .result id success value reason) ∧
    (type = some (.string "initialize") →
      (∃ hasStorage, r = .initialized hasStorage) ∨ ∃ words, r = .error id words) ∧
    (type ≠ some (.string "ping") → type ≠ some (.string "call") →
      type ≠ some (.string "initialize") → ∃ words, r = .error id words) ∧
    ((∀ hasStorage, r ≠ .initialized hasStorage) → r.id? = id) ∧
    (∀ hasStorage, r = .initialized hasStorage → r.id? = none) ∧
    ∀ id' success value reason, r = .result id' success value reason →
      (success = true ↔ value.isSome = true) ∧ (success = true ↔ reason = none) := by
  intro type id r
  have hunloaded : ∀ hasStorage, r = .initialized hasStorage → r.id? = none := by
    rintro hasStorage hr
    rw [hr]
    rfl
  by_cases htext : ∃ name, type = some (.string name)
  · obtain ⟨name, htype⟩ := htext
    have hanswer : Answers id name r := handle_of_type htype (h, s)
    simp only [htype, ne_eq, Option.some.injEq, Json.string.injEq]
    exact ⟨hanswer.ping, hanswer.call, hanswer.load, hanswer.other, hanswer.id?, hunloaded,
      fun _ _ _ _ hresult => hanswer.told hresult⟩
  · -- a type that is no text is none of the three
    have hno := not_exists.1 htext
    obtain ⟨words, hr⟩ : ∃ words, r = .error id words := handle_of_no_type hno (h, s)
    refine ⟨fun htype => absurd htype (hno _), fun htype => absurd htype (hno _),
      fun htype => absurd htype (hno _), fun _ _ _ => ⟨words, hr⟩, fun _ => ?_, hunloaded, ?_⟩
    · rw [hr]
      rfl
    · intro id' success value reason hresult
      rw [hr] at hresult
      cases hresult

end Host

end EngineHost
