import EngineHost.Message.Request
import EngineHost.Proofs.Message.Wire

/-!
# The grammar of requests

A message is read in two layers: it is opened as an envelope, and the data in it is read by its
type.  In both layers fields come by their names in an object or in their order in an array, and
`null` counts as nothing where a field may be left out.

* `Request.Opens` : the messages that are envelopes, and what is in them.
* `Request.Asks` : the requests that an envelope of a type asks for, told by its data
  (`Request.Locates`, `Request.Calls`).
* `Request.Stands` : the messages that stand for a request, which are those that are read as it
  (`Request.parse_ok_iff`).
* `Request.parse_of_not_stands` : what the error tells of any other message.
* `Request.stands_toMessage` : the message that asks for a request.
* `Request.parse_grammar` : all this together.
-/

namespace EngineHost

open Json

namespace Request

/-- What a field that may be left out says; `null` says nothing. -/
inductive Says : Option Json → Option Json → Prop
  | missing : Says none none
  | null : Says (some .null) none
  | value {j : Json} : j ≠ .null → Says (some j) (some j)

/-- The messages that are envelopes, and the type, id and data in them. -/
inductive Opens : Json → Option Json → Option Json → Option Json → Prop
  | object {fs : List (String × Json)} {type id data : Option Json} :
      Says (field? "type" fs) type → Says (field? "id" fs) id → Says (field? "data" fs) data →
      Opens (.object fs) type id data
  | array {items : List Json} {type id data : Option Json} : items.length ≤ 3 →
      Says items[0]? type → Says items[1]? id → Says items[2]? data →
      Opens (.array items) type id data

/-- The data of a load request, and the location in it. -/
inductive Locates : Json → String → Prop
  | object {fs : List (String × Json)} {location : String} :
      field? "wasmUrl" fs = some (.string location) → Locates (.object fs) location
  | array {location : String} : Locates (.array [.string location]) location

/-- Arguments, which may be left out. -/
inductive Passes : Option Json → List Json → Prop
  | missing : Passes none []
  | null : Passes (some .null) []
  | array {args : List Json} : Passes (some (.array args)) args

/-- The data of a call request, and the function and arguments in it. -/
inductive Calls : Json → String → List Json → Prop
  | object {fs : List (String × Json)} {function : String} {args : List Json} :
      field? "functionName" fs = some (.string function) → Passes (field? "args" fs) args →
      Calls (.object fs) function args
  | array {rest : List Json} {function : String} {args : List Json} : rest.length ≤ 1 →
      Passes rest.head? args → Calls (.array (.string function :: rest)) function args

/-- The requests that an envelope of a type asks for. -/
inductive Asks : String → Option Json → Option Json → Request → Prop
  | ping {id data : Option Json} : Asks "ping" id data (ping id)
  | load {id : Option Json} {data : Json} {location : String} : Locates data location →
      Asks "initialize" id (some data) (load id location)
  | call {id : Option Json} {data : Json} {function : String} {args : List Json} :
      Calls data function args → Asks "call" id (some data) (call id function args)

/-- The messages that stand for a request. -/
def Stands (m : Json) (r : Request) : Prop :=
  ∃ name id data, Opens m (some (.string name)) id data ∧ Asks name id data r

/-- The fields of an envelope; those without a value are left out. -/
def envelope (name : String) (id data : Option Json) : List (String × Json) :=
  ("type", .string name) :: Response.field "id" id ++ Response.field "data" data

/-- The fields of the message that asks for a request. -/
def fields : Request → List (String × Json)
  | load id location =>
    envelope "initialize" id (some (.ofFields [("wasmUrl", .string location)]))
  | call id function args =>
    envelope "call" id
      (some (.ofFields [("functionName", .string function), ("args", .array args)]))
  | ping id => envelope "ping" id none

/-- The message that asks for a request. -/
def toMessage (r : Request) : Json := .ofFields r.fields

variable {m j : Json} {o v type id data : Option Json} {r : Request} {location function : String}
  {args : List Json}

/-! ### Envelopes -/

theorem says_iff : Says o v ↔ present o = v := by
  constructor
  · intro h
    cases h with
    | missing => rfl
    | null => rfl
    | value hj => exact present_of_ne_null hj
  · rintro rfl
    cases o with
    | none => exact .missing
    | some j =>
      cases j with
      | null => exact .null
      | bool | number | string | array | object => exact .value nofun

theorem opens_iff : Opens m type id data ↔ Envelope.ofJson m = .ok ⟨type, id, data⟩ := by
  constructor
  · intro h
    cases h with
    | object htype hid hdata =>
      rw [says_iff] at htype hid hdata
      rw [Envelope.ofJson, htype, hid, hdata]
    | array hlength htype hid hdata =>
      rw [says_iff] at htype hid hdata
      rw [Envelope.ofJson, if_pos hlength, htype, hid, hdata]
  · intro h
    cases m with
    | object fs =>
      cases h
      exact .object (says_iff.2 rfl) (says_iff.2 rfl) (says_iff.2 rfl)
    | array items =>
      rw [Envelope.ofJson] at h
      split_ifs at h with hlength
      cases h
      exact .array hlength (says_iff.2 rfl) (says_iff.2 rfl) (says_iff.2 rfl)
    | null | bool | number | string => cases h

/-! ### Data -/

theorem asText_ok_iff {s : String} : asText j = .ok s ↔ j = .string s := by
  cases j with
  | string text => simp [asText]
  | null | bool | number | array | object => simp [asText]

theorem requiredField_asText_ok_iff {s field : String} :
    requiredField asText field o = .ok s ↔ o = some (.string s) := by
  cases o with
  | none => simp [requiredField]
  | some j => simp [requiredField, asText_ok_iff]

/-- Arguments are read as a list, which is empty when they are left out. -/
theorem passes_iff : Passes o args ↔ ∃ found, optionalField asItems o = .ok found ∧
    found.getD [] = args := by
  constructor
  · intro h
    cases h with
    | missing => exact ⟨none, rfl, rfl⟩
    | null => exact ⟨none, rfl, rfl⟩
    | array => exact ⟨_, rfl, rfl⟩
  · rintro ⟨found, hfound, rfl⟩
    cases o with
    | none =>
      cases hfound
      exact .missing
    | some j =>
      cases j with
      | null =>
        cases hfound
        exact .null
      | array items =>
        cases hfound
        exact .array
      | bool | number | string | object => cases hfound

theorem locates_iff : Locates j location ↔ locationOf j = .ok location := by
  constructor
  · intro h
    cases h with
    | object h => rw [locationOf, requiredField_asText_ok_iff, h]
    | array => rfl
  · intro h
    cases j with
    | object fs => exact .object (requiredField_asText_ok_iff.1 h)
    | array items =>
      cases items with
      | nil => cases h
      | cons j rest =>
        obtain ⟨text, htext, hrest⟩ := except_bind_ok_iff.1 h
        rw [asText_ok_iff] at htext
        cases rest with
        | nil =>
          cases hrest
          exact htext ▸ .array
        | cons j' rest => cases hrest
    | null | bool | number | string => cases h

theorem calls_iff : Calls j function args ↔ calleeOf j = .ok (function, args) := by
  constructor
  · intro h
    cases h with
    | object hfunction hargs =>
      obtain ⟨found, hfound, rfl⟩ := passes_iff.1 hargs
      rw [calleeOf, hfound, requiredField_asText_ok_iff.2 hfunction]
      rfl
    | array hlength hargs =>
      obtain ⟨found, hfound, rfl⟩ := passes_iff.1 hargs
      exact except_bind_ok_iff.2 ⟨_, rfl, except_bind_ok_iff.2 ⟨found, hfound, if_pos hlength⟩⟩
  · intro h
    cases j with
    | object fs =>
      obtain ⟨found, hfound, hrest⟩ := except_bind_ok_iff.1 h
      obtain ⟨text, htext, hpure⟩ := except_bind_ok_iff.1 hrest
      cases hpure
      exact .object (requiredField_asText_ok_iff.1 htext) (passes_iff.2 ⟨found, hfound, rfl⟩)
    | array items =>
      cases items with
      | nil => cases h
      | cons j rest =>
        obtain ⟨text, htext, hrest⟩ := except_bind_ok_iff.1 h
        obtain ⟨found, hfound, hrest⟩ := except_bind_ok_iff.1 hrest
        rw [asText_ok_iff] at htext
        split_ifs at hrest with hlength
        cases hrest
        exact htext ▸ .array hlength (passes_iff.2 ⟨found, hfound, rfl⟩)
    | null | bool | number | string => cases h

/-! ### Messages -/

theorem readLocation_ok_iff :
    readLocation data = .ok location ↔ ∃ j, data = some j ∧ Locates j location := by
  cases data with
  | none => simp [readLocation]
  | some j => simp [readLocation, except_mapError_ok_iff, locates_iff]

theorem readCallee_ok_iff : readCallee data = .ok (function, args) ↔
    ∃ j, data = some j ∧ Calls j function args := by
  cases data with
  | none => simp [readCallee]
  | some j => simp [readCallee, except_mapError_ok_iff, calls_iff]

theorem asks_iff {name : String} : Asks name id data r ↔ ofEnvelope name id data = .ok r := by
  constructor
  · intro h
    cases h with
    | ping => rfl
    | load h => exact except_map_ok_iff.2 ⟨_, readLocation_ok_iff.2 ⟨_, rfl, h⟩, rfl⟩
    | call h => exact except_map_ok_iff.2 ⟨_, readCallee_ok_iff.2 ⟨_, rfl, h⟩, rfl⟩
  · intro h
    unfold ofEnvelope at h
    split at h
    · obtain ⟨location, hread, rfl⟩ := except_map_ok_iff.1 h
      obtain ⟨j, rfl, hlocates⟩ := readLocation_ok_iff.1 hread
      exact .load hlocates
    · obtain ⟨⟨function, args⟩, hread, rfl⟩ := except_map_ok_iff.1 h
      obtain ⟨j, rfl, hcalls⟩ := readCallee_ok_iff.1 hread
      exact .call hcalls
    · cases h
      exact .ping
    · cases h

/-- A message that is no envelope is no request, and the error tells nothing of it. -/
theorem parse_of_not_opens (h : ∀ type id data, ¬ Opens m type id data) :
    ∃ fault, parse m = .error ⟨none, none, fault⟩ := by
  cases henvelope : Envelope.ofJson m with
  | ok e => exact absurd (opens_iff.2 henvelope) (h e.type e.id e.data)
  | error mismatch => exact ⟨.notEnvelope mismatch, by simp only [parse, henvelope]⟩

/-- An envelope with a type that is a text is read by its type. -/
theorem parse_of_text {name : String} (h : Opens m (some (.string name)) id data) :
    parse m = (ofEnvelope name id data).mapError fun fault => ⟨id, some name, fault⟩ := by
  simp only [parse, opens_iff.1 h]

/-- An envelope with another type or none is no request. -/
theorem parse_of_no_text (h : Opens m type id data) (htype : ∀ name, type ≠ some (.string name)) :
    ∃ fault, parse m = .error ⟨id, none, fault⟩ := by
  simp only [parse, opens_iff.1 h]
  cases type with
  | none => exact ⟨_, rfl⟩
  | some found =>
    cases found with
    | string name => exact absurd rfl (htype name)
    | null | bool | number | array | object => exact ⟨_, rfl⟩

/-- An envelope holds one type, one id and one data. -/
theorem Opens.unique {type' id' data' : Option Json} (h : Opens m type id data)
    (h' : Opens m type' id' data') : type = type' ∧ id = id' ∧ data = data' := by
  have heq := (opens_iff.1 h).symm.trans (opens_iff.1 h')
  cases heq
  exact ⟨rfl, rfl, rfl⟩

/-- A message is read as a request exactly when it stands for it. -/
theorem parse_ok_iff : parse m = .ok r ↔ Stands m r := by
  constructor
  · intro h
    by_cases hopens : ∃ type id data, Opens m type id data
    · obtain ⟨type, id, data, hopens⟩ := hopens
      by_cases htype : ∃ name, type = some (.string name)
      · obtain ⟨name, rfl⟩ := htype
        rw [parse_of_text hopens, except_mapError_ok_iff] at h
        exact ⟨name, id, data, hopens, asks_iff.2 h⟩
      · obtain ⟨fault, hfault⟩ := parse_of_no_text hopens (not_exists.1 htype)
        rw [hfault] at h
        cases h
    · simp only [not_exists] at hopens
      obtain ⟨fault, hfault⟩ := parse_of_not_opens hopens
      rw [hfault] at h
      cases h
  · rintro ⟨name, id, data, hopens, hasks⟩
    rw [parse_of_text hopens, except_mapError_ok_iff]
    exact asks_iff.1 hasks

/-- The error for a message that stands for no request tells of its envelope what there is. -/
theorem parse_of_not_stands (h : ∀ r, ¬ Stands m r) : ∃ e, parse m = .error e ∧
    (∀ type id data, Opens m type id data →
      e.id = id ∧ ∀ name, e.kind = some name ↔ type = some (.string name)) ∧
    ((∀ type id data, ¬ Opens m type id data) → e.id = none ∧ e.kind = none) := by
  by_cases hopens : ∃ type id data, Opens m type id data
  · obtain ⟨type, id, data, hopens⟩ := hopens
    by_cases htype : ∃ name, type = some (.string name)
    · obtain ⟨name, rfl⟩ := htype
      cases hread : ofEnvelope name id data with
      | ok r => exact absurd ⟨name, id, data, hopens, asks_iff.2 hread⟩ (h r)
      | error fault =>
        refine ⟨⟨id, some name, fault⟩, ?_, ?_, fun hno => absurd hopens (hno _ _ _)⟩
        · rw [parse_of_text hopens, hread]
          rfl
        · rintro type' id' data' h'
          obtain ⟨rfl, rfl, rfl⟩ := hopens.unique h'
          simp
    · obtain ⟨fault, hfault⟩ := parse_of_no_text hopens (not_exists.1 htype)
      refine ⟨_, hfault, ?_, fun hno => absurd hopens (hno _ _ _)⟩
      rintro type' id' data' h'
      obtain ⟨rfl, rfl, rfl⟩ := hopens.unique h'
      exact ⟨rfl, fun name => ⟨nofun, fun heq => absurd ⟨name, heq⟩ htype⟩⟩
  · simp only [not_exists] at hopens
    obtain ⟨fault, hfault⟩ := parse_of_not_opens hopens
    exact ⟨_, hfault, fun type id data h' => absurd h' (hopens _ _ _), fun _ => ⟨rfl, rfl⟩⟩

/-! ### Asking -/

/-- A field that is left out when it has no value says its value. -/
theorem says_self (h : o ≠ some .null) : Says o o := by
  cases o with
  | none => exact .missing
  | some j => exact .value fun hj => h (congrArg some hj)

/-- The fields of an envelope are those it is opened to. -/
theorem opens_envelope (name : String) (hid : id ≠ some .null) (hdata : data ≠ some .null) :
    Opens (.ofFields (envelope name id data)) (some (.string name)) id data := by
  have hnodup : ((envelope name id data).map Prod.fst).Nodup := by
    cases id <;> cases data <;> simp [envelope, Response.field]
  obtain ⟨sorted, hsorted, hfields⟩ := ofFields_of_nodup hnodup
  have htype : field? "type" sorted = some (.string name) := by
    simp [hfields, envelope, field?_cons]
  have hid' : field? "id" sorted = id := by
    simp [hfields, envelope, field?_cons, field?_append, Response.field?_field]
  have hdata' : field? "data" sorted = data := by
    simp [hfields, envelope, field?_cons, field?_append, Response.field?_field]
  rw [hsorted]
  refine .object ?_ ?_ ?_
  · rw [htype]
    exact says_self (by simp)
  · rw [hid']
    exact says_self hid
  · rw [hdata']
    exact says_self hdata

/-- A request under an id that is not `null` is what its message stands for. -/
theorem stands_toMessage (h : r.id? ≠ some .null) : Stands r.toMessage r := by
  cases r with
  | load id location =>
    have hnodup : ([("wasmUrl", Json.string location)].map Prod.fst).Nodup := by simp
    obtain ⟨data, hdata, hfields⟩ := ofFields_of_nodup hnodup
    refine ⟨"initialize", id, _, opens_envelope _ h (by rw [hdata]; nofun), ?_⟩
    rw [hdata]
    exact .load (.object (by simp [hfields, field?_cons]))
  | call id function args =>
    have hnodup :
        ([("functionName", Json.string function), ("args", .array args)].map Prod.fst).Nodup := by
      simp
    obtain ⟨data, hdata, hfields⟩ := ofFields_of_nodup hnodup
    refine ⟨"call", id, _, opens_envelope _ h (by rw [hdata]; nofun), ?_⟩
    rw [hdata]
    have hargs : field? "args" data = some (.array args) := by simp [hfields, field?_cons]
    exact .call (.object (by simp [hfields, field?_cons]) (hargs ▸ .array))
  | ping id => exact ⟨"ping", id, none, opens_envelope _ h nofun, .ping⟩

/-- **A message is read as a request exactly when it stands for it**, and the request is the one it
stands for.  The error for any other message tells the id of the envelope and its type, when that is
a text; it tells neither when the message is no envelope.  And every request can be asked for, but
under the id `null`. -/
theorem parse_grammar :
    (∀ m r, parse m = .ok r ↔ Stands m r) ∧
    (∀ m, (∀ r, ¬ Stands m r) → ∃ e, parse m = .error e ∧
      (∀ type id data, Opens m type id data →
        e.id = id ∧ ∀ name, e.kind = some name ↔ type = some (.string name)) ∧
      ((∀ type id data, ¬ Opens m type id data) → e.id = none ∧ e.kind = none)) ∧
    ∀ r : Request, r.id? ≠ some .null → parse r.toMessage = .ok r :=
  ⟨fun _ _ => parse_ok_iff, fun _ => parse_of_not_stands,
    fun _ h => parse_ok_iff.2 (stands_toMessage h)⟩

end Request

end EngineHost
