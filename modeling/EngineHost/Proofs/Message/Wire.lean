import EngineHost.Message.Response
import EngineHost.Proofs.Attempt
import EngineHost.Proofs.Json.Fields

/-!
# Responses read back

A response is written with the fields it has and read by the names of its fields, where `null` and a
field that is left out say the same.

* `Response.settled` : a response with nothing in the place of a `null`.
* `Response.ofJson_fields` : the fields of a response are read as the settled response, in whatever
  order they come (`Response.ofJson_congr`).
* `Response.settled_of_ofJson` : what is read is settled.
* `Response.ofJson_toJson` : hence writing and reading settles a response, and does nothing to one
  that was read.
-/

namespace EngineHost

open Json

namespace Response

/-- A response as it is read back: an id or a value that is `null` is none. -/
def settled : Response → Response
  | ready => ready
  | initialized hasStorage => initialized hasStorage
  | error id message => error (present id) message
  | result id success value reason => result (present id) success (present value) reason
  | pong id => pong (present id)

variable {r : Response} {kind : String} {fs gs : List (String × Json)} {items : List Json}

/-! ### Writing -/

theorem field?_field (key k : String) (value : Option Json) :
    field? key (field k value) = if k = key then value else none := by
  cases value with
  | none => simp [field, field?]
  | some j => rfl

/-- A response has each of its fields once. -/
theorem nodup_fields (r : Response) : (r.fields.map Prod.fst).Nodup := by
  cases r with
  | ready => decide
  | initialized hasStorage => simp [fields]
  | error id message => cases id <;> simp [fields, field]
  | result id success value reason =>
    cases id <;> cases value <;> cases reason <;> simp [fields, field]
  | pong id => cases id <;> simp [fields, field]

/-! ### Reading -/

theorem ofFields_congr (h : ∀ key, field? key fs = field? key gs) (kind : String) :
    ofFields kind fs = ofFields kind gs := by
  simp only [ofFields, h]

/-- A response is read by the names of its fields only. -/
theorem ofJson_congr (h : ∀ key, field? key fs = field? key gs) :
    ofJson (.object fs) = ofJson (.object gs) := by
  simp only [ofJson, h, ofFields_congr h]

/-- The fields of a response are read as what it says. -/
theorem ofJson_fields (r : Response) : ofJson (.object r.fields) = .ok r.settled := by
  cases r with
  | ready => rfl
  | initialized hasStorage => rfl
  | error id message =>
    have hkind : ofJson (.object (error id message).fields) =
        ofFields "error" (error id message).fields := rfl
    have hid : field? "id" (error id message).fields = id := by
      simp [fields, field?_cons, field?_append, field?_field, field?]
    have hmessage : field? "message" (error id message).fields = some (.string message) := by
      simp [fields, field?_cons, field?_append, field?_field, field?]
    simp only [hkind, ofFields, hid, hmessage]
    rfl
  | result id success value reason =>
    have hkind : ofJson (.object (result id success value reason).fields) =
        ofFields "result" (result id success value reason).fields := rfl
    have hid : field? "id" (result id success value reason).fields = id := by
      simp [fields, field?_cons, field?_append, field?_field]
    have hsuccess : field? "success" (result id success value reason).fields =
        some (.bool success) := by
      simp [fields, field?_cons, field?_append, field?_field]
    have hvalue : field? "result" (result id success value reason).fields = value := by
      simp [fields, field?_cons, field?_append, field?_field]
    have hreason : field? "error" (result id success value reason).fields =
        reason.map .string := by
      simp [fields, field?_cons, field?_append, field?_field]
    have htext : optionalField asText (reason.map .string) = .ok reason := by
      cases reason <;> rfl
    simp only [hkind, ofFields, hid, hsuccess, hvalue, hreason, htext]
    rfl
  | pong id =>
    have hkind : ofJson (.object (pong id).fields) = ofFields "pong" (pong id).fields := rfl
    have hid : field? "id" (pong id).fields = id := by
      simp [fields, field?_cons, field?_field]
    simp only [hkind, ofFields, hid]
    rfl

/-- A response that is read by its fields is settled. -/
theorem settled_of_ofFields (h : ofFields kind fs = .ok r) : r.settled = r := by
  unfold ofFields at h
  dsimp only at h
  split at h
  · cases h
    rfl
  · obtain ⟨hasStorage, -, hr⟩ := except_bind_ok_iff.1 h
    cases hr
    rfl
  · obtain ⟨message, -, hr⟩ := except_bind_ok_iff.1 h
    cases hr
    rw [settled, present_present]
  · obtain ⟨reason, -, hrest⟩ := except_bind_ok_iff.1 h
    obtain ⟨success, -, hr⟩ := except_bind_ok_iff.1 hrest
    cases hr
    rw [settled, present_present, present_present]
  · cases h
    rw [settled, present_present]
  · cases h

/-- A response that is read by its items is settled. -/
theorem settled_of_ofItems (h : ofItems kind items = .ok r) : r.settled = r := by
  unfold ofItems at h
  dsimp only at h
  split at h
  · obtain ⟨-, -, hr⟩ := except_bind_ok_iff.1 h
    cases hr
    rfl
  · split at h
    · obtain ⟨hasStorage, -, hrest⟩ := except_bind_ok_iff.1 h
      obtain ⟨-, -, hr⟩ := except_bind_ok_iff.1 hrest
      cases hr
      rfl
    · cases h
  · split at h
    · obtain ⟨message, -, hrest⟩ := except_bind_ok_iff.1 h
      obtain ⟨-, -, hr⟩ := except_bind_ok_iff.1 hrest
      cases hr
      rw [settled, present_present]
    · cases h
  · split at h
    · obtain ⟨success, -, hrest⟩ := except_bind_ok_iff.1 h
      obtain ⟨reason, -, hrest⟩ := except_bind_ok_iff.1 hrest
      obtain ⟨-, -, hr⟩ := except_bind_ok_iff.1 hrest
      cases hr
      rw [settled, present_present, present_present]
    · cases h
  · obtain ⟨-, -, hr⟩ := except_bind_ok_iff.1 h
    cases hr
    rw [settled, present_present]
  · cases h

/-- What is read is settled. -/
theorem settled_of_ofJson {j : Json} (h : ofJson j = .ok r) : r.settled = r := by
  cases j with
  | object fs =>
    obtain ⟨kind, -, hr⟩ := except_bind_ok_iff.1 h
    exact settled_of_ofFields hr
  | array items =>
    obtain ⟨kind, -, hr⟩ := except_bind_ok_iff.1 h
    exact settled_of_ofItems hr
  | null | bool | number | string => cases h

/-- A response that is written and read again is settled. -/
theorem ofJson_written (r : Response) : ofJson r.toJson = .ok r.settled := by
  obtain ⟨sorted, hsorted, hfields⟩ := ofFields_of_nodup (nodup_fields r)
  rw [toJson, hsorted, ofJson_congr hfields, ofJson_fields]

/-- **Responses survive the wire.**  A response that is written as a value and read again is the
same but for an id and a value that are `null`, which are none then.  So two responses that are
written alike say the same but for this, and a response that was itself read, from whatever value,
is read again as it is. -/
theorem ofJson_toJson (r : Response) :
    ofJson r.toJson = .ok r.settled ∧
    (∀ r' : Response, r'.toJson = r.toJson → r'.settled = r.settled) ∧
    ∀ j, ofJson j = .ok r → ofJson r.toJson = .ok r := by
  refine ⟨ofJson_written r, fun r' h => ?_, fun j hj => ?_⟩
  · have hread : Except.ok r'.settled = Except.ok (ε := Mismatch) r.settled := by
      rw [← ofJson_written, ← ofJson_written, h]
    exact Except.ok.inj hread
  · rw [ofJson_written, settled_of_ofJson hj]

end Response

end EngineHost
