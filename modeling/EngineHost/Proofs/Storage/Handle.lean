import EngineHost.Proofs.Tree.Bytes

/-!
# Calls through one access handle

The holder of an access handle reads, writes and measures one file while others go on with the
rest of the storage.  Here the calls of the holder are data, so that the same calls can be made on
two storages, and what they should answer is told by a plain list of bytes: `HandleCall.answer` and
`HandleCall.after`.

* `Storage.answers` : the answers to calls made one after another, with others between them.
* `HandleCall.answersFrom` : the answers of a list of bytes.
-/

namespace EngineHost

/-- A call through an access handle. -/
inductive HandleCall where
  | read (count : Nat) (offset : UInt64)
  | write (bytes : List UInt8) (offset : UInt64)
  | truncate (length : UInt64)
  | flush
  | size
  deriving DecidableEq, Repr

/-- What a call through an access handle answers. -/
inductive HandleAnswer where
  /-- A count, and what a buffer holds up to it. -/
  | chunk (chunk : Chunk)
  | written (count : Nat)
  | done
  | size (length : Nat)
  deriving DecidableEq, Repr

namespace HandleCall

variable {σ : Type}

/-- A call made on a storage. -/
def perform (S : Storage σ) (h : S.Access) : HandleCall → StorageM σ HandleAnswer
  | read count offset => HandleAnswer.chunk <$> S.read h count offset
  | write bytes offset => HandleAnswer.written <$> S.write h bytes offset
  | truncate length => (fun _ => HandleAnswer.done) <$> S.truncate h length
  | flush => (fun _ => HandleAnswer.done) <$> S.flush h
  | size => HandleAnswer.size <$> S.size h

/-- Offsets, sizes and the ends of what is read or written stay below `2 ^ 63`. -/
def InRange : HandleCall → Prop
  | read count offset => offset.toNat + count < 0x8000000000000000
  | write bytes offset => offset.toNat + bytes.length < 0x8000000000000000
  | truncate length => length.toNat < 0x8000000000000000
  | flush | size => True

instance : DecidablePred InRange := fun c => by
  cases c <;> unfold InRange <;> infer_instance

/-- The length of a file after a call. -/
def lengthAfter (n : Nat) : HandleCall → Nat
  | write bytes offset => max n (offset.toNat + bytes.length)
  | truncate length => length.toNat
  | read .. | flush | size => n

/-- The bytes of a file after a call. -/
def after (l : List UInt8) : HandleCall → List UInt8
  | write bytes offset => Bytes.patch l offset.toNat bytes
  | truncate length => Bytes.fit l length.toNat
  | read .. | flush | size => l

/-- What a file of the given bytes answers. -/
def answer (l : List UInt8) : HandleCall → HandleAnswer
  | read count offset => .chunk (.ofBytes ((l.drop offset.toNat).take count))
  | write bytes _ => .written bytes.length
  | truncate _ | flush => .done
  | size => .size l.length

/-- What a file of the given bytes answers to calls one after another, each of which leaves it the
bytes that `step` says. -/
def answersFrom (step : List UInt8 → HandleCall → List UInt8) :
    List UInt8 → List HandleCall → List HandleAnswer
  | _, [] => []
  | l, c :: cs => c.answer l :: answersFrom step (step l c) cs

/-- A write of no bytes starts within a file of a length or at its end. -/
def Touches (n : Nat) (c : HandleCall) : Prop := ∀ offset, c = write [] offset → offset.toNat ≤ n

/-- Every write of no bytes starts within the file as the calls before it left it, or at its
end. -/
def AllTouch : List UInt8 → List HandleCall → Prop
  | _, [] => True
  | l, c :: cs => c.Touches l.length ∧ AllTouch (c.after l) cs

/-- The bytes of a file of a disk after a call: writing nothing changes nothing. -/
def afterOnDisk (l : List UInt8) : HandleCall → List UInt8
  | write [] _ => l
  | c => c.after l

theorem afterOnDisk_of_touches {l : List UInt8} {c : HandleCall} (h : c.Touches l.length) :
    c.afterOnDisk l = c.after l := by
  cases c with
  | write bytes offset =>
    cases bytes with
    | nil => exact (Bytes.patch_nil (h offset rfl)).symm
    | cons b bytes => rfl
  | read | truncate | flush | size => rfl

theorem answersFrom_afterOnDisk {l : List UInt8} {cs : List HandleCall} (h : AllTouch l cs) :
    answersFrom afterOnDisk l cs = answersFrom after l cs := by
  induction cs generalizing l with
  | nil => rfl
  | cons c cs ih => rw [answersFrom, answersFrom, afterOnDisk_of_touches h.1, ih h.2]

end HandleCall

/-- A call through an access handle, after what others did since the call before it. -/
structure HandleTurn (σ : Type) where
  others : σ → σ
  call : HandleCall

namespace Storage

variable {σ : Type} (S : Storage σ) (h : S.Access)

/-- The answers to calls made one after another. -/
def answers : List (HandleTurn σ) → σ → List (Except StorageError HandleAnswer)
  | [], _ => []
  | u :: us, s =>
    match u.call.perform S h (u.others s) with
    | .ok a s' => .ok a :: answers us s'
    | .error e s' => .error e :: answers us s'

/-- Every turn meets a condition in the state in which it comes. -/
def Throughout (P : σ → HandleTurn σ → Prop) : List (HandleTurn σ) → σ → Prop
  | [], _ => True
  | u :: us, s => P s u ∧ Throughout P us (stateAfter (u.call.perform S h (u.others s)))

/-- A file is made in a directory that has none of its name, and a handle is taken on it. -/
def MakesFile (d : S.Directory) (name : String) (s : σ) (h : S.Access) (s' : σ) : Prop :=
  S.file d name false s = .error .notFound s ∧
    ∃ f s₁, S.file d name true s = .ok f s₁ ∧ S.acquire f s₁ = .ok h s'

variable {S h} {P : σ → HandleTurn σ → Prop}

/-- **A handle answers as the bytes of its file do**, if a single call does: `Holds` says which
bytes the file has in a state, and is kept by what others do and moved on by the call. -/
theorem answers_eq {Holds : σ → List UInt8 → Prop} {step : List UInt8 → HandleCall → List UInt8}
    (hstep : ∀ {s l u}, Holds s l → P s u → u.call.InRange →
      ∃ s', u.call.perform S h (u.others s) = .ok (u.call.answer l) s' ∧ Holds s' (step l u.call))
    {us : List (HandleTurn σ)} {s : σ} {l : List UInt8} (hl : Holds s l)
    (hturns : S.Throughout h P us s) (hrange : ∀ u ∈ us, u.call.InRange) :
    S.answers h us s =
      (HandleCall.answersFrom step l (us.map HandleTurn.call)).map .ok := by
  induction us generalizing s l with
  | nil => rfl
  | cons u us ih =>
    obtain ⟨s', hok, hl'⟩ := hstep hl hturns.1 (hrange u List.mem_cons_self)
    have hrest := hturns.2
    rw [hok] at hrest
    have ih' := ih hl' hrest fun v hv => hrange v (List.mem_cons_of_mem u hv)
    rw [answers, hok, List.map_cons, HandleCall.answersFrom, List.map_cons, ← ih']

end Storage

end EngineHost
