import EngineHost.Storage.Basic

/-!
# Storage with failing calls

`Storage.sabotaged` makes the calls of a storage misbehave as a `Saboteur` decides: before a call
acts, the saboteur may let it fail with an error of its choice, or let a read, a write or a size
call report a number of its choice; either way the call does not act.  Releasing a handle is no
call and always works.

`Saboteur.armed` is the saboteur that misbehaves once for each call it was armed for.
-/

namespace EngineHost

/-- The calls of a storage. -/
inductive CallKind where
  | root
  | directory
  | file
  | remove
  | acquire
  | read
  | write
  | truncate
  | flush
  | size
  | close
  deriving DecidableEq, Repr

/-- How a call misbehaves. -/
inductive Mishap where
  /-- It fails. -/
  | error (e : StorageError)
  /-- It reports a number. -/
  | report (n : Nat)
  deriving DecidableEq, Repr

/-- Decides call by call, with a memory of its own. -/
structure Saboteur (τ : Type) where
  decide : CallKind → τ → Option Mishap × τ

/-- Misbehaves once for each armed kind of call. -/
def Saboteur.armed : Saboteur (List (CallKind × Mishap)) where
  decide kind arms := (arms.lookup kind, arms.filter fun a => a.1 ≠ kind)

/-- Arms a kind of call, in place of an earlier arming of the kind. -/
def Saboteur.arm (kind : CallKind) (m : Mishap) (arms : List (CallKind × Mishap)) :
    List (CallKind × Mishap) :=
  (kind, m) :: arms.filter fun a => a.1 ≠ kind

namespace Storage

variable {σ τ : Type}

/-- A call under a saboteur; `report` is its answer when it is made to report a number. -/
def sabotage {α : Type} (w : Saboteur τ) (kind : CallKind) (report : Nat → Option α)
    (x : StorageM σ α) : StorageM (σ × τ) α := fun (s, t) =>
  let (mishap, t) := w.decide kind t
  let act : EStateM.Result StorageError (σ × τ) α :=
    match x s with
    | .ok a s => .ok a (s, t)
    | .error e s => .error e (s, t)
  match mishap with
  | none => act
  | some (.error e) => .error e (s, t)
  | some (.report n) =>
    match report n with
    | some a => .ok a (s, t)
    | none => act

/-- A storage whose calls misbehave as a saboteur decides. -/
def sabotaged (w : Saboteur τ) (S : Storage σ) : Storage (σ × τ) where
  Directory := S.Directory
  File := S.File
  Access := S.Access
  root := sabotage w .root (fun _ => none) S.root
  directory d name create := sabotage w .directory (fun _ => none) (S.directory d name create)
  file d name create := sabotage w .file (fun _ => none) (S.file d name create)
  remove d name := sabotage w .remove (fun _ => none) (S.remove d name)
  acquire f := sabotage w .acquire (fun _ => none) (S.acquire f)
  read h count offset := sabotage w .read (fun n => some ⟨n, []⟩) (S.read h count offset)
  write h data offset := sabotage w .write some (S.write h data offset)
  truncate h size := sabotage w .truncate (fun _ => none) (S.truncate h size)
  flush h := sabotage w .flush (fun _ => none) (S.flush h)
  size h := sabotage w .size some (S.size h)
  close h := fun (s, t) =>
    let (mishap, t) := w.decide .close t
    match mishap with
    | some (.error e) => (.error e, h, s, t)
    | _ =>
      let (result, h, s) := S.close h s
      (result, h, s, t)
  release h := fun (s, t) => (S.release h s, t)

end Storage

end EngineHost
