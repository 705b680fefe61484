import EngineHost.Storage.Sabotaged

/-!
# Storage with noted calls

`Storage.noted` does what a storage does and notes down the kind of every call that is made on it,
the first first.  Releasing a handle is noted as closing it, since both end the hold of a handle.
-/

namespace EngineHost

namespace Storage

variable {σ : Type}

/-- A call that is noted down. -/
def note {α : Type} (kind : CallKind) (x : StorageM σ α) : StorageM (σ × List CallKind) α :=
  fun (s, calls) =>
    match x s with
    | .ok a s => .ok a (s, calls ++ [kind])
    | .error e s => .error e (s, calls ++ [kind])

/-- A storage that notes its calls down. -/
def noted (S : Storage σ) : Storage (σ × List CallKind) where
  Directory := S.Directory
  File := S.File
  Access := S.Access
  root := note .root S.root
  directory d name create := note .directory (S.directory d name create)
  file d name create := note .file (S.file d name create)
  remove d name := note .remove (S.remove d name)
  acquire f := note .acquire (S.acquire f)
  read h count offset := note .read (S.read h count offset)
  write h data offset := note .write (S.write h data offset)
  truncate h size := note .truncate (S.truncate h size)
  flush h := note .flush (S.flush h)
  size h := note .size (S.size h)
  close h := fun (s, calls) =>
    let (result, h, s) := S.close h s
    (result, h, s, calls ++ [.close])
  release h := fun (s, calls) => (S.release h s, calls ++ [.close])

end Storage

end EngineHost
