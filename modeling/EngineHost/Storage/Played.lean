import EngineHost.Disk.Player
import EngineHost.Storage.OnDisk

/-!
# Storage in a directory, whoever answers

`Storage.played P root` is the storage whose calls are the programs of `Storage.onDisk root`, but
with a player in the place of the disk.
-/

namespace EngineHost

variable {τ : Type}

/-- A program as a call of a storage, its steps answered by a player. -/
def DiskProgram.playedBy {α : Type} (P : Player τ) (p : DiskProgram α) : StorageM τ α := fun m =>
  let program : Program (Except StorageError α) := p
  match program.play P m with
  | (.ok a, m) => .ok a m
  | (.error e, m) => .error e m

namespace Storage

/-- The storage below a directory of the disk that a player has. -/
def played (P : Player τ) (path : String) : Storage τ where
  Directory := DiskPath
  File := DiskPath
  Access := DiskAccess
  root := (DiskProgram.root path).playedBy P
  directory d name create := (DiskProgram.directory d name create).playedBy P
  file d name create := (DiskProgram.file d name create).playedBy P
  remove d name := (DiskProgram.remove d name).playedBy P
  acquire f := (DiskProgram.acquire f).playedBy P
  read h count offset := (DiskProgram.read h count offset).playedBy P
  write h bytes offset := (DiskProgram.write h bytes offset).playedBy P
  truncate h size := (DiskProgram.truncate h size).playedBy P
  flush h := (DiskProgram.flush h).playedBy P
  size h := (DiskProgram.size h).playedBy P
  close h m :=
    let ((result, h), m) := (DiskProgram.close h).play P m
    (result, h, m)
  release h m := ((DiskProgram.close h).play P m).2

/-- The storage below a directory, with what is done on the disk noted down. -/
abbrev watched (P : Player τ) (path : String) : Storage (τ × List DiskStep) := played P.watched path

end Storage

end EngineHost
