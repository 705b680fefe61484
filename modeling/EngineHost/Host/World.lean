import EngineHost.Guest.Catalog
import EngineHost.Host.Platform
import EngineHost.Storage.Memory
import EngineHost.Storage.OnDisk

/-!
# The world of a host

A `World` is a tree in memory and a system with a disk.  `World.platform` offers storage in either
of them and the known modules in the files of the disk.
-/

namespace EngineHost

/-- A tree in memory and a system with a disk. -/
abbrev World := Tree × System

namespace World

/-- The storage that settings ask for. -/
def storage : StorageSettings → Storage World
  | .memory => (Storage.memory .addressSpace).onFirst
  | .directory path => (Storage.onDisk path).onSecond
  | .disabled => .absent

/-- A host that keeps files in memory starts with an empty tree. -/
def prepare : StorageSettings → World → World
  | .memory, (_, system) => (.empty Tree.defaultQuota, system)
  | _, w => w

/-- The platform in such a world. -/
def platform : Platform World where
  storage := storage
  prepare := prepare
  fetch location base w := ModuleSource.resolve location base >>= fun source =>
    source.fetch w.2.disk
  compile S bytes := KnownModule.compile S bytes

/-- The world around a disk. -/
def ofDisk (disk : Disk) : World := (.empty Tree.defaultQuota, ⟨disk, []⟩)

end World

end EngineHost
