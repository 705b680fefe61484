import EngineHost.CommandLine.Options
import EngineHost.Host.World
import EngineHost.Worker.Lines

/-!
# The program

`main` serves the standard input and writes the responses to the standard output.  The worker runs
on a disk of its own, onto which the settings file and the modules that the messages ask for are
copied before it starts; a worker that keeps files in a directory keeps them there, as long as the
program runs.
-/

namespace EngineHost

namespace CommandLine

/-- Copies a file, if it can be read, onto a disk. -/
def copyFile (d : Disk) (path : String) : IO Disk := do
  try
    let bytes ← IO.FS.readBinFile path
    return (d.writeAt path bytes.toList).2
  catch _ => return d

/-- Everything on a stream. -/
partial def readAll (input : IO.FS.Stream) (read : ByteArray) : IO ByteArray := do
  let bytes ← input.read 4096
  if bytes.isEmpty then return read else readAll input (read ++ bytes)

/-- Serves the standard input with some settings. -/
def run (settings : Settings) (d : Disk) : IO UInt32 := do
  let input := (← readAll (← IO.getStdin) .empty).toList
  let d ← (modulePaths settings input).foldlM copyFile d
  let (served, _) := serve World.platform settings input (World.ofDisk d)
  for line in served.output do IO.println line
  if served.complete then return 0
  IO.eprintln ("error: " ++ readFailure)
  return 1

/-- Tells why options cannot be followed. -/
def refuse (e : Options.LoadError) : IO UInt32 := do
  IO.eprintln ("error: " ++ e.message)
  if let some cause := e.cause.message then IO.eprintln ("  caused by: " ++ cause)
  return 1

/-- Follows options. -/
def follow (o : Options) : IO UInt32 := do
  let d ← (o.value? .config).toList.foldlM copyFile (Disk.blank [])
  match o.settings d with
  | .ok settings => run settings d
  | .error e => refuse e

end CommandLine

end EngineHost

open EngineHost in
/-- Serves as the arguments say, or tells what is wrong with them. -/
def main (args : List String) : IO UInt32 := do
  match Options.parse args with
  | .ok o => CommandLine.follow o
  | .error .help => IO.print Options.helpText; return 0
  | .error .version => IO.print Options.versionText; return 0
  | .error e => IO.eprintln ("error: " ++ e.message); return 2
