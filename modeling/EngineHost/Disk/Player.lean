import EngineHost.Disk.Program

/-!
# Players

A `Player` answers the steps of programs, in a state of its own.  `Player.onSystem` answers what a
disk and the table of held files do; another player may refuse calls, let somebody else use the disk
in between or answer anything at all.

* `Program.play` : what a program comes to when a player answers its steps.
* `Player.watched` : a player that notes down every step, and answers as before.
-/

namespace EngineHost

variable {τ α : Type}

/-- What answers the steps of programs. -/
structure Player (τ : Type) where
  system : (c : SystemCall) → τ → Except IoError c.Value × τ
  table : (t : TableStep) → τ → t.Value × τ

/-- Plays a program without a break. -/
def Program.play (P : Player τ) : Program α → τ → α × τ
  | done a, m => (a, m)
  | system c next, m =>
    let (r, m) := P.system c m
    (next r).play P m
  | table t next, m =>
    let (r, m) := P.table t m
    (next r).play P m

/-- A step of a program. -/
inductive DiskStep where
  | system (c : SystemCall)
  | table (t : TableStep)
  deriving DecidableEq, Repr

namespace Player

/-- The player that does what a system does. -/
def onSystem : Player System where
  system c w :=
    let (r, disk) := c.perform w.disk
    (r, { w with disk })
  table t w :=
    let (r, held) := t.perform w.held
    (r, { w with held })

/-- A player that notes down the steps it is asked for, the first first. -/
def watched (P : Player τ) : Player (τ × List DiskStep) where
  system c := fun (m, steps) =>
    let (r, m) := P.system c m
    (r, m, steps ++ [.system c])
  table t := fun (m, steps) =>
    let (r, m) := P.table t m
    (r, m, steps ++ [.table t])

end Player

end EngineHost
