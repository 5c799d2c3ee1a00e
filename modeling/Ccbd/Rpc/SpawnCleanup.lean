import Ccbd.Rpc.SandboxSpawn

/-!
# What a failed spawn leaves behind

`handle_agent_spawn_with_db_action` once more, with the fifo and the pane it creates and the
clean-up that is written out at each of its exits: only the write of the fingerprint, which
follows the insert of the row, passes its error on without it.

`DbAnswers` says which of the writes SQLite refuses.
-/

namespace Ccbd

open Lib

/-- The machine with its fifos, the panes that were created and the panes that tmux was asked
to kill. -/
structure SpawnWorld where
  machine : Machine
  fifos : Finset String
  panes : List String := []
  killRequests : List String := []

namespace SpawnWorld

def db (w : SpawnWorld) : Db := w.machine.db

def mkfifo (fifo : String) (w : SpawnWorld) : SpawnWorld :=
  { w with fifos := insert fifo w.fifos }

def spawnWindow (pane : String) (w : SpawnWorld) : SpawnWorld :=
  { w with panes := w.panes ++ [pane] }

end SpawnWorld

open SpawnWorld

end Ccbd
