import Ccbd.Orchestrator.RecoveryLoop
import Ccbd.Rpc.SandboxSpawn

/-!
# The home of a crashed worker

The home of a worker holds the conversation that a recovered worker continues, so the
cleanup after a crash leaves it there. A recovery attempt respawns the worker with a fresh
guard on the same sandbox directory. When the respawn fails under that guard, the guard
removes the home.
-/

namespace Ccbd

open Lib

/-! ## A recovery attempt on the machine -/

variable {now : Int} {m : Machine} {capturedIntent : Option AgentRecoveryIntent}

/-- A daemon of a user with a home directory. -/
def Host.plain : Host where
  stateDir := "/state"
  home := some "/home/u"
  shortDigest _ := "0a1b2c3d4e5f"

end Ccbd
