import Ccbd.Db.Recovery
import Ccbd.Db.StateMachine
import Ccbd.Lib.Run
import Ccbd.Rpc.Ack

/-!
# The operations on agents and jobs

The operations of the job protocol: those that write jobs, and those by which a dispatch, a
completion, a cancel, an acknowledgement or a failure moves an agent, with the arguments their
callers choose. Each is one transaction. `Ccbd.Audit.Operations` adds the other writers.
-/

namespace Ccbd

open Lib

/-- An operation with its arguments; the last argument of each is the time. -/
inductive DbOp where
  | insertJob (id agentId : String) (requestId : Option String) (promptText : String) (now : Int)
  | dispatchQueuedJob (agentId : String) (now : Int)
  | markerMatched (env : CompletionEnv) (agentId : String) (now : Int)
  | hookEvent (env : CompletionEnv) (agentId provider event : String)
      (eventId reply : Option String) (expectedStateVersion : Option Int) (now : Int)
  | logEvent (env : CompletionEnv) (agentId provider : String) (reply : Option String)
      (rawPath : String) (rawOffset : Nat) (providerTurnId : Option String) (now : Int)
  | ackMarkBusy (agentId reason : String) (now : Int)
  | ackFallbackStuck (agentId reason : String) (now : Int)
  | ackFallbackCrashed (agentId reason : String) (now : Int)
  | assertIdle (agentId evidenceId : String) (now : Int)
  | markStuck (agentId reason : String) (now : Int)
  | markUnknown (agentId reason evidenceId : String) (now : Int)
  | markPromptPending (agentId reason : String) (now : Int)
  | markWaitingForAck (agentId : String) (expectedVersion now : Int)
  | markFailedFromIntervention (agentId reason : String) (now : Int)
  | dispatchIoFailed (agentId reason : String) (now : Int)
  | stabilityBusy (agentId : String) (now : Int)
  | cancelQueued (jobId : String) (now : Int)
  | requestCancel (jobId : String) (now : Int)
  | cancelIfAgentIdle (jobId : String) (now : Int)
  | forceCancel (jobId : String) (nowEpoch timeoutSecs now : Int)
  | markJobFailed (jobId errorReason : String) (now : Int)
  | requeueIoFailure (jobId agentId : String) (nextAttempt : Nat) (reason : String) (now : Int)
  | requeueBeforeSend (jobId agentId reason : String) (now : Int)
  | requeueInterrupted (intent : AgentRecoveryIntent) (now : Int)
  | clearRecoveredMarker (jobId : String)
  | setEvidenceRequirements (jobId : String) (physical test : Bool)
  | markCrashed (agentId : String) (exitCode : Option Int) (errorCode : String) (now : Int)
  | markKilled (agentId reason : String) (forMasterDeath : Bool) (now : Int)

/-- The database after the operation. -/
def DbOp.apply (db : Db) : DbOp → Db
  | insertJob id a r p now => commit (insertJobSync db id a r p now) db
  | dispatchQueuedJob a now => commit (Ccbd.dispatchQueuedJob db a now) db
  | markerMatched env a now => commit (markAgentIdleMatchedOutcomeSync env db a now) db
  | hookEvent env a p e id r v now =>
    commit (markAgentIdleHookEventOutcomeSync env db a p e id r v now) db
  | logEvent env a p r path off turn now =>
    commit (markAgentIdleLogEventOutcomeSync env db a p r path off turn now) db
  | ackMarkBusy a reason now => commit (ackMarkBusyOrResolveOnce db a reason now) db
  | ackFallbackStuck a reason now => commit (fallbackAckToStuck db a reason now) db
  | ackFallbackCrashed a reason now => commit (fallbackAckToCrashed db a reason now) db
  | assertIdle a e now => commit (assertStateToIdleSync db a e now) db
  | markStuck a reason now => commit (markAgentStuckOutcomeSync db a reason now) db
  | markUnknown a reason e now => commit (markAgentUnknownSync db a reason e now) db
  | markPromptPending a reason now => commit (markAgentPromptPendingSync db a reason now) db
  | markWaitingForAck a v now => commit (markAgentWaitingForAckSync db a v now) db
  | markFailedFromIntervention a reason now =>
    commit (markAgentFailedFromInterventionSync db a reason now) db
  | dispatchIoFailed a reason now => commit (markDispatchIoFailed db a reason now) db
  | stabilityBusy a now => commit (spawnDispatchAckStabilityBusy db a now) db
  | cancelQueued j now => commit (markQueuedJobCancelledSync db j now) db
  | requestCancel j now => commit (requestDispatchedJobCancelSync db j now) db
  | cancelIfAgentIdle j now => commit (markDispatchedJobCancelledIfAgentIdleSync db j now) db
  | forceCancel j nowEpoch timeout now =>
    commit (forceCancelPendingDispatchedJobConnSync db j nowEpoch timeout now) db
  | markJobFailed j reason now => commit (markJobFailedConnSync db j reason now) db
  | requeueIoFailure j a n reason now =>
    commit (requeueRecoveredDispatchIoFailureSync db j a n reason now) db
  | requeueBeforeSend j a reason now =>
    commit (requeueDispatchedJobBeforeSendSync db j a reason now) db
  | requeueInterrupted intent now =>
    commit (requeueInterruptedJobFromCapturedIntentSync db intent now) db
  | clearRecoveredMarker j => commit (clearRecoveredDispatchMarkerSync db j) db
  | setEvidenceRequirements j p t => commit (setJobEvidenceRequirementsSync db j p t) db
  | markCrashed a exit code now => commit (markAgentCrashedSync db a exit code now) db
  | markKilled a reason master now => commit (markAgentKilledSyncInner db a reason master now) db

/-- The operations as a transition relation. -/
def DbOp.Step (db : Db) (op : DbOp) (db' : Db) : Prop := db' = op.apply db

/-- An IDLE agent with a QUEUED job, from which the small runs below start. -/
def idleAgentDb : Db :=
  { Db.oneSession with
    agents := Table.empty.insert "a1"
      { sessionId := "s1", provider := "claude", state := .idle, createdAt := 0, updatedAt := 0 }
    jobs := Table.empty.insert "j1"
      { agentId := "a1", requestId := none, promptText := "task", createdAt := 0 } }

end Ccbd
