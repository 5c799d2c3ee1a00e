import Ccbd.Db.Evidence
import Ccbd.Db.SessionEnd
import Ccbd.Db.Transitions
import Ccbd.Dispatch.Operations
import Ccbd.Orchestrator.Recovery
import Ccbd.Provider.HealthCheck

/-!
# Every operation on the database

`DaemonOp` adds to the operations on running agents those that make, replace and delete
agent rows, those that put whole sessions down, the recovery loop, the evidence and the
writers of alerts, which are events of type `state_change`. Each operation happens at once;
those that are not a transaction say what an error leaves behind.
-/

namespace Ccbd

open Lib

inductive DaemonOp where
  | db (op : DbOp)
  | seedProbe (agentId : String) (now : Int)
  | learnedReadiness (agentId : String) (now : Int)
  | spawningIntervention (agentId : String) (now : Int)
  | resolvePrompt (agentId : String) (now : Int)
  | unparkPrompt (agentId : String) (expectedStateVersion now : Int)
  | promptPendingEmitUnknown (agentId blockReason : String) (payload : Json) (now : Int)
  | shutdown (now : Int)
  | cleanTerminalSession (sessionId reason : String) (now : Int)
  | reconcileStartup (probe : StartupProbe) (now : Int)
  | claimRecovery (agentId : String) (expectedStateVersion nowTs now : Int)
  | restoreCrashedRow (agentId : String) (agent : Agent) (configHash : String) (now : Int)
  | restoreCrashedState (agentId : String) (now : Int)
  | insertAgent (agentId sessionId provider : String) (pid : Option Int) (now : Int)
  | deleteAgent (agentId : String)
  | replaceKilledAgent (sessionId : String) (spec : AgentSpawnSpec) (configHash : String)
      (pid : Int) (intent : Option AgentRecoveryIntent) (now : Int)
  | recordEvidence (evidenceId agentId : String) (jobId : Option String) (evidenceType : String)
      (payload : Json) (now : Int)
  | discardEvidence (evidenceId : String)
  | stoppedUndeclaredAlert (agentId : String) (state : AgentState) (jobId : Option String)
      (elapsedSecs now : Int)
  | healthStuckReport (agentId : String) (state : AgentState) (jobId : Option String)
      (deadLayers : List HealthLayer) (elapsedSecs now : Int)
  | queuedStarvationAlert (agentId jobId : String) (elapsedSecs now : Int)
  | suppressionEscalated (agentId suppressedHash : String) (ticks : Nat) (now : Int)
  | paneDiffStuckAlert (signal : StuckSignal) (state : AgentState) (jobId : Option String)
      (now : Int)
  | uiRecaptureAlert (agentId paneText : String) (state : AgentState) (jobId : Option String)
      (now : Int)
  /-- Any write of a row of `sessions`. -/
  | writeSession (sessionId : String) (session : Session)

namespace DaemonOp

/-- The alert that an operation stores: the agent it is about and the payload. -/
def alert? : DaemonOp → Option (String × Json × Int)
  | stoppedUndeclaredAlert a state j elapsed now =>
    some (a, stoppedUndeclaredPayload state j elapsed, now)
  | healthStuckReport a state j layers elapsed now =>
    some (a, healthStuckPayload state j layers elapsed, now)
  | queuedStarvationAlert a j elapsed now => some (a, queuedStarvationPayload j elapsed, now)
  | suppressionEscalated a hash ticks now => some (a, suppressionEscalatedPayload a hash ticks, now)
  | paneDiffStuckAlert signal state j now =>
    some (signal.agentId, paneDiffStuckPayload signal state j, now)
  | uiRecaptureAlert a text state j now => some (a, uiRecapturePayload text state j, now)
  | _ => none

def insertAlert (db : Db) (a : String) (payload : Json) (now : Int) : Db :=
  commit (insertEventSync db a none "state_change" payload now) db

/-- The database after the operation. -/
def apply (d : Db) : DaemonOp → Db
  | db op => op.apply d
  | seedProbe a now => commit (markIdleAfterSeedProbe d a now) d
  | learnedReadiness a now => commit (markIdleAfterLearnedStartupReadiness d a now) d
  | spawningIntervention a now => commit (markSpawningIntervention d a now) d
  | resolvePrompt a now => commit (resolvePromptStateSync d a now) d
  | unparkPrompt a v now => commit (markPromptPendingIdleUnparkedSync d a v now) d
  | promptPendingEmitUnknown a reason payload now =>
    commit (markPromptPendingAndEmitUnknownSync d a reason payload now) d
  | shutdown now => commit (markAllSessionsIntentionalShutdown d now) d
  | cleanTerminalSession s reason now =>
    commit (markTerminalSessionAgentsKilledDbOnly d s reason now) d
  | reconcileStartup probe now => commit (reconcileActiveAgentsToCrashedSync d probe now) d
  | claimRecovery a v nowTs now => (tryClaimAgentRecoverySync d a v nowTs now).2
  | restoreCrashedRow a agent hash now => (Ccbd.restoreCrashedRow a agent hash now d).2
  | restoreCrashedState a now => restoreCrashedRecoveryState d a now
  | insertAgent a s p pid now => (insertAgentSync d a s p .spawning pid now).2
  | deleteAgent a => commit ((deleteAgentSync d a).map ((), ·)) d
  | replaceKilledAgent s spec hash pid intent now =>
    commit (replaceKilledAgentAndRequeueJobSync d s spec hash pid intent now) d
  | recordEvidence e a j ty payload now => (insertEvidenceRecordSync d e a j ty payload now).2
  | discardEvidence e => commit (discardEvidenceSync d e) d
  | stoppedUndeclaredAlert a state j elapsed now =>
    insertAlert d a (stoppedUndeclaredPayload state j elapsed) now
  | healthStuckReport a state j layers elapsed now =>
    insertAlert d a (healthStuckPayload state j layers elapsed) now
  | queuedStarvationAlert a j elapsed now => insertAlert d a (queuedStarvationPayload j elapsed) now
  | suppressionEscalated a hash ticks now =>
    insertAlert d a (suppressionEscalatedPayload a hash ticks) now
  | paneDiffStuckAlert signal state j now =>
    insertAlert d signal.agentId (paneDiffStuckPayload signal state j) now
  | uiRecaptureAlert a text state j now => insertAlert d a (uiRecapturePayload text state j) now
  | writeSession s session => { d with sessions := d.sessions.upsert s session }

/-- The operations as a transition relation. -/
def Step (d : Db) (op : DaemonOp) (d' : Db) : Prop := d' = op.apply d

theorem apply_of_alert {op : DaemonOp} (h : op.alert? = some (a, payload, now)) (d : Db) :
    op.apply d = insertAlert d a payload now := by
  cases op <;> simp only [alert?, reduceCtorEq] at h
  all_goals
    obtain ⟨rfl, rfl, rfl⟩ := h
    rfl

/-- An alert of the pane watcher is the operation with what it has read. -/
theorem ends_alertPaneDiff (a : String) (payload : AgentState → Option String → Json) (now : Int)
    (d : Db) : Ends (alertPaneDiff a payload now) d fun _ d' =>
      ∃ state j, d' = insertAlert d a (payload state j) now := by
  refine ends_bind.mpr (ends_get.mpr (ends_bind.mpr (ends_get.mpr (ends_bind.mpr ?_))))
  rw [ends_atomic]
  unfold insertAlert
  split <;> exact ⟨_, _, by rename_i e; rw [e]; rfl⟩

end DaemonOp

/-- An agent comes up and is handed its first job. -/
def firstDispatch : List DaemonOp :=
  [.insertAgent "a1" "s1" "claude" none 1, .learnedReadiness "a1" 2,
    .db (.insertJob "j1" "a1" none "task" 3), .db (.dispatchQueuedJob "a1" 4)]

end Ccbd
