import Ccbd.Db.Jobs

/-!
# Killed and crashed agents

Both operations fail the dispatched jobs of the agent. A crash, and a kill on the
death of the master, also record what the agent was doing in
`agent_recovery_intents`, from where recovery takes it up.
-/

namespace Ccbd

open Lib

/-! ## Recovery intents -/

structure CapturedInterruptedJob where
  id : String
  requestId : Option String
  promptText : String
  cancelRequested : Bool
  requiresPhysicalEvidence : Bool
  requiresTestEvidence : Bool
deriving DecidableEq, Repr

structure AgentRecoveryIntent where
  agentId : String
  sessionId : String
  provider : String
  previousState : AgentState
  crashedStateVersion : Int
  interruptedJobId : Option String
  interruptedJobStatus : Option JobStatus
  interruptedJob : Option CapturedInterruptedJob
  action : RecoveryIntentAction
  reason : String
deriving DecidableEq, Repr

/-- The row of an intent; `createdAt` is that of an earlier row if there is one. -/
def AgentRecoveryIntent.toRow (intent : AgentRecoveryIntent) (createdAt now : Int) :
    AgentRecoveryIntentRow where
  sessionId := intent.sessionId
  provider := intent.provider
  previousState := intent.previousState
  crashedStateVersion := intent.crashedStateVersion
  interruptedJobId := intent.interruptedJobId
  interruptedJobStatus := intent.interruptedJobStatus
  interruptedJobRequestId := intent.interruptedJob.bind (·.requestId)
  interruptedJobPromptText := intent.interruptedJob.map (·.promptText)
  interruptedJobCancelRequested := intent.interruptedJob.map (·.cancelRequested)
  interruptedJobRequiresPhysicalEvidence := intent.interruptedJob.map (·.requiresPhysicalEvidence)
  interruptedJobRequiresTestEvidence := intent.interruptedJob.map (·.requiresTestEvidence)
  action := intent.action
  reason := intent.reason
  consumedAt := none
  createdAt := createdAt
  updatedAt := now

def persistAgentRecoveryIntentSync (db : Db) (intent : AgentRecoveryIntent) (now : Int) :
    Except CcbdError Db :=
  if (db.agents.get? intent.agentId).isNone then
    .error (.dbConstraintViolation "persist agent recovery intent: FOREIGN KEY constraint failed")
  else
    let createdAt := ((db.agentRecoveryIntents.get? intent.agentId).map (·.createdAt)).getD now
    .ok { db with
      agentRecoveryIntents :=
        db.agentRecoveryIntents.upsert intent.agentId (intent.toRow createdAt now) }

def queryAgentRecoveryIntentSync (db : Db) (agentId : String) : Option AgentRecoveryIntent :=
  match db.agentRecoveryIntents.get? agentId with
  | none => none
  | some row =>
    if row.consumedAt.isSome then none
    else
      let interruptedJob := match row.interruptedJobId, row.interruptedJobPromptText with
        | some jobId, some promptText => some
            { id := jobId, requestId := row.interruptedJobRequestId, promptText := promptText,
              cancelRequested := row.interruptedJobCancelRequested.getD false,
              requiresPhysicalEvidence := row.interruptedJobRequiresPhysicalEvidence.getD false,
              requiresTestEvidence := row.interruptedJobRequiresTestEvidence.getD false }
        | _, _ => none
      some
        { agentId := agentId, sessionId := row.sessionId, provider := row.provider,
          previousState := row.previousState, crashedStateVersion := row.crashedStateVersion,
          interruptedJobId := row.interruptedJobId,
          interruptedJobStatus := row.interruptedJobStatus, interruptedJob := interruptedJob,
          action := row.action, reason := row.reason }

/-- What recovery should do with an agent that went down in `previousState`. -/
def recoveryAction (previousState : AgentState) (interrupted : Bool) (reason : String) :
    RecoveryIntentAction :=
  if previousState = .waitingForAck ∨ previousState = .busy ∨ interrupted = true then .revive
  else if previousState = .idle ∧
      (reason = "AGENT_UNEXPECTED_EXIT" ∨ reason = "EXIT_CODE_UNAVAILABLE_NON_CHILD") then
    .reviveIdle
  else .reapOnly

def Job.captured (job : Job) (jobId : String) : CapturedInterruptedJob where
  id := jobId
  requestId := job.requestId
  promptText := job.promptText
  cancelRequested := job.cancelRequested
  requiresPhysicalEvidence := job.requiresPhysicalEvidence
  requiresTestEvidence := job.requiresTestEvidence

def captureRecoveryIntentForCrash (db : Db) (agentId : String) (previousState : Option AgentState)
    (reason : String) (now : Int) : Except CcbdError Db :=
  match db.agents.get? agentId with
  | none => .ok db
  | some agent =>
    let interrupted := queryDispatchedJobForAgentSync db agentId
    let previousState := previousState.getD .unknown
    persistAgentRecoveryIntentSync db
      { agentId := agentId, sessionId := agent.sessionId, provider := agent.provider,
        previousState := previousState, crashedStateVersion := agent.stateVersion,
        interruptedJobId := interrupted.map Prod.fst,
        interruptedJobStatus := interrupted.map (·.2.status),
        interruptedJob := interrupted.map fun r => r.2.captured r.1,
        action := recoveryAction previousState interrupted.isSome reason, reason := reason } now

/-! ## Kill -/

/-- The body of the kill for an agent that is not down yet. -/
def killAgent (db : Db) (agentId reason : String) (previousState : AgentState) (now : Int) :
    Except CcbdError (Nat × Db) := do
  let db := db.modifyAgent agentId (·.enter .killed now)
  let (_, db) ← markDispatchedJobsFailedForAgentConnCollectSync db agentId reason now
  return (1, db.appendEvent agentId "state_change"
    (stateChange previousState .killed (some reason)) now)

def markAgentKilledSyncInner (db : Db) (agentId reason : String) (captureReviveIntent : Bool)
    (now : Int) : Except CcbdError (Nat × Db) :=
  match db.agents.get? agentId with
  | none => .ok (0, db)
  | some agent =>
    if agent.state = .crashed ∨ agent.state = .killed then .ok (0, db)
    else if captureReviveIntent then do
      let db ← captureRecoveryIntentForCrash db agentId (some agent.state) reason now
      killAgent db agentId reason agent.state now
    else killAgent db agentId reason agent.state now

def markAgentKilledSync (db : Db) (agentId reason : String) (now : Int) :
    Except CcbdError (Nat × Db) :=
  markAgentKilledSyncInner db agentId reason false now

def markAgentKilledForMasterDeathSync (db : Db) (agentId reason : String) (now : Int) :
    Except CcbdError (Nat × Db) :=
  markAgentKilledSyncInner db agentId reason true now

/-! ## Crash -/

def Agent.enterCrashed (agent : Agent) (exitCode : Option Int) (errorCode : String) (now : Int) :
    Agent :=
  { agent.enter .crashed now with exitCode := exitCode, errorCode := some errorCode }

@[simp] theorem Agent.enterCrashed_state (agent : Agent) (exitCode : Option Int)
    (errorCode : String) (now : Int) :
    (agent.enterCrashed exitCode errorCode now).state = .crashed := rfl

def markAgentCrashedSync (db : Db) (agentId : String) (exitCode : Option Int) (errorCode : String)
    (now : Int) : Except CcbdError (Nat × Db) :=
  match db.agents.get? agentId with
  | none => .ok (0, db)
  | some agent =>
    -- an agent that waits for a prompt to be resolved is left alone
    if agent.state = .crashed ∨ agent.state = .killed ∨ agent.state = .promptPending then
      .ok (0, db)
    else do
      let reason := if errorCode = "AGENT_UNEXPECTED_EXIT" ∧ exitCode.isNone = true
        then "EXIT_CODE_UNAVAILABLE_NON_CHILD" else errorCode
      let db := db.modifyAgent agentId (·.enterCrashed exitCode errorCode now)
      let db ← captureRecoveryIntentForCrash db agentId (some agent.state) reason now
      let (_, db) ← markDispatchedJobsFailedForAgentConnCollectSync db agentId reason now
      return (1, db.appendEvent agentId "state_change" (.obj
        [("exit_code", exitCode.elim .null .num), ("from", .str agent.state.asDbStr),
          ("reason", .str reason), ("to", .str "CRASHED")]) now)

def markAgentCrashedWithExitSync (db : Db) (agentId : String) (exitCode : Option Int) (now : Int) :
    Except CcbdError (Nat × Db) :=
  markAgentCrashedSync db agentId exitCode "AGENT_UNEXPECTED_EXIT" now

/-! ## What they do -/

variable {db db' : Db} {now : Int} {agentId reason : String}

theorem persistAgentRecoveryIntentSync_ok
    (h : persistAgentRecoveryIntentSync db intent now = .ok db') :
    ∃ intents, db' = { db with agentRecoveryIntents := intents } := by
  unfold persistAgentRecoveryIntentSync at h
  split at h
  · cases h
  · cases h; exact ⟨_, rfl⟩

theorem agentId_of_queryAgentRecoveryIntentSync
    (h : queryAgentRecoveryIntentSync db agentId = some intent) : intent.agentId = agentId := by
  unfold queryAgentRecoveryIntentSync at h
  split at h
  · cases h
  · split_ifs at h
    cases h
    rfl

theorem captureRecoveryIntentForCrash_ok
    (h : captureRecoveryIntentForCrash db agentId previous reason now = .ok db') :
    ∃ intents, db' = { db with agentRecoveryIntents := intents } := by
  unfold captureRecoveryIntentForCrash at h
  split at h
  · cases h; exact ⟨_, rfl⟩
  · exact persistAgentRecoveryIntentSync_ok h

/-- An agent goes down: one agent row is rewritten and its dispatched jobs fail. -/
structure GoesDown (db : Db) (agentId reason : String) (now : Int) (f : Agent → Agent) (db' : Db) :
    Prop where
  agents : db'.agents = db.agents.modify agentId f
  jobs : ∀ j, db'.jobs.get? j = (db.jobs.get? j).map fun job =>
    if job.agentId = agentId ∧ job.status = .dispatched then job.failWith reason now else job

theorem killAgent_ok (h : killAgent db agentId reason previous now = .ok (n, db')) :
    n = 1 ∧ GoesDown db agentId reason now (·.enter .killed now) db' := by
  obtain ⟨⟨r, db₁⟩, h₁, h₂⟩ := bind_eq_ok.mp h
  cases h₂
  obtain ⟨jobs, trs, rfl, hget⟩ := markDispatchedJobsFailedForAgentConnCollectSync_ok h₁
  exact ⟨rfl, rfl, hget⟩

theorem markAgentKilledSyncInner_ok
    (h : markAgentKilledSyncInner db agentId reason capture now = .ok (n, db')) :
    (n = 0 ∧ db' = db ∧
        ∀ agent, db.agents.get? agentId = some agent →
          agent.state = .crashed ∨ agent.state = .killed) ∨
      n = 1 ∧ ∃ agent, db.agents.get? agentId = some agent ∧ agent.state ≠ .crashed ∧
        agent.state ≠ .killed ∧ GoesDown db agentId reason now (·.enter .killed now) db' := by
  obtain spared | ⟨agent, hagent, hs, h⟩ := unless_ok h
  · exact .inl spared
  obtain ⟨hc, hk⟩ := not_or.mp hs
  right
  split at h
  · obtain ⟨db₁, h₁, h₂⟩ := bind_eq_ok.mp h
    obtain ⟨intents, rfl⟩ := captureRecoveryIntentForCrash_ok h₁
    obtain ⟨hn, hdown⟩ := killAgent_ok h₂
    exact ⟨hn, agent, hagent, hc, hk, hdown.agents, hdown.jobs⟩
  · obtain ⟨hn, hdown⟩ := killAgent_ok h
    exact ⟨hn, agent, hagent, hc, hk, hdown⟩

theorem markAgentCrashedSync_ok
    (h : markAgentCrashedSync db agentId exitCode errorCode now = .ok (n, db')) :
    (n = 0 ∧ db' = db ∧ ∀ agent, db.agents.get? agentId = some agent →
        agent.state = .crashed ∨ agent.state = .killed ∨ agent.state = .promptPending) ∨
      n = 1 ∧ ∃ agent reason, db.agents.get? agentId = some agent ∧ agent.state ≠ .crashed ∧
        agent.state ≠ .killed ∧ agent.state ≠ .promptPending ∧
        GoesDown db agentId reason now (·.enterCrashed exitCode errorCode now) db' := by
  obtain spared | ⟨agent, hagent, hs, h⟩ := unless_ok h
  · exact .inl spared
  simp only [not_or] at hs
  obtain ⟨db₁, h₁, h⟩ := bind_eq_ok.mp h
  obtain ⟨⟨r, db₂⟩, h₂, h⟩ := bind_eq_ok.mp h
  obtain ⟨intents, rfl⟩ := captureRecoveryIntentForCrash_ok h₁
  obtain ⟨jobs, trs, rfl, hget⟩ := markDispatchedJobsFailedForAgentConnCollectSync_ok h₂
  cases h
  exact .inr ⟨rfl, agent, _, hagent, hs.1, hs.2.1, hs.2.2, rfl, hget⟩

/-! ## They never fail -/

theorem captureRecoveryIntentForCrash_succeeds (db : Db) (agentId : String)
    (previous : Option AgentState) (reason : String) (now : Int) :
    ∃ db', captureRecoveryIntentForCrash db agentId previous reason now = .ok db' := by
  unfold captureRecoveryIntentForCrash
  split
  · exact ⟨_, rfl⟩
  · rename_i agent hagent
    simp [persistAgentRecoveryIntentSync, hagent]

theorem killAgent_succeeds (db : Db) (agentId reason : String) (previous : AgentState) (now : Int) :
    ∃ r, killAgent db agentId reason previous now = .ok r := by
  obtain ⟨r, h⟩ := markDispatchedJobsFailedForAgentConnCollectSync_succeeds
    (db.modifyAgent agentId (·.enter .killed now)) agentId reason now
  exact ⟨_, bind_eq_ok.mpr ⟨r, h, rfl⟩⟩

theorem markAgentKilledSyncInner_succeeds (db : Db) (agentId reason : String) (capture : Bool)
    (now : Int) : ∃ r, markAgentKilledSyncInner db agentId reason capture now = .ok r := by
  unfold markAgentKilledSyncInner
  split
  · exact ⟨_, rfl⟩
  split_ifs
  · exact ⟨_, rfl⟩
  · obtain ⟨db₁, h₁⟩ := captureRecoveryIntentForCrash_succeeds db agentId _ reason now
    obtain ⟨r, h₂⟩ := killAgent_succeeds db₁ agentId reason _ now
    exact ⟨r, bind_eq_ok.mpr ⟨db₁, h₁, h₂⟩⟩
  · exact killAgent_succeeds ..

theorem markAgentKilledSync_succeeds (db : Db) (agentId reason : String) (now : Int) :
    ∃ r, markAgentKilledSync db agentId reason now = .ok r :=
  markAgentKilledSyncInner_succeeds ..

theorem markAgentCrashedSync_succeeds (db : Db) (agentId : String) (exitCode : Option Int)
    (errorCode : String) (now : Int) :
    ∃ r, markAgentCrashedSync db agentId exitCode errorCode now = .ok r := by
  unfold markAgentCrashedSync
  split
  · exact ⟨_, rfl⟩
  · split
    · exact ⟨_, rfl⟩
    · obtain ⟨db₁, h₁⟩ := captureRecoveryIntentForCrash_succeeds _ agentId _ _ now
      obtain ⟨r, h₂⟩ := markDispatchedJobsFailedForAgentConnCollectSync_succeeds db₁ agentId _ now
      exact ⟨_, bind_eq_ok.mpr ⟨db₁, h₁, bind_eq_ok.mpr ⟨r, h₂, rfl⟩⟩⟩

end Ccbd
