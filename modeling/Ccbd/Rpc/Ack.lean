import Ccbd.Db.AgentsLifecycle

/-!
# The database steps of the acknowledgement path

After a prompt was sent, a watcher waits for the agent to react. It marks the agent
BUSY, or falls back: to STUCK with a failed job, to IDLE with a requeued job where it
takes the failure for one before the send, or to CRASHED.
-/

namespace Ccbd

open Lib

inductive AckBusyOutcome where
  | markedBusy
  | alreadyBusy
  | alreadyIdle
  | promptPending
  | terminal
  | deferred
deriving DecidableEq, Repr

def ackMarkBusyOrResolveOnce (db : Db) (agentId reason : String) (now : Int) :
    Except CcbdError (AckBusyOutcome × Db) :=
  match db.agents.get? agentId with
  | none => .ok (.terminal, db)
  | some agent =>
    match agent.state with
    | .waitingForAck =>
      .ok (.markedBusy, (db.modifyAgent agentId (·.enter .busy now)).appendEvent agentId
        "state_change" (stateChange .waitingForAck .busy (some reason)) now)
    | .busy => .ok (.alreadyBusy, db)
    | .idle => .ok (.alreadyIdle, db)
    | .promptPending => .ok (.promptPending, db)
    | _ => .ok (.terminal, db)

/-- The reasons the fallback takes for failures before the send. -/
def safePreSend (reason : String) : Bool :=
  ["pane_unregistered_during_ack", "reader_unregistered_during_ack",
    "tmux_capture_failed_during_ack"].contains reason

def insertAckJobResolution (db : Db) (agentId jobId resolution reason : String) (now : Int) : Db :=
  db.appendEvent agentId "job_resolution" (.obj
    [("job_id", .str jobId), ("job_resolution", .str resolution), ("reason", .str reason),
      ("source", .str "ack_stuck_before_busy")]) now

/-- The job of the fallback: back to the queue, or failed. -/
def resolveAckJob (db : Db) (agentId jobId reason : String) (requeuePreSend : Bool) (now : Int) :
    Except CcbdError Db :=
  if requeuePreSend then do
    let db ← requeueJobStateConnSync db jobId .dispatched none reason now
    return insertAckJobResolution db agentId jobId "REQUEUED" reason now
  else do
    let db := db.modifyJob jobId (·.setErrorReason (some reason))
    let db ← transitJobState db jobId .dispatched .failed reason now
    return insertAckJobResolution db agentId jobId "FAILED" reason now

def fallbackAckToStuck (db : Db) (agentId reason : String) (now : Int) :
    Except CcbdError (Nat × Db) :=
  match db.agents.get? agentId with
  | none => .ok (0, db)
  | some agent =>
    if agent.state ≠ .waitingForAck then .ok (0, db)
    else
      match queryDispatchedJobForAgentSync db agentId with
      | none =>
        let db := db.modifyAgent agentId (·.enter .stuck now)
        .ok (1, db.appendEvent agentId "state_change" (.obj
          [("from", .str agent.state.asDbStr), ("job_id", .null), ("job_resolution", .str "NONE"),
            ("reason", .str reason), ("to", .str "STUCK")]) now)
      | some (jobId, _) => do
        let requeuePreSend := safePreSend reason
        let toState := if requeuePreSend then AgentState.idle else .stuck
        let db := db.modifyAgent agentId (·.enter toState now)
        let db ← resolveAckJob db agentId jobId reason requeuePreSend now
        return (1, db.appendEvent agentId "state_change" (.obj
          [("from", .str agent.state.asDbStr), ("job_id", .str jobId),
            ("job_resolution", .str (if requeuePreSend then "REQUEUED" else "FAILED")),
            ("reason", .str reason), ("to", .str toState.asDbStr)]) now)

/-- The first of the two database calls of `fallback_ack_to_crashed`: does it go on? -/
def fallbackAckToCrashedProceeds (db : Db) (agentId : String) : Bool :=
  (db.agents.get? agentId).any (·.state = .waitingForAck)

/-- `fallback_ack_to_crashed` when nothing comes between its two database calls. -/
def fallbackAckToCrashed (db : Db) (agentId reason : String) (now : Int) :
    Except CcbdError (Nat × Db) :=
  if fallbackAckToCrashedProceeds db agentId then markAgentCrashedSync db agentId none reason now
  else .ok (0, db)

/-! ## What they do -/

theorem ackMarkBusyOrResolveOnce_ok
    (h : ackMarkBusyOrResolveOnce db agentId reason now = .ok (r, db')) :
    db' = db ∨ ∃ agent p, db.agents.get? agentId = some agent ∧ agent.state = .waitingForAck ∧
      db' = (db.modifyAgent agentId (·.enter .busy now)).appendEvent agentId "state_change" p now := by
  unfold ackMarkBusyOrResolveOnce at h
  split at h
  · cases h
    exact .inl rfl
  rename_i agent hagent
  split at h
  · rename_i hs
    cases h
    exact .inr ⟨agent, _, hagent, hs, rfl⟩
  all_goals
    cases h
    exact .inl rfl

theorem resolveAckJob_ok (h : resolveAckJob db agentId jobId reason requeue now = .ok db') :
    db'.agents = db.agents ∧ ∃ e,
      db'.jobs = (db.jobs.modify jobId (·.setErrorReason e)).modify jobId
        (·.enter (if requeue then .queued else .failed) now) := by
  cases requeue with
  | true =>
    obtain ⟨db₁, h₁, h₂⟩ := bind_eq_ok.mp h
    obtain ⟨t, rfl⟩ := requeueJobStateConnSync_ok h₁
    cases h₂
    exact ⟨rfl, none, rfl⟩
  | false =>
    obtain ⟨db₁, h₁, h₂⟩ := bind_eq_ok.mp h
    obtain ⟨job, t, -, rfl⟩ := transitJobState_ok h₁
    cases h₂
    exact ⟨rfl, some reason, rfl⟩

/-- Everything the fallback can do. It acts on a WAITING_FOR_ACK agent alone; a
dispatched job goes back to the queue exactly when the reason is one of the three. -/
theorem fallbackAckToStuck_ok (h : fallbackAckToStuck db agentId reason now = .ok (n, db')) :
    (db' = db ∧
        ∀ agent, db.agents.get? agentId = some agent → agent.state ≠ .waitingForAck) ∨
      n = 1 ∧ ∃ agent, db.agents.get? agentId = some agent ∧ agent.state = .waitingForAck ∧
        ((queryDispatchedJobForAgentSync db agentId = none ∧ db'.jobs = db.jobs ∧
            db'.agents = db.agents.modify agentId (·.enter .stuck now)) ∨
          ∃ jobId job e, queryDispatchedJobForAgentSync db agentId = some (jobId, job) ∧
            db'.agents = db.agents.modify agentId
              (·.enter (if safePreSend reason then .idle else .stuck) now) ∧
            db'.jobs = (db.jobs.modify jobId (·.setErrorReason e)).modify jobId
              (·.enter (if safePreSend reason then .queued else .failed) now)) := by
  obtain ⟨-, spared⟩ | ⟨agent, hagent, hs, h⟩ := unless_ok h
  · exact .inl spared
  split at h
  · rename_i hfree
    cases h
    exact .inr ⟨rfl, agent, hagent, not_not.mp hs, .inl ⟨hfree, rfl, rfl⟩⟩
  · rename_i jobId job hdisp
    obtain ⟨db₁, h₁, h₂⟩ := bind_eq_ok.mp h
    cases h₂
    obtain ⟨hagents, e, hjobs⟩ := resolveAckJob_ok h₁
    exact .inr ⟨rfl, agent, hagent, not_not.mp hs, .inr ⟨jobId, job, e, hdisp, hagents, hjobs⟩⟩

theorem resolveAckJob_succeeds (hjob : db.jobs.get? jobId = some job)
    (hs : job.status = .dispatched) (agentId reason : String) (requeue : Bool) (now : Int) :
    ∃ db', resolveAckJob db agentId jobId reason requeue now = .ok db' := by
  cases requeue with
  | true =>
    obtain ⟨db', h⟩ := transitJobState_modifyJob_succeeds (f := (·.setErrorReason none)) hjob hs
      (by decide : JobStatus.dispatched.edge .queued = true) (.inl (by simp)) reason now
    simp only [resolveAckJob, requeueJobStateConnSync, hjob, hs, h]
    exact ⟨_, rfl⟩
  | false =>
    obtain ⟨db', h⟩ := transitJobState_modifyJob_succeeds (f := (·.setErrorReason (some reason)))
      hjob hs (by decide : JobStatus.dispatched.edge .failed = true) (.inl (by simp)) reason now
    simp only [resolveAckJob, h]
    exact ⟨_, rfl⟩

theorem fallbackAckToStuck_succeeds
    (hagent : db.agents.get? agentId = some agent) (hstate : agent.state = .waitingForAck)
    (hdisp : queryDispatchedJobForAgentSync db agentId = some (jobId, job)) (reason : String)
    (now : Int) : ∃ r, fallbackAckToStuck db agentId reason now = .ok r := by
  obtain ⟨hjob, -, hs⟩ := queryDispatchedJobForAgentSync_some hdisp
  have hjob' : (db.modifyAgent agentId (·.enter
      (if safePreSend reason then .idle else .stuck) now)).jobs.get? jobId = some job := hjob
  obtain ⟨db', h⟩ := resolveAckJob_succeeds hjob' hs agentId reason (safePreSend reason) now
  simp only [fallbackAckToStuck, hagent, hstate, hdisp, h]
  exact ⟨_, rfl⟩

end Ccbd
