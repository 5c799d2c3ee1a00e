import Ccbd.Db.Schema

/-!
# The job status gate

`transitJobState` is the single writer of `jobs.status`: it checks the status the
caller expects, checks the edge, writes the columns that go with the new status
and appends an audit row to `job_transitions`.
-/

namespace Ccbd

open Lib

/-! ## Column updates -/

def Job.setErrorReason (job : Job) (errorReason : Option String) : Job :=
  { job with errorReason := errorReason }

def Job.setReplyText (job : Job) (replyText : String) : Job :=
  { job with replyText := some replyText }

def Job.requestCancel (job : Job) : Job := { job with cancelRequested := true }

/-- `UPDATE jobs SET dispatched_at_seq_id = ? WHERE id = ? AND status = 'DISPATCHED'`. -/
def Job.setDispatchedSeqId (job : Job) (seqId : Nat) : Job :=
  if job.status = .dispatched then { job with dispatchedAtSeqId := some seqId } else job

/-! ## The gate -/

/-- Appends the audit row of a job that was just written. -/
def recordJobTransition (db : Db) (jobId : String) (oldStatus newStatus : Option JobStatus)
    (kind : String) (changedFields : List String) (reason : String) (now : Int) :
    Except CcbdError Db :=
  match db.jobs.get? jobId with
  | none => .error (.dbConstraintViolation s!"job {jobId} missing after mutation")
  | some job => .ok <| db.appendJobTransition
      { jobId := jobId, agentId := job.agentId, requestId := job.requestId, kind := kind,
        oldStatus := oldStatus, newStatus := newStatus, changedJson := changedFields,
        reason := reason, jobCreatedAt := job.createdAt, dispatchedAt := job.dispatchedAt,
        completedAt := job.completedAt, cancelRequested := job.cancelRequested,
        errorReason := job.errorReason, createdAt := now }

/-- The payload of the latest `state_change` event of an agent. -/
def latestStateChange (db : Db) (agentId : String) : Option Json :=
  (db.events.latest? fun _ e => e.agentId = agentId && e.eventType = "state_change").map
    fun r => r.2.payload

/-- The latest state change of the agent recorded a health check that gave up on
this very job after it had seen a completion signal. -/
def checkLateCompletionEvidence (db : Db) (agentId dispatchedJobId : String) : Bool :=
  match latestStateChange db agentId with
  | none => false
  | some payload =>
    payload.strField? "reason" == some "HEALTH_CHECK_STUCK" &&
      ((payload.get? "signal_kinds").bind Json.asArray?).any
        (fun signals => signals.any fun s => s.asStr? == some "health:completion") &&
      payload.strField? "job_id" == some dispatchedJobId

/-- The edges of the transition table; `FAILED -> COMPLETED` has a further guard. -/
def JobStatus.edge : JobStatus → JobStatus → Bool
  | queued, dispatched | queued, cancelled | queued, failed => true
  | dispatched, completed | dispatched, failed | dispatched, cancelled
  | dispatched, queued => true
  | failed, completed | failed, queued => true
  | _, _ => false

/-- The columns a job gets with a new status. -/
def Job.enter (job : Job) (toStatus : JobStatus) (now : Int) : Job :=
  match toStatus with
  | .dispatched => { job with status := toStatus, dispatchedAt := some now }
  | .completed | .cancelled | .failed => { job with status := toStatus, completedAt := some now }
  | .queued =>
    { job with
      status := toStatus, dispatchedAt := none, dispatchedAtSeqId := none, completedAt := none }

def JobStatus.changedFields : JobStatus → List String
  | dispatched => ["status", "dispatched_at"]
  | completed | cancelled | failed => ["status", "completed_at"]
  | queued => ["status", "dispatched_at", "dispatched_at_seq_id", "completed_at", "error_reason"]

/-- The gate. -/
def transitJobState (db : Db) (jobId : String) (expectedFrom toStatus : JobStatus) (reason : String)
    (now : Int) : Except CcbdError Db :=
  match db.jobs.get? jobId with
  | none => .error (.dbConstraintViolation s!"job {jobId} not found")
  | some job =>
    if job.status ≠ expectedFrom then
      .error (.dbConstraintViolation
        s!"CAS mismatch for job {jobId}: expected {expectedFrom.debug}, actual {job.status.debug}")
    else if (expectedFrom, toStatus) = (.failed, .completed) ∧
        checkLateCompletionEvidence db job.agentId jobId = false then
      .error (.dbConstraintViolation
        s!"FAILED -> COMPLETED transition refused for job {jobId}: no late evidence")
    else if expectedFrom.edge toStatus = false then
      .error (.dbConstraintViolation
        s!"illegal state transition for job {jobId} from {expectedFrom.debug} to {toStatus.debug}")
    else
      recordJobTransition (db.modifyJob jobId (·.enter toStatus now)) jobId (some expectedFrom)
        (some toStatus) "job_transition" toStatus.changedFields reason now

/-- Forced cancel of a job whose cancel request is at least `timeoutSecs` old. -/
def forceCancelPendingDispatchedJobConnSync (db : Db) (jobId : String)
    (nowEpoch timeoutSecs now : Int) : Except CcbdError (Bool × Db) :=
  match db.jobs.get? jobId with
  | none => .error (.dbConstraintViolation s!"job {jobId} not found")
  | some job =>
    if job.status ≠ .dispatched ∨ job.cancelRequested = false then .ok (false, db)
    else
      match db.jobTransitions.latest? fun _ t =>
          t.jobId = jobId && t.reason = "cancel_requested" with
      | none => .ok (false, db)
      | some (_, requested) =>
        if nowEpoch - requested.createdAt ≥ timeoutSecs then do
          let db ← transitJobState db jobId .dispatched .cancelled "cancel_timeout_takeover" now
          return (true, db)
        else .ok (false, db)

/-- Puts a job back into the queue with the given error reason. -/
def requeueJobStateConnSync (db : Db) (jobId : String) (expectedFrom : JobStatus)
    (errorReason : Option String) (reason : String) (now : Int) : Except CcbdError Db :=
  match db.jobs.get? jobId with
  | none => .error (.dbConstraintViolation s!"job {jobId} not found")
  | some job =>
    if job.status ≠ expectedFrom then
      .error (.dbConstraintViolation
        s!"CAS mismatch for job {jobId}: expected {expectedFrom.debug}, actual {job.status.debug}")
    else
      transitJobState (db.modifyJob jobId (·.setErrorReason errorReason)) jobId
        expectedFrom .queued reason now

/-! ## What the gate does -/

section Columns

variable (job : Job) (toStatus : JobStatus) (now : Int) (e : Option String) (r : String) (n : Nat)

@[simp] theorem Job.enter_status : (job.enter toStatus now).status = toStatus := by
  cases toStatus <;> rfl
@[simp] theorem Job.enter_agentId : (job.enter toStatus now).agentId = job.agentId := by
  cases toStatus <;> rfl
@[simp] theorem Job.enter_cancelRequested :
    (job.enter toStatus now).cancelRequested = job.cancelRequested := by cases toStatus <;> rfl
@[simp] theorem Job.enter_replyText : (job.enter toStatus now).replyText = job.replyText := by
  cases toStatus <;> rfl

@[simp] theorem Job.setErrorReason_status : (job.setErrorReason e).status = job.status := rfl
@[simp] theorem Job.setErrorReason_agentId : (job.setErrorReason e).agentId = job.agentId := rfl
@[simp] theorem Job.setErrorReason_promptText :
    (job.setErrorReason e).promptText = job.promptText := rfl
@[simp] theorem Job.setErrorReason_cancelRequested :
    (job.setErrorReason e).cancelRequested = job.cancelRequested := rfl
@[simp] theorem Job.setReplyText_status : (job.setReplyText r).status = job.status := rfl
@[simp] theorem Job.setReplyText_agentId : (job.setReplyText r).agentId = job.agentId := rfl
@[simp] theorem Job.setReplyText_promptText :
    (job.setReplyText r).promptText = job.promptText := rfl
@[simp] theorem Job.setReplyText_cancelRequested :
    (job.setReplyText r).cancelRequested = job.cancelRequested := rfl
@[simp] theorem Job.setReplyText_replyText : (job.setReplyText r).replyText = some r := rfl
@[simp] theorem Job.requestCancel_status : job.requestCancel.status = job.status := rfl
@[simp] theorem Job.requestCancel_agentId : job.requestCancel.agentId = job.agentId := rfl
@[simp] theorem Job.requestCancel_cancelRequested : job.requestCancel.cancelRequested = true := rfl

@[simp] theorem Job.setDispatchedSeqId_status :
    (job.setDispatchedSeqId n).status = job.status := by
  unfold Job.setDispatchedSeqId; split_ifs <;> rfl
@[simp] theorem Job.setDispatchedSeqId_agentId :
    (job.setDispatchedSeqId n).agentId = job.agentId := by
  unfold Job.setDispatchedSeqId; split_ifs <;> rfl
@[simp] theorem Job.setDispatchedSeqId_cancelRequested :
    (job.setDispatchedSeqId n).cancelRequested = job.cancelRequested := by
  unfold Job.setDispatchedSeqId; split_ifs <;> rfl

end Columns

theorem recordJobTransition_ok
    (h : recordJobTransition db jobId o n kind fields reason now = .ok db') :
    ∃ t, db' = db.appendJobTransition t := by
  unfold recordJobTransition at h
  split at h
  · cases h
  · exact ⟨_, by cases h; rfl⟩

theorem recordJobTransition_succeeds (h : (db.jobs.get? jobId).isSome) :
    ∃ t, recordJobTransition db jobId o n kind fields reason now =
      .ok (db.appendJobTransition t) := by
  obtain ⟨job, hjob⟩ := Option.isSome_iff_exists.mp h
  rw [recordJobTransition, hjob]
  exact ⟨_, rfl⟩

/-- Everything the gate can do: the job has the expected status, the edge is in
the table, and the job alone is rewritten. -/
theorem transitJobState_ok
    (h : transitJobState db jobId expectedFrom toStatus reason now = .ok db') :
    ∃ job t, db.jobs.get? jobId = some job ∧
      db' = (db.modifyJob jobId (·.enter toStatus now)).appendJobTransition t := by
  unfold transitJobState at h
  split at h
  · cases h
  · rename_i job hjob
    split_ifs at h
    obtain ⟨t, ht⟩ := recordJobTransition_ok h
    exact ⟨job, t, hjob, ht⟩

theorem transitJobState_succeeds (hjob : db.jobs.get? jobId = some job) (hs : job.status = source)
    (hedge : source.edge toStatus = true) (hguard : toStatus ≠ .completed ∨ source ≠ .failed)
    (reason : String) (now : Int) :
    ∃ t, transitJobState db jobId source toStatus reason now =
      .ok ((db.modifyJob jobId (·.enter toStatus now)).appendJobTransition t) := by
  subst hs
  have hl : ¬((job.status, toStatus) = (.failed, .completed) ∧
      checkLateCompletionEvidence db job.agentId jobId = false) := by
    rintro ⟨e, -⟩
    simp only [Prod.mk.injEq] at e
    rcases hguard with h | h
    · exact h e.2
    · exact h e.1
  unfold transitJobState
  simp only [hjob, ne_eq, if_neg hl, hedge]
  exact recordJobTransition_succeeds (by simp [hjob])

theorem transitJobState_modifyJob_succeeds {db : Db} (hjob : db.jobs.get? jobId = some job)
    (hf : (f job).status = source) (hedge : source.edge toStatus = true)
    (hguard : toStatus ≠ .completed ∨ source ≠ .failed) (reason : String) (now : Int) :
    ∃ db', transitJobState (db.modifyJob jobId f) jobId source toStatus reason now = .ok db' := by
  obtain ⟨t, ht⟩ :=
    transitJobState_succeeds (Db.get?_modifyJob hjob f) hf hedge hguard reason now
  exact ⟨_, ht⟩

theorem requeueJobStateConnSync_ok
    (h : requeueJobStateConnSync db jobId expectedFrom errorReason reason now = .ok db') :
    ∃ t, db' = ((db.modifyJob jobId (·.setErrorReason errorReason)).modifyJob jobId
      (·.enter .queued now)).appendJobTransition t := by
  unfold requeueJobStateConnSync at h
  split at h
  · cases h
  · split_ifs at h
    obtain ⟨job, t, -, rfl⟩ := transitJobState_ok h
    exact ⟨t, rfl⟩

theorem requeueJobStateConnSync_succeeds (found : db.jobs.get? jobId = some job)
    (expected : job.status = expectedFrom) (edge : expectedFrom.edge .queued = true)
    (errorReason : Option String) (reason : String) (now : Int) :
    ∃ db', requeueJobStateConnSync db jobId expectedFrom errorReason reason now = .ok db' := by
  obtain ⟨db', transits⟩ := transitJobState_modifyJob_succeeds
    (f := (·.setErrorReason errorReason)) found expected edge (.inl (by simp)) reason now
  refine ⟨db', ?_⟩
  simp [requeueJobStateConnSync, found, expected, transits]

theorem forceCancelPendingDispatchedJobConnSync_ok
    (h : forceCancelPendingDispatchedJobConnSync db jobId nowEpoch timeoutSecs now = .ok (r, db')) :
    db' = db ∨ ∃ t, db' = (db.modifyJob jobId (·.enter .cancelled now)).appendJobTransition t := by
  unfold forceCancelPendingDispatchedJobConnSync at h
  split at h
  · cases h
  split_ifs at h
  · left; cases h; rfl
  split at h
  · left; cases h; rfl
  split_ifs at h
  · obtain ⟨db₁, h₁, h₂⟩ := bind_eq_ok.mp h
    obtain ⟨job', t, -, rfl⟩ := transitJobState_ok h₁
    cases h₂
    exact .inr ⟨t, rfl⟩
  · left; cases h; rfl

end Ccbd
