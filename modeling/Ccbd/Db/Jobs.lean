import Ccbd.Db.JobState
import Ccbd.Db.AgentState

/-!
# Job operations

Submission, dispatch, cancellation, failure and requeue of jobs. Each operation is
one transaction; the inversion lemma after a group of operations says everything
the operation can do to the `agents` and `jobs` tables.
-/

namespace Ccbd

open Lib

/-! ## Queries -/

/-- `a <= b` where SQL sorts NULL first. -/
def nullsFirst : Option Int → Option Int → Bool
  | none, _ => true
  | some _, none => false
  | some a, some b => a ≤ b

/-- `ORDER BY dispatched_at ASC, id ASC`. -/
def dispatchedOrder (x y : String × Job) : Bool :=
  if x.2.dispatchedAt = y.2.dispatchedAt then x.1 ≤ y.1
  else nullsFirst x.2.dispatchedAt y.2.dispatchedAt

variable (db : Db) (agentId : String)

/-- The DISPATCHED jobs of an agent in the order the source reads them. -/
def dispatchedJobs : List (String × Job) :=
  db.jobs.selectOrderBy (fun _ j => j.agentId = agentId && j.status = .dispatched) dispatchedOrder

def queryDispatchedJobIdsForAgentSync : List String :=
  (dispatchedJobs db agentId).map Prod.fst

def queryDispatchedJobForAgentSync : Option (String × Job) :=
  (dispatchedJobs db agentId).head?

/-- The QUEUED job of an agent that comes first by `created_at`, then `rowid`. -/
def nextQueuedJob : Option (String × Job) :=
  (db.jobs.selectOrderBy (fun _ j => j.agentId = agentId && j.status = .queued)
    fun x y => x.2.createdAt ≤ y.2.createdAt).head?

def queryJobByRequestIdSync (requestId : String) : Option (String × Job) :=
  (db.jobs.select fun _ j => j.agentId = agentId && j.requestId = some requestId).head?

/-- The agent owns the job, and the job is DISPATCHED. -/
def Db.Owns (jobId : String) : Prop :=
  ∃ job, db.jobs.get? jobId = some job ∧ job.agentId = agentId ∧ job.status = .dispatched

def Db.statusOf (jobId : String) : Option JobStatus :=
  (db.jobs.get? jobId).map (·.status)

variable {db agentId}

variable {db : Db} {now : Int} {job : Job} {agentId id jobId reason : String}

theorem Db.Owns.statusOf (h : db.Owns a j) : db.statusOf j = some .dispatched := by
  obtain ⟨job, found, -, dispatched⟩ := h
  rw [Db.statusOf, found, Option.map_some, dispatched]

def Db.stateOf (db : Db) (agentId : String) : Option AgentState :=
  (db.agents.get? agentId).map (·.state)

theorem Db.isSome_of_stateOf (h : db.stateOf agentId = some state) :
    (db.agents.get? agentId).isSome := by
  obtain ⟨agent, hagent, -⟩ := Option.map_eq_some_iff.mp h
  exact Option.isSome_of_eq_some hagent

theorem Db.not_owns (h : ∀ row ∈ db.jobs.rows, row.2.status ≠ .dispatched) (a j : String) :
    ¬db.Owns a j := by
  rintro ⟨job, found, -, dispatched⟩
  exact h (j, job) (Table.get?_eq_some_iff.mp found) dispatched

theorem Db.eq_of_owns (h : ∀ row ∈ db.jobs.rows, row.2.status = .dispatched → row.1 = jobId)
    (owns : db.Owns a j) : j = jobId := by
  obtain ⟨job, found, -, dispatched⟩ := owns
  exact h (j, job) (Table.get?_eq_some_iff.mp found) dispatched

theorem mem_dispatchedJobs :
    (jobId, job) ∈ dispatchedJobs db agentId ↔
      db.jobs.get? jobId = some job ∧ job.agentId = agentId ∧ job.status = .dispatched := by
  simp [dispatchedJobs, Table.mem_selectOrderBy]

theorem queryDispatchedJobForAgentSync_some
    (h : queryDispatchedJobForAgentSync db agentId = some (jobId, job)) :
    db.jobs.get? jobId = some job ∧ job.agentId = agentId ∧ job.status = .dispatched :=
  mem_dispatchedJobs.mp (List.mem_of_mem_head? h)

theorem queryDispatchedJobForAgentSync_none (h : queryDispatchedJobForAgentSync db agentId = none)
    (hj : db.jobs.get? jobId = some job) (ha : job.agentId = agentId) :
    job.status ≠ .dispatched := by
  intro hd
  have := Table.head?_selectOrderBy_eq_none.mp h jobId job hj
  simp [ha, hd] at this

theorem nextQueuedJob_some (h : nextQueuedJob db agentId = some (jobId, job)) :
    db.jobs.get? jobId = some job ∧ job.agentId = agentId ∧ job.status = .queued := by
  have := Table.mem_selectOrderBy.mp (List.mem_of_mem_head? h)
  simpa using this

/-! ## Submission -/

/-- `INSERT INTO jobs` under its constraints: the unique index on
`(agent_id, request_id)` is reported before the primary key, a missing agent last. -/
def insertJobRow (db : Db) (id : String) (job : Job) (context reason : String)
    (fields : List String) (now : Int) : Except CcbdError (String × Db) :=
  match job.requestId.bind (queryJobByRequestIdSync db job.agentId) with
  | some (existing, _) => .ok (existing, db)
  | none =>
    if (db.jobs.get? id).isSome then
      .error (.dbConstraintViolation s!"{context}: UNIQUE constraint failed: jobs.id")
    else if (db.agents.get? job.agentId).isNone then
      .error (.dbConstraintViolation s!"{context}: FOREIGN KEY constraint failed")
    else do
      let db ← recordJobTransition { db with jobs := db.jobs.insert id job } id none (some .queued)
        "job_transition" fields reason now
      return (id, db)

def insertJobSync (db : Db) (id agentId : String) (requestId : Option String) (promptText : String)
    (now : Int) : Except CcbdError (String × Db) :=
  insertJobRow db id
    { agentId := agentId, requestId := requestId, promptText := promptText, createdAt := now }
    "insert job" "submit" ["status", "created_at"] now

def insertRecoveredQueuedJobSync (db : Db) (id agentId : String) (requestId : Option String)
    (promptText : String) (cancelRequested requiresPhysicalEvidence requiresTestEvidence : Bool)
    (errorReason : String) (now : Int) : Except CcbdError (String × Db) :=
  insertJobRow db id
    { agentId := agentId, requestId := requestId, promptText := promptText, createdAt := now,
      errorReason := some errorReason, cancelRequested := cancelRequested,
      requiresPhysicalEvidence := requiresPhysicalEvidence,
      requiresTestEvidence := requiresTestEvidence }
    "insert recovered queued job" "recovery_recovered_create"
    ["status", "created_at", "error_reason"] now

theorem insertJobRow_ok (h : insertJobRow db id job context reason fields now = .ok (id', db')) :
    db' = db ∨ id' = id ∧ db.jobs.get? id = none ∧ (db.agents.get? job.agentId).isSome ∧
      ∃ t, db' = { db with jobs := db.jobs.insert id job }.appendJobTransition t := by
  unfold insertJobRow at h
  split at h
  · left; cases h; rfl
  · split_ifs at h with hid hag
    obtain ⟨db₁, h₁, h₂⟩ := bind_eq_ok.mp h
    obtain ⟨t, rfl⟩ := recordJobTransition_ok h₁
    cases h₂
    exact .inr ⟨rfl, by simpa using hid, by simpa [Option.isSome_iff_ne_none] using hag, t, rfl⟩

theorem insertJobRow_succeeds
    (request : job.requestId.bind (queryJobByRequestIdSync db job.agentId) = none)
    (fresh : db.jobs.get? id = none) (agent : (db.agents.get? job.agentId).isSome)
    (context reason : String) (fields : List String) (now : Int) :
    ∃ t, insertJobRow db id job context reason fields now =
      .ok (id, { db with jobs := db.jobs.insert id job }.appendJobTransition t) := by
  have inserted : ({ db with jobs := db.jobs.insert id job } : Db).jobs.get? id = some job :=
    (Table.get?_insert fresh job id).trans (if_pos rfl)
  obtain ⟨t, ht⟩ := recordJobTransition_succeeds (Option.isSome_of_eq_some inserted)
  unfold insertJobRow
  simp only [request, fresh, Option.isNone_iff_eq_none, Option.isSome_iff_ne_none.mp agent]
  exact ⟨t, bind_eq_ok.mpr ⟨_, ht, rfl⟩⟩

theorem insertJobRow_error (h : insertJobRow db id job context reason fields now = .error e) :
    e = .dbConstraintViolation s!"{context}: UNIQUE constraint failed: jobs.id" ∨
      db.agents.get? job.agentId = none := by
  cases request : job.requestId.bind (queryJobByRequestIdSync db job.agentId) with
  | some existing =>
    simp only [insertJobRow, request] at h
    cases h
  | none =>
    by_cases taken : (db.jobs.get? id).isSome = true
    · simp only [insertJobRow, request, taken, ↓reduceIte, Except.error.injEq] at h
      exact .inl h.symm
    by_cases absent : db.agents.get? job.agentId = none
    · exact .inr absent
    · have fresh : db.jobs.get? id = none := by simpa using taken
      obtain ⟨t, done⟩ := insertJobRow_succeeds request fresh
        (Option.isSome_iff_ne_none.mpr absent) context reason fields now
      rw [done] at h
      cases h

/-! ## Dispatch -/

structure DispatchedJob where
  jobId : String
  job : Job
  seqId : Nat
  jobPayload : Json

/-- Adds a field unless the object has one of that name. -/
def orInsert (fields : List (String × Json)) (key : String) (value : Json) : List (String × Json) :=
  if (fields.lookup key).isSome then fields else fields ++ [(key, value)]

def dispatchEventPayload (base : Json) (jobId : String) (job : Job) : Json :=
  let payload := match base with
    | .obj fields => fields
    | _ => []
  let payload := orInsert payload "cmd" (.str job.promptText)
  let payload := orInsert payload "job_id" (.str jobId)
  let payload := orInsert payload "status" (.str "SENT")
  let payload := orInsert payload "env" (.obj [])
  .obj (payload.map fun
    | ("env", .obj env) => ("env", .obj (orInsert env "CCB_JOB_ID" (.str jobId)))
    | field => field)

def dispatchJobToAgentSync (db : Db) (agentId : String) (expectedFromState : List AgentState)
    (newState : AgentState) (eventKind : String) (eventPayload : Json) (now : Int) :
    Except CcbdError (Option DispatchedJob × Db) :=
  match db.agents.get? agentId with
  | none => .error (.agentNotFound agentId)
  | some agent =>
    if expectedFromState ≠ [] ∧ agent.state ∉ expectedFromState then
      .error (.agentWrongState agent.state.asDbStr)
    else
      -- the candidate query does not look at `cancel_requested`
      match nextQueuedJob db agentId with
      | none => .ok (none, db)
      | some (jobId, job) => do
        let db ← transitJobState db jobId .queued .dispatched "dispatch_job_to_agent" now
        let db ← transitAgentStateConnSync db agentId expectedFromState newState
          (some "dispatched") now
        let payload := dispatchEventPayload eventPayload jobId job
        let db := db.appendEvent agentId eventKind payload now
        let seqId := db.lastEventSeq
        let db := db.modifyJob jobId (·.setDispatchedSeqId seqId)
        let job := (job.enter .dispatched now).setDispatchedSeqId seqId
        return (some { jobId := jobId, job := job, seqId := seqId, jobPayload := payload }, db)

/-- The dispatch of the orchestrator loop. -/
def dispatchQueuedJob (db : Db) (agentId : String) (now : Int) :
    Except CcbdError (Option DispatchedJob × Db) :=
  dispatchJobToAgentSync db agentId [.idle] .waitingForAck "command_received"
    (.obj [("status", .str "SENT")]) now

/-- Everything a dispatch can do: nothing, or the first queued job of an agent in an
expected state becomes DISPATCHED and the agent enters the new state. -/
theorem dispatchJobToAgentSync_ok
    (h : dispatchJobToAgentSync db agentId expected newState kind payload now = .ok (r, db')) :
    (r = none ∧ db' = db) ∨
      ∃ jobId agent job t p p' seq, db.agents.get? agentId = some agent ∧
        (expected = [] ∨ agent.state ∈ expected) ∧ nextQueuedJob db agentId = some (jobId, job) ∧
        db' = (((((db.modifyJob jobId (·.enter .dispatched now)).appendJobTransition
          t).modifyAgent agentId (·.enter newState now)).appendEvent agentId "state_change" p
          now).appendEvent agentId kind p' now).modifyJob jobId (·.setDispatchedSeqId seq) := by
  unfold dispatchJobToAgentSync at h
  split at h
  · cases h
  · rename_i agent hagent
    split_ifs at h with hs
    split at h
    · left; cases h; exact ⟨rfl, rfl⟩
    · rename_i jobId job hnext
      obtain ⟨db₁, h₁, h⟩ := bind_eq_ok.mp h
      obtain ⟨db₂, h₂, h⟩ := bind_eq_ok.mp h
      obtain ⟨job', t, -, rfl⟩ := transitJobState_ok h₁
      obtain ⟨agent', p, hagent', hfrom, rfl⟩ := transitAgentStateConnSync_ok h₂
      cases h
      right
      refine ⟨jobId, agent, job, t, p, _, _, hagent, ?_, hnext, rfl⟩
      have : agent' = agent := by
        simp only [Db.appendJobTransition_agents, Db.modifyJob_agents, hagent] at hagent'
        exact (Option.some.inj hagent').symm
      exact this ▸ hfrom

theorem dispatchJobToAgentSync_succeeds (hagent : db.agents.get? agentId = some agent)
    (hfrom : expected = [] ∨ agent.state ∈ expected)
    (hnext : nextQueuedJob db agentId = some (jobId, job)) (newState : AgentState) (kind : String)
    (payload : Json) (now : Int) :
    ∃ d db', dispatchJobToAgentSync db agentId expected newState kind payload now =
      .ok (some d, db') := by
  obtain ⟨hjob, -, hqueued⟩ := nextQueuedJob_some hnext
  obtain ⟨t, ht⟩ := transitJobState_succeeds hjob hqueued
    (by decide : JobStatus.queued.edge .dispatched = true)
    (.inl (by simp)) "dispatch_job_to_agent" now
  have hs : ¬(expected ≠ [] ∧ agent.state ∉ expected) := by
    rintro ⟨h₁, h₂⟩
    exact hfrom.elim h₁ h₂
  have hagent' : ((db.modifyJob jobId (·.enter .dispatched now)).appendJobTransition t).agents.get?
      agentId = some agent := hagent
  obtain ⟨db', hdb'⟩ := transitAgentStateConnInner_succeeds hagent' hfrom newState
    (some "dispatched") true now
  simp only [dispatchJobToAgentSync, hagent, if_neg hs, hnext, ht, ok_bind,
    transitAgentStateConnSync, hdb']
  exact ⟨_, _, rfl⟩

/-! ## Settling and cancelling -/

variable (db : Db) (jobId : String)

/-- Writes the reply of a DISPATCHED job and moves it on; any other job is left alone. -/
def settleDispatchedJob (replyText : String) (toStatus : JobStatus)
    (reason : String) (now : Int) : Except CcbdError (Nat × Db) :=
  match db.jobs.get? jobId with
  | none => .ok (0, db)
  | some job =>
    if job.status = .dispatched then do
      let db := db.modifyJob jobId (·.setReplyText replyText)
      let db ← transitJobState db jobId .dispatched toStatus reason now
      return (1, db)
    else .ok (0, db)

def markJobCompletedConnSync (replyText : String) (now : Int) : Except CcbdError (Nat × Db) :=
  settleDispatchedJob db jobId replyText .completed "completed" now

def markJobCancelledConnSync (replyText : String) (now : Int) : Except CcbdError (Nat × Db) :=
  settleDispatchedJob db jobId replyText .cancelled "cancelled" now

def markQueuedJobCancelledSync (now : Int) : Except CcbdError (Nat × Db) :=
  match db.jobs.get? jobId with
  | none => .ok (0, db)
  | some job =>
    if job.status = .queued then do
      let db ← transitJobState db jobId .queued .cancelled "cancel_queued" now
      return (1, db)
    else .ok (0, db)

def requestDispatchedJobCancelSync (now : Int) : Except CcbdError (Nat × Db) :=
  match db.jobs.get? jobId with
  | none => .ok (0, db)
  | some job =>
    if job.status = .dispatched ∧ job.cancelRequested = false then do
      let db ← recordJobTransition (db.modifyJob jobId Job.requestCancel) jobId
        (some .dispatched) (some .dispatched) "job_updated" ["cancel_requested"]
        "cancel_requested" now
      return (1, db)
    else .ok (0, db)

def setJobEvidenceRequirementsSync
    (requiresPhysicalEvidence requiresTestEvidence : Bool) : Except CcbdError (Nat × Db) :=
  .ok (if (db.jobs.get? jobId).isSome then 1 else 0,
    db.modifyJob jobId ({ · with
      requiresPhysicalEvidence := requiresPhysicalEvidence
      requiresTestEvidence := requiresTestEvidence }))

def markDispatchedJobCancelledIfAgentIdleSync (now : Int) : Except CcbdError (Nat × Db) :=
  match db.jobs.get? jobId with
  | none => .ok (0, db)
  | some job =>
    let agentIdle := (db.agents.get? job.agentId).any fun agent =>
      agent.state = .idle || agent.state = .unknown
    if job.status = .dispatched ∧ job.cancelRequested = true ∧ agentIdle = true then do
      let db ← transitJobState db jobId .dispatched .cancelled "cancel_settled" now
      return (1, db)
    else .ok (0, db)

def markJobFailedConnSync (errorReason : String) (now : Int) : Except CcbdError (Nat × Db) :=
  match db.jobs.get? jobId with
  | none => .ok (0, db)
  | some job =>
    if job.status = .queued ∨ job.status = .dispatched then do
      let db := db.modifyJob jobId (·.setErrorReason (some errorReason))
      let db ← transitJobState db jobId job.status .failed errorReason now
      return (1, db)
    else .ok (0, db)

variable {db jobId}

theorem guarded_ok {found : Option Job} {guard : Job → Prop} {_ : DecidablePred guard}
    {write : Job → Except CcbdError Db}
    (h : (match found with
      | none => .ok (0, db)
      | some job => if guard job then (do let db ← write job; return (1, db)) else .ok (0, db)) =
      Except.ok (n, db')) :
    (n = 0 ∧ db' = db ∧ ∀ job, found = some job → ¬guard job) ∨
      n = 1 ∧ ∃ job, found = some job ∧ guard job ∧ write job = .ok db' := by
  split at h
  · cases h
    exact .inl ⟨rfl, rfl, by simp⟩
  · rename_i job
    split_ifs at h with holds
    · obtain ⟨db₁, written, h⟩ := bind_eq_ok.mp h
      cases h
      exact .inr ⟨rfl, job, rfl, holds, written⟩
    · cases h
      exact .inl ⟨rfl, rfl, by simpa using holds⟩

theorem settleDispatchedJob_ok
    (h : settleDispatchedJob db jobId reply toStatus reason now = .ok (n, db')) :
    (db' = db ∧ ∀ job, db.jobs.get? jobId = some job → job.status ≠ .dispatched) ∨
      ∃ t, db' = ((db.modifyJob jobId (·.setReplyText reply)).modifyJob jobId
        (·.enter toStatus now)).appendJobTransition t := by
  obtain ⟨-, rfl, other⟩ | ⟨-, job, -, -, moved⟩ := guarded_ok h
  · exact .inl ⟨rfl, other⟩
  · obtain ⟨job', t, -, rfl⟩ := transitJobState_ok moved
    exact .inr ⟨t, rfl⟩

theorem settleDispatchedJob_dispatched (hjob : db.jobs.get? jobId = some job)
    (hd : job.status = .dispatched)
    (hedge : JobStatus.dispatched.edge toStatus = true) (reply reason : String) (now : Int) :
    ∃ t, settleDispatchedJob db jobId reply toStatus reason now =
      .ok (1, ((db.modifyJob jobId (·.setReplyText reply)).modifyJob jobId
        (·.enter toStatus now)).appendJobTransition t) := by
  have hjob' := Db.get?_modifyJob hjob (·.setReplyText reply)
  obtain ⟨t, ht⟩ := transitJobState_succeeds hjob' hd hedge (.inr (by simp)) reason now
  refine ⟨t, ?_⟩
  simp only [settleDispatchedJob, hjob, hd, ht]
  rfl

theorem markQueuedJobCancelledSync_ok (h : markQueuedJobCancelledSync db jobId now = .ok (n, db')) :
    db' = db ∨ n = 1 ∧
      ∃ t, db' = (db.modifyJob jobId (·.enter .cancelled now)).appendJobTransition t := by
  obtain ⟨-, rfl, -⟩ | ⟨rfl, job, -, -, moved⟩ := guarded_ok h
  · exact .inl rfl
  · obtain ⟨job', t, -, rfl⟩ := transitJobState_ok moved
    exact .inr ⟨rfl, t, rfl⟩

theorem requestDispatchedJobCancelSync_ok
    (h : requestDispatchedJobCancelSync db jobId now = .ok (n, db')) :
    db' = db ∨ ∃ t, db' = (db.modifyJob jobId Job.requestCancel).appendJobTransition t := by
  obtain ⟨-, rfl, -⟩ | ⟨-, job, -, -, recorded⟩ := guarded_ok h
  · exact .inl rfl
  · exact .inr (recordJobTransition_ok recorded)

theorem markDispatchedJobCancelledIfAgentIdleSync_ok
    (h : markDispatchedJobCancelledIfAgentIdleSync db jobId now = .ok (n, db')) :
    db' = db ∨ n = 1 ∧
      ∃ t, db' = (db.modifyJob jobId (·.enter .cancelled now)).appendJobTransition t := by
  obtain ⟨-, rfl, -⟩ | ⟨rfl, job, -, -, moved⟩ := guarded_ok h
  · exact .inl rfl
  · obtain ⟨job', t, -, rfl⟩ := transitJobState_ok moved
    exact .inr ⟨rfl, t, rfl⟩

theorem markJobFailedConnSync_ok
    (h : markJobFailedConnSync db jobId errorReason now = .ok (n, db')) :
    db' = db ∨ n = 1 ∧
      ∃ t, db' = ((db.modifyJob jobId (·.setErrorReason (some errorReason))).modifyJob jobId
        (·.enter .failed now)).appendJobTransition t := by
  obtain ⟨-, rfl, -⟩ | ⟨rfl, job, -, -, moved⟩ := guarded_ok h
  · exact .inl rfl
  · obtain ⟨job', t, -, rfl⟩ := transitJobState_ok moved
    exact .inr ⟨rfl, t, rfl⟩

/-! ## Requeueing -/

def recoveryRequeuedErrorReason (attempt : Nat) : String := s!"RECOVERY_REQUEUED:{attempt}"

/-- The error reason starts with the recovery marker. -/
def isRecoveryRequeued (errorReason : String) : Bool :=
  "RECOVERY_REQUEUED:".toList.isPrefixOf errorReason.toList

/-- The restored agent row of a requeue: IDLE if it was in one of the given states. -/
def restoreIdle (states : List AgentState) (now : Int) (agent : Agent) : Agent :=
  if states.contains agent.state then agent.enter .idle now else agent

def requeueRecoveredDispatchIoFailureSync (db : Db) (jobId agentId : String) (nextAttempt : Nat)
    (reason : String) (now : Int) : Except CcbdError (Nat × Db) :=
  match db.jobs.get? jobId with
  | none => .ok (0, db)
  | some job =>
    if job.status = .dispatched ∧ job.agentId = agentId ∧
        job.errorReason.any isRecoveryRequeued = true then do
      let db ← requeueJobStateConnSync db jobId .dispatched
        (some (recoveryRequeuedErrorReason nextAttempt)) reason now
      let db := db.modifyAgent agentId (restoreIdle [.waitingForAck, .stuck] now)
      let db := db.appendEvent agentId "dispatch_requeued" (.obj
        [("attempt", .num nextAttempt), ("job_id", .str jobId), ("reason", .str reason),
          ("source", .str "recovered_stale_pane")]) now
      return (1, db)
    else .ok (0, db)

def requeueDispatchedJobBeforeSendSync (db : Db) (jobId agentId reason : String) (now : Int) :
    Except CcbdError (Nat × Db) :=
  match db.jobs.get? jobId with
  | none => .ok (0, db)
  | some job =>
    if job.status = .dispatched ∧ job.agentId = agentId then do
      let db ← requeueJobStateConnSync db jobId .dispatched none reason now
      let db := db.modifyAgent agentId (restoreIdle [.waitingForAck] now)
      let db := db.appendEvent agentId "dispatch_requeued" (.obj
        [("job_id", .str jobId), ("reason", .str reason),
          ("source", .str "pre_send_readiness_recheck")]) now
      return (1, db)
    else .ok (0, db)

/-- SQL `LIKE` for a pattern without `%` against the head of a text: `_` is any
character and ASCII letters match in either case. -/
def likeHead : List Char → List Char → Bool
  | [], _ => true
  | _ :: _, [] => false
  | p :: ps, c :: cs => (p = '_' || p.toLower = c.toLower) && likeHead ps cs

def clearRecoveredDispatchMarkerSync (db : Db) (jobId : String) : Except CcbdError (Nat × Db) :=
  let marked (job : Job) : Bool :=
    (job.status = .dispatched || job.status = .completed) &&
      job.errorReason.any fun r => likeHead "RECOVERY_REQUEUED:".toList r.toList
  .ok (if (db.jobs.get? jobId).any marked then 1 else 0,
    db.modifyJob jobId fun job => if marked job then job.setErrorReason none else job)

/-- The dispatched job of the agent is queued again, and the agent idle if it is in one of the
states. -/
def Db.Requeues (db : Db) (jobId agentId : String) (states : List AgentState) (now : Int)
    (db' : Db) : Prop :=
  ∃ job e t p, db.jobs.get? jobId = some job ∧ job.status = .dispatched ∧ job.agentId = agentId ∧
    db' = ((((db.modifyJob jobId (·.setErrorReason e)).modifyJob jobId
      (·.enter .queued now)).appendJobTransition t).modifyAgent agentId
      (restoreIdle states now)).appendEvent agentId "dispatch_requeued" p now

theorem requeueRecoveredDispatchIoFailureSync_ok
    (h : requeueRecoveredDispatchIoFailureSync db jobId agentId nextAttempt reason now =
      .ok (n, db')) : db' = db ∨ db.Requeues jobId agentId [.waitingForAck, .stuck] now db' := by
  unfold requeueRecoveredDispatchIoFailureSync at h
  split at h
  · left; cases h; rfl
  · rename_i job hjob
    split_ifs at h with hd
    · obtain ⟨db₁, h₁, h₂⟩ := bind_eq_ok.mp h
      obtain ⟨t, rfl⟩ := requeueJobStateConnSync_ok h₁
      cases h₂
      exact .inr ⟨job, _, t, _, hjob, hd.1, hd.2.1, rfl⟩
    · left; cases h; rfl

theorem requeueDispatchedJobBeforeSendSync_ok
    (h : requeueDispatchedJobBeforeSendSync db jobId agentId reason now = .ok (n, db')) :
    n = 0 ∧ db' = db ∨ db.Requeues jobId agentId [.waitingForAck] now db' := by
  unfold requeueDispatchedJobBeforeSendSync at h
  split at h
  · left; cases h; exact ⟨rfl, rfl⟩
  · rename_i job hjob
    split_ifs at h with hd
    · obtain ⟨db₁, h₁, h₂⟩ := bind_eq_ok.mp h
      obtain ⟨t, rfl⟩ := requeueJobStateConnSync_ok h₁
      cases h₂
      exact .inr ⟨job, _, t, _, hjob, hd.1, hd.2, rfl⟩
    · left; cases h; exact ⟨rfl, rfl⟩

/-! ## Failing every dispatched job of an agent -/

/-- The row of a job that fails with its agent. -/
def Job.failWith (job : Job) (reason : String) (now : Int) : Job :=
  (job.setErrorReason (some reason)).enter .failed now

@[simp] theorem Job.failWith_status (job : Job) (reason : String) (now : Int) :
    (job.failWith reason now).status = .failed := rfl

/-- One job of the loop: it fails if it is still DISPATCHED. -/
def failDispatchedJob (db : Db) (jobId reason : String) (now : Int) : Except CcbdError (Nat × Db) :=
  match db.jobs.get? jobId with
  | none => .ok (0, db)
  | some job =>
    if job.status = .dispatched then do
      let db := db.modifyJob jobId (·.setErrorReason (some reason))
      let db ← transitJobState db jobId .dispatched .failed reason now
      return (1, db)
    else .ok (0, db)

/-- The loop over the jobs read before it. -/
def failDispatchedJobs (reason : String) (now : Int) :
    List String → Db → Except CcbdError (Nat × Db)
  | [], db => .ok (0, db)
  | jobId :: rest, db => do
    let (changed, db) ← failDispatchedJob db jobId reason now
    let (changes, db) ← failDispatchedJobs reason now rest db
    return (changed + changes, db)

def markDispatchedJobsFailedForAgentConnCollectSync (db : Db) (agentId reason : String)
    (now : Int) : Except CcbdError ((Nat × List String) × Db) := do
  let affected := queryDispatchedJobIdsForAgentSync db agentId
  let (changes, db) ← failDispatchedJobs reason now affected db
  return ((changes, affected.take changes), db)

theorem failDispatchedJob_ok (h : failDispatchedJob db jobId reason now = .ok (n, db')) :
    ∃ jobs trs, db' = { db with jobs := jobs, jobTransitions := trs } ∧
      ∀ j, jobs.get? j = (db.jobs.get? j).map fun job =>
        if j = jobId ∧ job.status = .dispatched then job.failWith reason now else job := by
  obtain ⟨-, rfl, other⟩ | ⟨-, job, found, dispatched, moved⟩ := guarded_ok h
  · refine ⟨_, _, rfl, fun j => ?_⟩
    by_cases e : j = jobId
    · cases found : db'.jobs.get? jobId with
      | none => simp [e, found]
      | some job => simp [e, found, other job found]
    · simp [e]
  · obtain ⟨-, t, -, rfl⟩ := transitJobState_ok moved
    refine ⟨_, _, rfl, fun j => ?_⟩
    by_cases e : j = jobId <;> simp [Table.get?_modify, e, found, dispatched, Job.failWith]

theorem failDispatchedJob_succeeds (db : Db) (jobId reason : String) (now : Int) :
    ∃ r, failDispatchedJob db jobId reason now = .ok r := by
  unfold failDispatchedJob
  split
  · exact ⟨_, rfl⟩
  · rename_i job hjob
    split_ifs with hd
    · obtain ⟨db₁, h₁⟩ := transitJobState_modifyJob_succeeds (f := (·.setErrorReason (some reason)))
        hjob hd (by decide : JobStatus.dispatched.edge .failed = true) (.inr (by decide)) reason now
      exact ⟨_, bind_eq_ok.mpr ⟨db₁, h₁, rfl⟩⟩
    · exact ⟨_, rfl⟩

theorem failDispatchedJobs_succeeds (reason : String) (now : Int) (jobIds : List String) (db : Db) :
    ∃ r, failDispatchedJobs reason now jobIds db = .ok r := by
  induction jobIds generalizing db with
  | nil => exact ⟨_, rfl⟩
  | cons jobId rest ih =>
    obtain ⟨r₁, h₁⟩ := failDispatchedJob_succeeds db jobId reason now
    obtain ⟨r₂, h₂⟩ := ih r₁.2
    exact ⟨_, bind_eq_ok.mpr ⟨r₁, h₁, bind_eq_ok.mpr ⟨r₂, h₂, rfl⟩⟩⟩

theorem markDispatchedJobsFailedForAgentConnCollectSync_succeeds (db : Db)
    (agentId reason : String) (now : Int) :
    ∃ r, markDispatchedJobsFailedForAgentConnCollectSync db agentId reason now = .ok r := by
  obtain ⟨r, h⟩ := failDispatchedJobs_succeeds reason now
    (queryDispatchedJobIdsForAgentSync db agentId) db
  exact ⟨_, bind_eq_ok.mpr ⟨r, h, rfl⟩⟩

theorem failDispatchedJobs_ok (h : failDispatchedJobs reason now jobIds db = .ok (n, db')) :
    ∃ jobs trs, db' = { db with jobs := jobs, jobTransitions := trs } ∧
      ∀ j, jobs.get? j = (db.jobs.get? j).map fun job =>
        if j ∈ jobIds ∧ job.status = .dispatched then job.failWith reason now else job := by
  induction jobIds generalizing db n with
  | nil =>
    cases h
    exact ⟨_, _, rfl, by simp⟩
  | cons jobId rest ih =>
    obtain ⟨m₁, db₁, m₂, h₁, h₂⟩ := count_eq_ok h
    obtain ⟨jobs₁, trs₁, rfl, hget₁⟩ := failDispatchedJob_ok h₁
    obtain ⟨jobs, trs, rfl, hget⟩ := ih h₂
    refine ⟨jobs, trs, rfl, fun j => ?_⟩
    rw [hget, hget₁]
    cases db.jobs.get? j with
    | none => rfl
    | some job =>
      -- a job that failed in this iteration is no longer DISPATCHED in the next ones
      by_cases e : j = jobId <;> by_cases hd : job.status = .dispatched <;> simp [e, hd]

theorem markDispatchedJobsFailedForAgentConnCollectSync_ok
    (h : markDispatchedJobsFailedForAgentConnCollectSync db agentId reason now = .ok (r, db')) :
    ∃ jobs trs, db' = { db with jobs := jobs, jobTransitions := trs } ∧
      ∀ j, jobs.get? j = (db.jobs.get? j).map fun job =>
        if job.agentId = agentId ∧ job.status = .dispatched then job.failWith reason now
        else job := by
  obtain ⟨⟨m, db₁⟩, h₁, h₂⟩ := bind_eq_ok.mp h
  cases h₂
  obtain ⟨jobs, trs, rfl, hget⟩ := failDispatchedJobs_ok h₁
  refine ⟨jobs, trs, rfl, fun j => ?_⟩
  rw [hget]
  cases hj : db.jobs.get? j with
  | none => rfl
  | some job =>
    have hmem : j ∈ queryDispatchedJobIdsForAgentSync db agentId ↔
        job.agentId = agentId ∧ job.status = .dispatched := by
      simp only [queryDispatchedJobIdsForAgentSync, List.mem_map, Prod.exists, mem_dispatchedJobs,
        exists_and_right, exists_eq_right]
      constructor
      · rintro ⟨job', hj', hp⟩
        rw [hj] at hj'
        cases hj'
        exact hp
      · exact fun hp => ⟨job, hj, hp⟩
    simp [hmem, and_assoc]

end Ccbd
