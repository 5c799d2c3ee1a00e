import Ccbd.Db.Recovery
import Ccbd.Lib.Procedure

/-!
# Requeues on a bare connection

`Ccbd.Db.JobState` has a requeue as one transaction. Sent on a connection without one it is a
sequence of statements, and what the first of them wrote stays if a later one fails.
`requeueJobStateConn` is that sequence; `EngineAnswers` says which of its statements the engine
refuses. Where it refuses none, the two agree on the result and on the database of a success.
-/

namespace Ccbd

open Lib

/-! ## The statements -/

/-- The statements of a requeue, in the order in which they are sent. -/
inductive JobStatement where
  | precheckQuery
  | errorReasonUpdate
  | gateQuery
  | evidenceQuery
  | statusUpdate
  | auditQuery
  | auditInsert
deriving DecidableEq, Repr

/-- What the engine answers to each statement: an error, or nothing if it goes through. -/
abbrev EngineAnswers := JobStatement → Option CcbdError

/-- Every statement goes through. -/
def EngineAnswers.sound : EngineAnswers := fun _ => none

variable (engine : EngineAnswers) (jobId : String)

def send (statement : JobStatement) : EStateM CcbdError Db Unit :=
  ofResult (match engine statement with
    | none => .ok ()
    | some e => .error e)

def refuseIf (refused : Bool) (details : String) : EStateM CcbdError Db Unit :=
  ofResult (if refused then .error (.dbConstraintViolation details) else .ok ())

/-- `query_job_sync` of a job that has to be there. -/
def queryJobConn (statement : JobStatement) (jobId missing : String) :
    EStateM CcbdError Db Job := do
  send engine statement
  ofStep fun db => ((db.jobs.get? jobId).elim (.error (.dbConstraintViolation missing)) .ok, db)

def recordJobTransitionConn
    (oldStatus newStatus : Option JobStatus) (kind : String) (changedFields : List String)
    (reason : String) (now : Int) : EStateM CcbdError Db Unit := do
  let job ← queryJobConn engine .auditQuery jobId s!"job {jobId} missing after mutation"
  send engine .auditInsert
  modify fun db => db.appendJobTransition
    { jobId := jobId, agentId := job.agentId, requestId := job.requestId, kind := kind,
      oldStatus := oldStatus, newStatus := newStatus, changedJson := changedFields,
      reason := reason, jobCreatedAt := job.createdAt, dispatchedAt := job.dispatchedAt,
      completedAt := job.completedAt, cancelRequested := job.cancelRequested,
      errorReason := job.errorReason, createdAt := now }

def checkExpectedFrom (expectedFrom : JobStatus) (job : Job) : EStateM CcbdError Db Unit :=
  refuseIf (job.status ≠ expectedFrom)
    s!"CAS mismatch for job {jobId}: expected {expectedFrom.debug}, actual {job.status.debug}"

/-- The guard of the edge from FAILED to COMPLETED. -/
def checkLateCompletionConn (job : Job) : EStateM CcbdError Db Unit := do
  send engine .evidenceQuery
  let db ← get
  refuseIf (checkLateCompletionEvidence db job.agentId jobId = false)
    s!"FAILED -> COMPLETED transition refused for job {jobId}: no late evidence"

def transitJobStateConn (expectedFrom toStatus : JobStatus) (reason : String) (now : Int) :
    EStateM CcbdError Db Unit := do
  let job ← queryJobConn engine .gateQuery jobId s!"job {jobId} not found"
  checkExpectedFrom jobId expectedFrom job
  if (expectedFrom, toStatus) = (.failed, .completed) then
    checkLateCompletionConn engine jobId job
  refuseIf (expectedFrom.edge toStatus = false)
    s!"illegal state transition for job {jobId} from {expectedFrom.debug} to {toStatus.debug}"
  send engine .statusUpdate
  modify (·.modifyJob jobId (·.enter toStatus now))
  recordJobTransitionConn engine jobId (some expectedFrom) (some toStatus) "job_transition"
    toStatus.changedFields reason now

def requeueJobStateConn (expectedFrom : JobStatus)
    (errorReason : Option String) (reason : String) (now : Int) : EStateM CcbdError Db Unit := do
  let job ← queryJobConn engine .precheckQuery jobId s!"job {jobId} not found"
  checkExpectedFrom jobId expectedFrom job
  send engine .errorReasonUpdate
  modify (·.modifyJob jobId (·.setErrorReason errorReason))
  transitJobStateConn engine jobId expectedFrom .queued reason now

variable {engine jobId}

/-! ## What each of them does -/

variable {intent : AgentRecoveryIntent} {job : Job} {jobId reason : String}

section Rules

variable {β : Type}

theorem ends_send_bind :
    Ends (send engine statement >>= next) db Q ↔
      match engine statement with
      | none => Ends (next ()) db Q
      | some e => Q (.error e) db := by
  rw [ends_bind, send, ends_ofResult]
  cases engine statement <;> rfl

theorem ends_refuseIf_bind :
    Ends (refuseIf refused details >>= next) db Q ↔
      if refused then Q (.error (.dbConstraintViolation details)) db else Ends (next ()) db Q := by
  cases refused <;> rfl

theorem ends_queryJobConn_bind :
    Ends (queryJobConn engine statement jobId missing >>= next) db Q ↔
      match engine statement, db.jobs.get? jobId with
      | some e, _ => Q (.error e) db
      | none, none => Q (.error (.dbConstraintViolation missing)) db
      | none, some job => Ends (next job) db Q := by
  rw [queryJobConn, ends_bind, ends_send_bind]
  cases engine statement with
  | some e => rfl
  | none =>
    rw [ends_ofStep]
    cases db.jobs.get? jobId <;> rfl

/-- A statement refused after a write: the audit row is the last of them. -/
theorem ends_recordJobTransitionConn
    (found : db.jobs.get? jobId = some job) {Q : Except CcbdError Unit → Db → Prop} :
    Ends (recordJobTransitionConn engine jobId o n kind fields reason now) db Q ↔
      match engine .auditQuery, engine .auditInsert with
      | some e, _ => Q (.error e) db
      | none, some e => Q (.error e) db
      | none, none => ∀ db', recordJobTransition db jobId o n kind fields reason now = .ok db' →
          Q (.ok ()) db' := by
  rw [recordJobTransitionConn, ends_queryJobConn_bind, found]
  cases engine .auditQuery with
  | some e => rfl
  | none =>
    dsimp only
    rw [ends_send_bind]
    cases engine .auditInsert with
    | some e => rfl
    | none => simp [recordJobTransition, found]

theorem ends_transitJobStateConn
    (found : db.jobs.get? jobId = some job) (expected : job.status = source)
    (unguarded : toStatus ≠ .completed) {Q : Except CcbdError Unit → Db → Prop} :
    Ends (transitJobStateConn engine jobId source toStatus reason now) db Q ↔
      match engine .gateQuery with
      | some e => Q (.error e) db
      | none =>
        if source.edge toStatus = false then
          Q (.error (.dbConstraintViolation
            s!"illegal state transition for job {jobId} from {source.debug} to {toStatus.debug}")) db
        else match engine .statusUpdate with
          | some e => Q (.error e) db
          | none => Ends (recordJobTransitionConn engine jobId (some source) (some toStatus)
              "job_transition" toStatus.changedFields reason now)
              (db.modifyJob jobId (·.enter toStatus now)) Q := by
  have edge : (source, toStatus) ≠ (.failed, .completed) := fun e => unguarded (Prod.ext_iff.mp e).2
  rw [transitJobStateConn, ends_queryJobConn_bind, found]
  cases engine .gateQuery with
  | some e => rfl
  | none =>
    dsimp only
    rw [checkExpectedFrom, ends_refuseIf_bind, if_neg (by simp [expected]), if_neg edge]
    rw [ends_refuseIf_bind]
    simp only [decide_eq_true_eq]
    split_ifs
    · rfl
    · rw [ends_send_bind]
      cases engine .statusUpdate with
      | some e => rfl
      | none => exact ends_bind

end Rules

/-! ## A requeue that fails -/

/-- The tables of the jobs are as they were. -/
def Db.SameJobs (db db' : Db) : Prop :=
  db'.jobs = db.jobs ∧ db'.jobTransitions = db.jobTransitions

/-- No statement of the gate is refused. -/
def EngineAnswers.PassesGate (engine : EngineAnswers) : Prop :=
  engine .gateQuery = none ∧ engine .statusUpdate = none ∧ engine .auditQuery = none ∧
    engine .auditInsert = none

/-- The gate is left before it writes the status. -/
def EngineAnswers.StopsBeforeStatus (engine : EngineAnswers) (expectedFrom : JobStatus) : Prop :=
  engine .gateQuery ≠ none ∨ expectedFrom.edge .queued = false ∨ engine .statusUpdate ≠ none

/-- If the requeue gets as far as to write the error reason, then either the gate goes through
or the error reason was there already and nothing else is written. -/
def RequeueWhole (engine : EngineAnswers) (db : Db) (jobId : String) (expectedFrom : JobStatus)
    (errorReason : Option String) : Prop :=
  ∀ job, db.jobs.get? jobId = some job → job.status = expectedFrom →
    engine .precheckQuery = none → engine .errorReasonUpdate = none →
    (expectedFrom.edge .queued = true ∧ engine.PassesGate) ∨
      (job.errorReason = errorReason ∧ engine.StopsBeforeStatus expectedFrom)

theorem Db.sameJobs_setErrorReason {db : Db} (found : db.jobs.get? jobId = some job)
    (errorReason : Option String) :
    db.SameJobs (db.modifyJob jobId (·.setErrorReason errorReason)) ↔
      job.errorReason = errorReason := by
  simp only [SameJobs, modifyJob_jobs, Table.modify_eq_self, found, Option.some.injEq]
  constructor
  · rintro ⟨same, -⟩
    rw [← same job rfl]
    rfl
  · rintro rfl
    exact ⟨fun _ e => e ▸ rfl, rfl⟩

theorem Db.not_sameJobs_enter {db : Db} (found : db.jobs.get? jobId = some job)
    (expected : job.status = source) (moves : source ≠ toStatus)
    (f : Job → Job) (now : Int) :
    ¬ db.SameJobs ((db.modifyJob jobId f).modifyJob jobId (·.enter toStatus now)) := by
  rintro ⟨same, -⟩
  have written : db.jobs.get? jobId = some ((f job).enter toStatus now) := by
    rw [← same]
    simp [found]
  rw [found, Option.some.injEq] at written
  have status := congrArg Job.status written
  rw [Job.enter_status, expected] at status
  exact moves status

theorem requeue_rejected_unchanged_iff (engine : EngineAnswers) (db : Db) (jobId : String)
    (expectedFrom : JobStatus) (errorReason : Option String) (reason : String) (now : Int) :
    Ends (requeueJobStateConn engine jobId expectedFrom errorReason reason now) db
        (fun r db' => ∀ e, r = .error e → db.SameJobs db') ↔
      RequeueWhole engine db jobId expectedFrom errorReason := by
  have unwritten : db.SameJobs db := ⟨rfl, rfl⟩
  unfold RequeueWhole EngineAnswers.PassesGate EngineAnswers.StopsBeforeStatus
  rw [requeueJobStateConn, ends_queryJobConn_bind]
  cases pre : engine .precheckQuery with
  | some e => simp [unwritten]
  | none =>
    cases found : db.jobs.get? jobId with
    | none => simp [unwritten]
    | some job =>
      dsimp only
      rw [checkExpectedFrom, ends_refuseIf_bind]
      by_cases expected : job.status = expectedFrom
      · rw [if_neg (by simp [expected]), ends_send_bind]
        cases engine .errorReasonUpdate with
        | some e => simp [unwritten]
        | none =>
          rw [ends_bind, ends_modify]
          have written := Db.get?_modifyJob found (·.setErrorReason errorReason)
          rw [ends_transitJobStateConn written expected (by decide)]
          have kept := Db.sameJobs_setErrorReason found errorReason
          cases engine .gateQuery with
          | some e => simp [kept, expected]
          | none =>
            cases edge : expectedFrom.edge .queued with
            | false => simp [kept, expected]
            | true =>
              cases engine .statusUpdate with
              | some e => simp [kept, expected]
              | none =>
                have moves : expectedFrom ≠ .queued := by
                  rintro rfl
                  cases edge
                have moved := Db.not_sameJobs_enter found expected moves
                  (·.setErrorReason errorReason) now
                rw [if_neg (by simp),
                  ends_recordJobTransitionConn (Db.get?_modifyJob written (·.enter .queued now))]
                cases engine .auditQuery with
                | some e => simp [moved, expected]
                | none => cases engine .auditInsert <;> simp [moved, expected]
      · simp [unwritten, expected]

/-- The gate refuses to requeue a job that is in the queue, but its error reason is
overwritten by then. -/
theorem not_requeueRejectedUnchanged :
    ¬ ∀ (db : Db) (jobId : String) (expectedFrom : JobStatus) (errorReason : Option String)
      (reason : String) (now : Int),
      Ends (requeueJobStateConn .sound jobId expectedFrom errorReason reason now) db
        fun r db' => ∀ e, r = .error e → db.SameJobs db' := by
  intro claim
  have same := claim
    { Db.empty with
      jobs := Table.empty.insert "j1"
        { agentId := "a1", requestId := none, promptText := "do it", createdAt := 0 } }
    "j1" .queued (some "PANE_GONE") "stale_pane" 1
  exact absurd (same _ rfl).1 (by decide)

/-! ## The interrupted job of an intent -/

def insertJobRowConn (id : String) (job : Job) (context reason : String) (fields : List String)
    (now : Int) : EStateM CcbdError Db String := do
  let db ← get
  match job.requestId.bind (queryJobByRequestIdSync db job.agentId) with
  | some (existing, _) => return existing
  | none =>
    refuseIf (db.jobs.get? id).isSome s!"{context}: UNIQUE constraint failed: jobs.id"
    refuseIf (db.agents.get? job.agentId).isNone s!"{context}: FOREIGN KEY constraint failed"
    modify fun db => { db with jobs := db.jobs.insert id job }
    recordJobTransitionConn .sound id none (some .queued) "job_transition" fields reason now
    return id

def reinsertCapturedJobConn (intent : AgentRecoveryIntent) (now : Int) : EStateM CcbdError Db Nat :=
  match intent.interruptedJob with
  | none => return 0
  | some captured => do
    let insertedId ← insertJobRowConn captured.id
      { agentId := intent.agentId, requestId := captured.requestId,
        promptText := captured.promptText, createdAt := now,
        errorReason := some (recoveryRequeuedErrorReason 0),
        cancelRequested := captured.cancelRequested,
        requiresPhysicalEvidence := captured.requiresPhysicalEvidence,
        requiresTestEvidence := captured.requiresTestEvidence }
      "insert recovered queued job" "recovery_recovered_create"
      ["status", "created_at", "error_reason"] now
    refuseIf (insertedId ≠ captured.id)
      s!"captured interrupted job restored as unexpected id: expected {captured.id}, got {insertedId}"
    return 1

def requeueInterruptedJobFromCapturedIntentConn (intent : AgentRecoveryIntent) (now : Int) :
    EStateM CcbdError Db Nat :=
  if intent.action ≠ .revive then return 0
  else match intent.interruptedJobId with
  | none => return 0
  | some jobId => do
    let db ← get
    let stillFailed := (db.jobs.get? jobId).any fun job =>
      job.status = .failed && job.agentId = intent.agentId
    if stillFailed then
      requeueJobStateConn .sound jobId .failed (some (recoveryRequeuedErrorReason 0))
        "recovery_requeue" now
      return 1
    else reinsertCapturedJobConn intent now

/-- On a legal edge the statements do what the transaction does. -/
theorem ends_requeueJobStateConn_of_edge
    (found : db.jobs.get? jobId = some job) (expected : job.status = source)
    (edge : source.edge .queued = true) {Q : Except CcbdError Unit → Db → Prop} :
    Ends (requeueJobStateConn .sound jobId source errorReason reason now) db Q ↔
      ∀ db', requeueJobStateConnSync db jobId source errorReason reason now = .ok db' →
        Q (.ok ()) db' := by
  rw [requeueJobStateConn, ends_queryJobConn_bind, found]
  dsimp only [EngineAnswers.sound]
  rw [checkExpectedFrom, ends_refuseIf_bind, if_neg (by simp [expected]), ends_send_bind,
    ends_bind, ends_modify]
  have written := Db.get?_modifyJob found (·.setErrorReason errorReason)
  rw [ends_transitJobStateConn written expected (by decide), if_neg (by simp [edge]),
    ends_recordJobTransitionConn (Db.get?_modifyJob written (·.enter .queued now))]
  simp [EngineAnswers.sound, requeueJobStateConnSync, transitJobState, found, expected, edge]

theorem ends_insertJobRowConn {id context : String} {Q : Except CcbdError String → Db → Prop} :
    Ends (insertJobRowConn id job context reason fields now) db Q ↔
      Ends (atomic fun db => insertJobRow db id job context reason fields now) db Q := by
  rw [ends_atomic, insertJobRowConn, ends_bind, ends_get]
  dsimp only
  unfold insertJobRow
  cases job.requestId.bind (queryJobByRequestIdSync db job.agentId) with
  | some existing => exact ends_pure
  | none =>
    rw [ends_refuseIf_bind]
    cases free : db.jobs.get? id with
    | some _ => rfl
    | none =>
      rw [if_neg (by simp), ends_refuseIf_bind]
      cases db.agents.get? job.agentId with
      | none => rfl
      | some agent =>
        have inserted : ({ db with jobs := db.jobs.insert id job } : Db).jobs.get? id = some job :=
          (Table.get?_insert free job id).trans (if_pos rfl)
        rw [if_neg (by simp), ends_bind, ends_modify]
        rw [ends_bind, ends_recordJobTransitionConn inserted]
        simp only [recordJobTransition, inserted, Except.ok.injEq, forall_eq']
        rfl

theorem ends_reinsertCapturedJobConn {Q : Except CcbdError Nat → Db → Prop} :
    Ends (reinsertCapturedJobConn intent now) db Q ↔
      Ends (atomic fun db => reinsertCapturedJob db intent now) db Q := by
  rw [ends_atomic]
  unfold reinsertCapturedJobConn reinsertCapturedJob
  cases intent.interruptedJob with
  | none => exact ends_pure
  | some captured =>
    dsimp only [insertRecoveredQueuedJobSync]
    rw [ends_bind, ends_insertJobRowConn, ends_atomic]
    split
    · rename_i insertedId db' inserts
      rw [inserts]
      by_cases restored : insertedId = captured.id
      · simp only [restored, ok_bind, ne_eq]
        rfl
      · -- an id that is not the job's own comes from a row that was there
        rcases insertJobRow_ok inserts with rfl | ⟨own, -⟩
        · simp only [restored, ends_refuseIf_bind, ok_bind, ne_eq, not_false_eq_true, decide_true,
            ↓reduceIte]
        · exact absurd own restored
    · rename_i e inserts
      rw [inserts]
      rfl

/-- The requeue fails before it writes, so it needs no transaction. -/
theorem ends_requeueInterruptedJobFromCapturedIntentConn {Q : Except CcbdError Nat → Db → Prop} :
    Ends (requeueInterruptedJobFromCapturedIntentConn intent now) db Q ↔
      Ends (atomic fun db => requeueInterruptedJobFromCapturedIntentSync db intent now) db Q := by
  unfold requeueInterruptedJobFromCapturedIntentConn
  rw [ends_atomic]
  unfold requeueInterruptedJobFromCapturedIntentSync
  split_ifs
  · exact ends_pure
  · cases intent.interruptedJobId with
    | none => exact ends_pure
    | some jobId =>
      rw [ends_bind, ends_get]
      dsimp only
      split_ifs with still
      · obtain ⟨job, found, held⟩ := (Option.any_eq_true _ _).mp still
        rw [Bool.and_eq_true, decide_eq_true_eq, decide_eq_true_eq] at held
        obtain ⟨db', requeues⟩ := requeueJobStateConnSync_succeeds found held.1 (by decide)
          (some (recoveryRequeuedErrorReason 0)) "recovery_requeue" now
        rw [ends_bind, ends_requeueJobStateConn_of_edge found held.1 (by decide), requeues]
        simp only [Except.ok.injEq, forall_eq']
        rfl
      · rw [ends_reinsertCapturedJobConn, ends_atomic]

/-! ## What the requeue reports -/

/-- The job that the intent captured is the one it names. -/
def AgentRecoveryIntent.Captured (intent : AgentRecoveryIntent) : Prop :=
  ∀ captured, intent.interruptedJob = some captured → intent.interruptedJobId = some captured.id

/-- Recovery reads only such intents. -/
theorem captured_of_queryAgentRecoveryIntentSync
    (h : queryAgentRecoveryIntentSync db agentId = some intent) : intent.Captured := by
  unfold queryAgentRecoveryIntentSync at h
  split at h
  · cases h
  split_ifs at h
  cases h
  intro captured interrupted
  dsimp only at interrupted ⊢
  split at interrupted
  · rename_i named _
    cases interrupted
    exact named
  · cases interrupted

theorem queryJobByRequestIdSync_some
    (h : queryJobByRequestIdSync db agentId requestId = some (jobId, job)) :
    db.jobs.get? jobId = some job ∧ job.agentId = agentId := by
  have held := Table.mem_select.mp (List.mem_of_mem_head? h)
  rw [Bool.and_eq_true, decide_eq_true_eq] at held
  exact ⟨held.1, held.2.1⟩

/-- The interrupted job is in the queue of the intent's agent. -/
def Db.Requeued (db : Db) (intent : AgentRecoveryIntent) : Prop :=
  ∃ jobId job, intent.interruptedJobId = some jobId ∧ db.jobs.get? jobId = some job ∧
    job.status = .queued ∧ job.agentId = intent.agentId

/-- The answer is 1 and the job is in the queue, or it is 0 or an error and no job changed. -/
def Db.ReportsRequeue (db : Db) (intent : AgentRecoveryIntent) (r : Except CcbdError Nat)
    (db' : Db) : Prop :=
  r = .ok 1 ∧ db'.Requeued intent ∨ (r = .ok 0 ∨ ∃ e, r = .error e) ∧ db'.jobs = db.jobs

/-- The captured request is not held by the job's own row in a status from which nothing
requeues it. -/
def Db.RequestOpen (db : Db) (intent : AgentRecoveryIntent) : Prop :=
  intent.action = .revive → ∀ captured, intent.interruptedJob = some captured → ∀ job,
    captured.requestId.bind (queryJobByRequestIdSync db intent.agentId) = some (captured.id, job) →
    job.status = .queued ∨ job.status = .failed

theorem Db.requeued_of_get? {db : Db} (named : intent.interruptedJobId = some jobId)
    (found : db.jobs.get? jobId = some job) (own : job.agentId = intent.agentId) :
    db.Requeued intent ↔ job.status = .queued := by
  constructor
  · rintro ⟨jobId', job', named', found', queued, -⟩
    rw [named, Option.some.injEq] at named'
    subst named'
    rw [found, Option.some.injEq] at found'
    exact found' ▸ queued
  · intro queued
    exact ⟨jobId, job, named, found, queued, own⟩

theorem Db.reportsRequeue_error (db : Db) (intent : AgentRecoveryIntent) (e : CcbdError) :
    db.ReportsRequeue intent (.error e) db :=
  .inr ⟨.inr ⟨e, rfl⟩, rfl⟩

theorem Db.reportsRequeue_zero (db : Db) (intent : AgentRecoveryIntent) :
    db.ReportsRequeue intent (.ok 0) db :=
  .inr ⟨.inl rfl, rfl⟩

theorem Db.reportsRequeue_one {db db' : Db} :
    db.ReportsRequeue intent (.ok 1) db' ↔ db'.Requeued intent := by
  simp [ReportsRequeue]

/-- Inserting the captured job again reports truthfully unless its own row is there and is not
in the queue. -/
theorem reportsRequeue_reinsertCapturedJob (hcaptured : intent.interruptedJob = some captured)
    (named : intent.interruptedJobId = some captured.id) (now : Int) :
    Ends (atomic fun db => reinsertCapturedJob db intent now) db (db.ReportsRequeue intent) ↔
      ∀ job, captured.requestId.bind (queryJobByRequestIdSync db intent.agentId) =
        some (captured.id, job) → job.status = .queued := by
  rw [ends_atomic]
  cases request : captured.requestId.bind (queryJobByRequestIdSync db intent.agentId) with
  | some existing =>
    obtain ⟨existingId, row⟩ := existing
    by_cases kept : existingId = captured.id
    · subst kept
      obtain ⟨requestId, -, held⟩ := Option.bind_eq_some_iff.mp request
      obtain ⟨found, own⟩ := queryJobByRequestIdSync_some held
      rw [reinsertCapturedJob_of_kept hcaptured request]
      simp [Db.reportsRequeue_one, Db.requeued_of_get? named found own]
    · have refused : ∃ e, reinsertCapturedJob db intent now = .error e := by
        simp [reinsertCapturedJob, hcaptured, insertRecoveredQueuedJobSync, insertJobRow, request,
          ok_bind, kept]
      obtain ⟨e, refused⟩ := refused
      rw [refused]
      simp [Db.reportsRequeue_error, kept]
  | none =>
    suffices reports : Ends (atomic fun db => reinsertCapturedJob db intent now) db
        (db.ReportsRequeue intent) by
      rw [ends_atomic] at reports
      simp [reports]
    rw [ends_atomic]
    by_cases fresh : db.jobs.get? captured.id = none
    · by_cases absent : db.agents.get? intent.agentId = none
      · simp [reinsertCapturedJob, hcaptured, insertRecoveredQueuedJobSync, insertJobRow, request,
          fresh, absent, Except.bind, bind, Db.reportsRequeue_error]
      · obtain ⟨job, t, own, queued, -, done⟩ := reinsertCapturedJob_of_free hcaptured request fresh
          (Option.isSome_iff_ne_none.mpr absent) now
        have found : ({ db with jobs := db.jobs.insert captured.id job }.appendJobTransition
            t).jobs.get? captured.id = some job :=
          (Table.get?_insert fresh job captured.id).trans (if_pos rfl)
        rw [done]
        exact Db.reportsRequeue_one.mpr ((Db.requeued_of_get? named found own).mpr queued)
    · have taken : (db.jobs.get? captured.id).isSome = true := Option.isSome_iff_ne_none.mpr fresh
      simp [reinsertCapturedJob, hcaptured, insertRecoveredQueuedJobSync, insertJobRow, request,
        taken, Except.bind, bind, Db.reportsRequeue_error]

theorem requeueInterrupted_reports_iff (db : Db) (intent : AgentRecoveryIntent)
    (captured : intent.Captured) (now : Int) :
    Ends (requeueInterruptedJobFromCapturedIntentConn intent now) db (db.ReportsRequeue intent) ↔
      db.RequestOpen intent := by
  rw [ends_requeueInterruptedJobFromCapturedIntentConn, ends_atomic]
  obtain ⟨idle, none⟩ | ⟨jobId, revive, interrupted, ⟨job, db', found, failed, own, requeued, done⟩ |
      ⟨unfailed, inserts⟩⟩ := requeueInterruptedJobFromCapturedIntentSync_cases db intent now
  · rw [none]
    refine iff_of_true (Db.reportsRequeue_zero db intent) fun revive captured' hcaptured => ?_
    cases (idle revive).symm.trans (captured captured' hcaptured)
  · have queued : db'.Requeued intent := by
      obtain ⟨t, rfl⟩ := requeueJobStateConnSync_ok requeued
      exact ⟨jobId, (job.setErrorReason (some (recoveryRequeuedErrorReason 0))).enter .queued now,
        interrupted, by simp [found], rfl, own⟩
    rw [done]
    refine iff_of_true (Db.reportsRequeue_one.mpr queued) fun _ captured' hcaptured job' request =>
      .inr ?_
    obtain ⟨requestId, -, held⟩ := Option.bind_eq_some_iff.mp request
    have named := captured captured' hcaptured
    rw [interrupted, Option.some.injEq] at named
    have found' := (queryJobByRequestIdSync_some held).1
    rw [← named, found, Option.some.injEq] at found'
    exact found' ▸ failed
  · rw [inserts, ← ends_atomic (t := fun db => reinsertCapturedJob db intent now)]
    cases hcaptured : intent.interruptedJob with
    | none =>
      simp [ends_atomic, reinsertCapturedJob, hcaptured, Db.reportsRequeue_zero, Db.RequestOpen]
    | some captured' =>
      have named := captured captured' hcaptured
      rw [reportsRequeue_reinsertCapturedJob hcaptured named]
      simp only [Db.RequestOpen, revive, hcaptured, Option.some.injEq, forall_const, forall_eq']
      refine forall_congr' fun job => forall_congr' fun request => ?_
      obtain ⟨requestId, -, held⟩ := Option.bind_eq_some_iff.mp request
      obtain ⟨found, own⟩ := queryJobByRequestIdSync_some held
      rw [interrupted, Option.some.injEq] at named
      subst named
      exact (or_iff_left fun failed => unfailed job found failed own).symm

/-- One job, with a request id, and the intent that captured it. -/
def interruptedDb (status : JobStatus) : Db :=
  { Db.oneSession with
    agents := Table.empty.insert "a1"
      { sessionId := "s1", provider := "codex", state := .idle, createdAt := 0, updatedAt := 0 }
    jobs := Table.empty.insert "j1"
      { agentId := "a1", requestId := some "r1", promptText := "do it", status := status,
        createdAt := 0 } }

def interruptedIntent : AgentRecoveryIntent where
  agentId := "a1"
  sessionId := "s1"
  provider := "codex"
  previousState := .busy
  crashedStateVersion := 1
  interruptedJobId := some "j1"
  interruptedJobStatus := some .dispatched
  interruptedJob := some
    { id := "j1", requestId := some "r1", promptText := "do it", cancelRequested := false,
      requiresPhysicalEvidence := false, requiresTestEvidence := false }
  action := .revive
  reason := "AGENT_UNEXPECTED_EXIT"

theorem interruptedIntent_captured : interruptedIntent.Captured := by
  rintro _ ⟨⟩
  rfl

theorem requeueInterrupted_reports_failedJob :
    Ends (requeueInterruptedJobFromCapturedIntentConn interruptedIntent 1) (interruptedDb .failed)
      ((interruptedDb .failed).ReportsRequeue interruptedIntent) := by
  refine (requeueInterrupted_reports_iff _ _ interruptedIntent_captured 1).mpr ?_
  rintro - _ ⟨⟩ job ⟨⟩
  exact .inr rfl

/-- A job that was completed in the meantime is reported as requeued. -/
theorem not_requeueReports :
    ¬ ∀ (db : Db) (intent : AgentRecoveryIntent), intent.Captured → ∀ now : Int,
      Ends (requeueInterruptedJobFromCapturedIntentConn intent now) db
        (db.ReportsRequeue intent) := by
  intro claim
  have reports := claim (interruptedDb .completed) interruptedIntent interruptedIntent_captured 1
  rcases reports with ⟨-, jobId, job, ⟨⟩, ⟨⟩, queued, -⟩ | ⟨answer | ⟨e, answer⟩, -⟩
  · cases queued
  · cases answer
  · cases answer

end Ccbd
