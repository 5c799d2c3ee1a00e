import Ccbd.Db.AgentsLifecycle

/-!
# Agent rows and recovery

Insertion and deletion of agent rows, the stored spawn specs, the retry bookkeeping
and the two ways an interrupted job comes back: requeued if it is still there as
FAILED, inserted again from the captured intent otherwise.
-/

namespace Ccbd

open Lib

/-! ## Agent rows -/

variable (db : Db) (agentId : String)

def insertAgentRow (sessionId provider : String) (state : AgentState)
    (pid : Option Int) (now : Int) : Db :=
  { db with
    agents := db.agents.insert agentId
      { sessionId := sessionId, provider := provider, state := state, pid := pid,
        createdAt := now, updatedAt := now } }

/-- `INSERT INTO agents` that recycles a KILLED row of the same id. Outside a
transaction the deletion stays even if the second insert fails, so the database comes
with the result. -/
def insertAgentSync (sessionId provider : String) (state : AgentState)
    (pid : Option Int) (now : Int) : Except CcbdError Unit × Db :=
  if "master:".toList.isPrefixOf agentId.toList then
    (.error (.ipcInvalidRequest
      "agent_id prefix 'master:' is reserved for master hook sentinels"), db)
  else
    let sessionExists := (db.sessions.get? sessionId).isSome
    match db.agents.get? agentId with
    | none =>
      if sessionExists then (.ok (), insertAgentRow db agentId sessionId provider state pid now)
      else (.error (.agentAlreadyExists agentId), db)
    | some existing =>
      if existing.state ≠ .killed then (.error (.agentAlreadyExists agentId), db)
      else match db.deleteAgent agentId "delete killed agent before insert" with
        | .error e => (.error e, db)
        | .ok db =>
          if sessionExists then
            (.ok (), insertAgentRow db agentId sessionId provider state pid now)
          else (.error (.agentAlreadyExists agentId), db)

def deleteAgentSync : Except CcbdError Db :=
  db.deleteAgent agentId "delete agent"

def updateAgentConfigHashSync (configHash : String) (now : Int) : Db :=
  db.modifyAgent agentId ({ · with configHash := some configHash, updatedAt := now })

/-! ## Spawn specs and backoff -/

structure AgentSpawnSpec extends AgentDeclaration where
  agentId : String

structure StoredAgentSpawnSpec where
  spec : AgentSpawnSpec
  configHash : String
  specVersion : Nat
  updatedAt : Int

def queryAgentSpawnSpecSync : Option StoredAgentSpawnSpec :=
  (db.agentSpawnSpecs.get? agentId).map fun row =>
    { spec := { row.spec with agentId := agentId }, configHash := row.configHash,
      specVersion := row.specVersion, updatedAt := row.updatedAt }

def persistAgentSpawnSpecSync (spec : AgentSpawnSpec) (configHash : String) (now : Int) :
    Except CcbdError Db :=
  if (db.agents.get? spec.agentId).isNone then
    .error (.dbConstraintViolation "persist agent spawn spec: FOREIGN KEY constraint failed")
  else
    let version := match db.agentSpawnSpecs.get? spec.agentId with
      | none => 1
      | some row => row.specVersion + 1
    .ok { db with
      agentSpawnSpecs := db.agentSpawnSpecs.upsert spec.agentId
        { specVersion := version, provider := spec.provider, configHash := configHash,
          spec := spec.toAgentDeclaration, updatedAt := now } }

structure RecoveryBackoff where
  retryCount : Nat
  nextRetryAt : Option Int
  retryExhausted : Bool
deriving DecidableEq, Repr

def setRecoveryBackoff (b : RecoveryBackoff) : Db :=
  db.modifyAgent agentId ({ · with
    retryCount := b.retryCount
    nextRetryAt := b.nextRetryAt
    retryExhausted := b.retryExhausted })

def nextRecoveryBackoff (retryCount : Nat) (now : Int) : RecoveryBackoff :=
  let retryCount := min (retryCount + 1) 5
  let delay : Int := if retryCount = 1 then 1 else if retryCount = 2 then 2 else 4
  { retryCount := retryCount
    nextRetryAt := if 5 ≤ retryCount then none else some (now + delay)
    retryExhausted := 5 ≤ retryCount }

def recordRecoveryFailureBackoffSync (now : Int) : Except CcbdError (RecoveryBackoff × Db) :=
  match db.agents.get? agentId with
  | none => .error (.agentNotFound agentId)
  | some agent =>
    let b := nextRecoveryBackoff agent.retryCount now
    .ok (b, (setRecoveryBackoff db agentId b).modifyAgent agentId ({ · with updatedAt := now }))

def clearRecoveryBackoffSync (now : Int) : Db :=
  (setRecoveryBackoff db agentId ⟨0, none, false⟩).modifyAgent agentId ({ · with updatedAt := now })

/-! ## The interrupted job -/

def reinsertCapturedJob (intent : AgentRecoveryIntent) (now : Int) : Except CcbdError (Nat × Db) :=
  match intent.interruptedJob with
  | none => .ok (0, db)
  | some captured => do
    let (insertedId, db) ← insertRecoveredQueuedJobSync db captured.id intent.agentId
      captured.requestId captured.promptText captured.cancelRequested
      captured.requiresPhysicalEvidence captured.requiresTestEvidence
      (recoveryRequeuedErrorReason 0) now
    if insertedId ≠ captured.id then
      .error (.dbConstraintViolation
        s!"captured interrupted job restored as unexpected id: expected {captured.id}, got {insertedId}")
    else return (1, db)

def requeueInterruptedJobFromCapturedIntentSync (intent : AgentRecoveryIntent)
    (now : Int) : Except CcbdError (Nat × Db) :=
  if intent.action ≠ .revive then .ok (0, db)
  else match intent.interruptedJobId with
  | none => .ok (0, db)
  | some jobId =>
    let stillFailed := (db.jobs.get? jobId).any fun job =>
      job.status = .failed && job.agentId = intent.agentId
    if stillFailed then do
      let db ← requeueJobStateConnSync db jobId .failed (some (recoveryRequeuedErrorReason 0))
        "recovery_requeue" now
      return (1, db)
    else reinsertCapturedJob db intent now

def requeueCapturedIntent (now : Int) : Option AgentRecoveryIntent → Except CcbdError (Nat × Db)
  | none => .ok (0, db)
  | some intent => requeueInterruptedJobFromCapturedIntentSync db intent now

/-- One immediate transaction: an error anywhere leaves everything as it was. -/
def replaceKilledAgentAndRequeueJobSync (sessionId : String) (spec : AgentSpawnSpec)
    (configHash : String) (pid : Int) (capturedIntent : Option AgentRecoveryIntent) (now : Int) :
    Except CcbdError (Nat × Db) :=
  if (db.agents.get? spec.agentId).map (·.state) ≠ some .killed then
    .error (.dbConstraintViolation s!"agent {spec.agentId} is not KILLED before atomic replacement")
  else do
    let db ← db.deleteAgent spec.agentId "delete killed agent"
    let inserted := insertAgentSync db spec.agentId sessionId spec.provider .spawning (some pid) now
    let _ ← inserted.1
    let db := updateAgentConfigHashSync inserted.2 spec.agentId configHash now
    let db ← persistAgentSpawnSpecSync db spec configHash now
    let db := clearRecoveryBackoffSync db spec.agentId now
    requeueCapturedIntent db now capturedIntent

variable {db agentId}

/-! ## What they do -/

variable {db db' : Db} {agentId : String}

theorem Db.absent_of_deleteAgent (h : db.deleteAgent agentId context = .ok db') :
    db'.agents.get? agentId = none := by
  obtain ⟨absent, rfl⟩ | rfl := Db.deleteAgent_ok h
  · exact absent
  · rw [Db.get?_cascadeAgent_agents, if_pos rfl]

/-- An agent without a row has one now; the tables that refer to agents are as before. -/
structure NewRow (db : Db) (agentId : String) (P : Agent → Prop) (db' : Db) : Prop where
  absent : db.agents.get? agentId = none
  row : ∃ agent, db'.agents.get? agentId = some agent ∧ P agent
  others : ∀ b, b ≠ agentId → db'.agents.get? b = db.agents.get? b
  events : db'.events = db.events
  jobs : db'.jobs = db.jobs
  jobTransitions : db'.jobTransitions = db.jobTransitions

theorem newRow_insertAgentRow (absent : db.agents.get? agentId = none)
    (sessionId provider : String) (state : AgentState) (pid : Option Int) (now : Int) :
    NewRow db agentId
      (fun agent => agent.state = state ∧ agent.sessionId = sessionId ∧ agent.stateVersion = 1)
      (insertAgentRow db agentId sessionId provider state pid now) where
  absent := absent
  row := ⟨_, (Table.get?_insert absent _ agentId).trans (if_pos rfl), rfl, rfl, rfl⟩
  others b hb := (Table.get?_insert absent _ b).trans (if_neg hb)
  events := rfl
  jobs := rfl
  jobTransitions := rfl

theorem NewRow.modifyAgent {P Q : Agent → Prop} (h : NewRow db agentId P db')
    (keeps : ∀ agent, P agent → Q (f agent)) : NewRow db agentId Q (db'.modifyAgent agentId f) where
  absent := h.absent
  row := by
    obtain ⟨agent, found, good⟩ := h.row
    exact ⟨f agent, by simp [found], keeps agent good⟩
  others b hb := (Table.get?_modify_of_ne _ _ hb).trans (h.others b hb)
  events := h.events
  jobs := h.jobs
  jobTransitions := h.jobTransitions

/-- The insert leaves everything alone, or it frees the id and may then write the row. -/
theorem insertAgentSync_rows (db : Db) (agentId sessionId provider : String) (state : AgentState)
    (pid : Option Int) (now : Int) :
    (∃ e, insertAgentSync db agentId sessionId provider state pid now = (.error e, db)) ∨
      ∃ db₁, db.deleteAgent agentId "delete killed agent before insert" = .ok db₁ ∧
        ((∃ e, insertAgentSync db agentId sessionId provider state pid now = (.error e, db₁)) ∨
          insertAgentSync db agentId sessionId provider state pid now =
            (.ok (), insertAgentRow db₁ agentId sessionId provider state pid now)) := by
  unfold insertAgentSync
  split
  · exact .inl ⟨_, rfl⟩
  dsimp only
  split
  · rename_i absent
    split
    · have freed : db.deleteAgent agentId "delete killed agent before insert" = .ok db := by
        simp [Db.deleteAgent, absent]
      exact .inr ⟨db, freed, .inr rfl⟩
    · exact .inl ⟨_, rfl⟩
  · split
    · exact .inl ⟨_, rfl⟩
    split
    · exact .inl ⟨_, rfl⟩
    · rename_i db₁ deleted
      refine .inr ⟨db₁, deleted, ?_⟩
      split
      · exact .inr rfl
      · exact .inl ⟨_, rfl⟩

theorem insertAgentSync_of_absent (absent : db.agents.get? agentId = none)
    (sessionId provider : String) (state : AgentState) (pid : Option Int) (now : Int) :
    (∃ e, insertAgentSync db agentId sessionId provider state pid now = (.error e, db)) ∨
      insertAgentSync db agentId sessionId provider state pid now =
        (.ok (), insertAgentRow db agentId sessionId provider state pid now) := by
  rcases insertAgentSync_rows db agentId sessionId provider state pid now with
    failed | ⟨db₁, deleted, done⟩
  · exact .inl failed
  · obtain rfl : db = db₁ := by simpa [Db.deleteAgent, absent] using deleted
    exact done

theorem insertAgentSync_cases (db : Db) (agentId sessionId provider : String) (state : AgentState)
    (pid : Option Int) (now : Int) :
    (insertAgentSync db agentId sessionId provider state pid now).2 = db ∨
      ∃ db₁, db.deleteAgent agentId "delete killed agent before insert" = .ok db₁ ∧
        ((insertAgentSync db agentId sessionId provider state pid now).2 = db₁ ∨ NewRow db₁ agentId
            (fun agent => agent.state = state ∧ agent.sessionId = sessionId ∧ agent.stateVersion = 1)
            (insertAgentSync db agentId sessionId provider state pid now).2) := by
  rcases insertAgentSync_rows db agentId sessionId provider state pid now with
    ⟨e, same⟩ | ⟨db₁, deleted, ⟨e, same⟩ | written⟩
  · exact .inl (by rw [same])
  · exact .inr ⟨db₁, deleted, .inl (by rw [same])⟩
  · refine .inr ⟨db₁, deleted, .inr ?_⟩
    rw [written]
    exact newRow_insertAgentRow (Db.absent_of_deleteAgent deleted) ..

theorem insertAgentSync_of_up
    (up : ¬ (db.stateOf agentId = none ∨ db.stateOf agentId = some .killed)) :
    (insertAgentSync db agentId sessionId provider state pid now).2 = db := by
  unfold insertAgentSync Db.stateOf at *
  cases found : db.agents.get? agentId with
  | none => simp [found] at up
  | some agent =>
    have alive : agent.state ≠ .killed := by simpa [found] using up
    simp only [if_pos alive]
    split_ifs <;> rfl

theorem persistAgentSpawnSpecSync_ok
    (h : persistAgentSpawnSpecSync db spec configHash now = .ok db') :
    ∃ version, db' = { db with
      agentSpawnSpecs := db.agentSpawnSpecs.upsert spec.agentId
        { specVersion := version, provider := spec.provider, configHash := configHash,
          spec := spec.toAgentDeclaration, updatedAt := now } } := by
  unfold persistAgentSpawnSpecSync at h
  split_ifs at h
  cases h
  exact ⟨_, rfl⟩

theorem NewRow.persistAgentSpawnSpecSync {hash : String} {P : Agent → Prop}
    (h : NewRow db agentId P db₁)
    (stored : Ccbd.persistAgentSpawnSpecSync db₁ spec hash now = .ok db') :
    NewRow db agentId P db' := by
  obtain ⟨specs, rfl⟩ := persistAgentSpawnSpecSync_ok stored
  exact ⟨h.absent, h.row, h.others, h.events, h.jobs, h.jobTransitions⟩

theorem replaceKilledAgentAndRequeueJobSync_ok {sessionId hash : String}
    {intent : Option AgentRecoveryIntent}
    (h : replaceKilledAgentAndRequeueJobSync db sessionId spec hash pid intent now = .ok (n, db')) :
    ∃ db₁ db₂, (db.agents.get? spec.agentId).map (·.state) = some .killed ∧
      db.deleteAgent spec.agentId "delete killed agent" = .ok db₁ ∧
      NewRow db₁ spec.agentId (fun agent =>
        agent.state = .spawning ∧ agent.sessionId = sessionId ∧ agent.configHash = some hash ∧
          agent.stateVersion = 1) db₂ ∧
      requeueCapturedIntent db₂ now intent = .ok (n, db') := by
  unfold replaceKilledAgentAndRequeueJobSync at h
  split_ifs at h with killed
  obtain ⟨db₁, deleted, h⟩ := bind_eq_ok.mp h
  obtain ⟨_, inserted, h⟩ := bind_eq_ok.mp h
  obtain ⟨db₂, stored, h⟩ := bind_eq_ok.mp h
  have absent := Db.absent_of_deleteAgent deleted
  refine ⟨db₁, _, not_not.mp killed, deleted, ?_, h⟩
  rcases insertAgentSync_of_absent absent sessionId spec.provider .spawning (some pid) now
    with ⟨e, failed⟩ | done
  · rw [failed] at inserted
    cases inserted
  rw [done] at stored
  have written := newRow_insertAgentRow absent sessionId spec.provider .spawning (some pid) now
  have hashed : NewRow db₁ spec.agentId (fun agent =>
      agent.state = .spawning ∧ agent.sessionId = sessionId ∧ agent.configHash = some hash ∧
        agent.stateVersion = 1) (updateAgentConfigHashSync _ spec.agentId hash now) :=
    written.modifyAgent fun _ good => ⟨good.1, good.2.1, rfl, good.2.2⟩
  have specced := hashed.persistAgentSpawnSpecSync stored
  exact (specced.modifyAgent fun _ good => good).modifyAgent fun _ good => good

theorem reinsertCapturedJob_of_free (hcaptured : intent.interruptedJob = some captured)
    (request : captured.requestId.bind (queryJobByRequestIdSync db intent.agentId) = none)
    (fresh : db.jobs.get? captured.id = none) (row : (db.agents.get? intent.agentId).isSome)
    (now : Int) :
    ∃ job t, job.agentId = intent.agentId ∧ job.status = .queued ∧
      job.promptText = captured.promptText ∧ reinsertCapturedJob db intent now =
        .ok (1, { db with jobs := db.jobs.insert captured.id job }.appendJobTransition t) := by
  let job : Job :=
    { agentId := intent.agentId, requestId := captured.requestId
      promptText := captured.promptText, createdAt := now
      errorReason := some (recoveryRequeuedErrorReason 0)
      cancelRequested := captured.cancelRequested
      requiresPhysicalEvidence := captured.requiresPhysicalEvidence
      requiresTestEvidence := captured.requiresTestEvidence }
  have request : job.requestId.bind (queryJobByRequestIdSync db job.agentId) = none := request
  obtain ⟨t, ht⟩ := insertJobRow_succeeds request fresh row
    "insert recovered queued job" "recovery_recovered_create"
    ["status", "created_at", "error_reason"] now
  refine ⟨job, t, rfl, rfl, rfl, ?_⟩
  unfold reinsertCapturedJob
  rw [hcaptured]
  refine bind_eq_ok.mpr ⟨_, ht, ?_⟩
  simp [pure, Except.pure]

theorem reinsertCapturedJob_of_kept (hcaptured : intent.interruptedJob = some captured)
    (request : captured.requestId.bind (queryJobByRequestIdSync db intent.agentId) =
      some (captured.id, job)) (now : Int) : reinsertCapturedJob db intent now = .ok (1, db) := by
  have kept : insertRecoveredQueuedJobSync db captured.id intent.agentId captured.requestId
      captured.promptText captured.cancelRequested captured.requiresPhysicalEvidence
      captured.requiresTestEvidence (recoveryRequeuedErrorReason 0) now = .ok (captured.id, db) := by
    simp [insertRecoveredQueuedJobSync, insertJobRow, request]
  unfold reinsertCapturedJob
  rw [hcaptured]
  refine bind_eq_ok.mpr ⟨_, kept, ?_⟩
  simp [pure, Except.pure]

theorem reinsertCapturedJob_ok (h : reinsertCapturedJob db intent now = .ok (n, db')) :
    db' = db ∨ ∃ captured job t, intent.interruptedJob = some captured ∧
      db.jobs.get? captured.id = none ∧ job.agentId = intent.agentId ∧ job.status = .queued ∧
      job.promptText = captured.promptText ∧
      db' = { db with jobs := db.jobs.insert captured.id job }.appendJobTransition t := by
  unfold reinsertCapturedJob at h
  split at h
  · left; cases h; rfl
  rename_i captured hcap
  obtain ⟨⟨id, db₁⟩, h₁, h₂⟩ := bind_eq_ok.mp h
  dsimp only at h₂
  split at h₂
  · cases h₂
  cases h₂
  rcases insertJobRow_ok h₁ with rfl | ⟨-, hfresh, -, t, rfl⟩
  · exact .inl rfl
  · exact .inr ⟨captured, _, t, hcap, hfresh, rfl, rfl, rfl, rfl⟩

/-- There is nothing to put back, the FAILED job is, or the captured one is inserted. -/
theorem requeueInterruptedJobFromCapturedIntentSync_cases (db : Db) (intent : AgentRecoveryIntent)
    (now : Int) :
    ((intent.action = .revive → intent.interruptedJobId = none) ∧
        requeueInterruptedJobFromCapturedIntentSync db intent now = .ok (0, db)) ∨
      ∃ jobId, intent.action = .revive ∧ intent.interruptedJobId = some jobId ∧
        ((∃ job db', db.jobs.get? jobId = some job ∧ job.status = .failed ∧
            job.agentId = intent.agentId ∧ requeueJobStateConnSync db jobId .failed
              (some (recoveryRequeuedErrorReason 0)) "recovery_requeue" now = .ok db' ∧
            requeueInterruptedJobFromCapturedIntentSync db intent now = .ok (1, db')) ∨
          (∀ job, db.jobs.get? jobId = some job → job.status = .failed →
            job.agentId ≠ intent.agentId) ∧
          requeueInterruptedJobFromCapturedIntentSync db intent now =
            reinsertCapturedJob db intent now) := by
  unfold requeueInterruptedJobFromCapturedIntentSync
  by_cases revive : intent.action = .revive
  swap
  · exact .inl ⟨fun h => absurd h revive, if_pos revive⟩
  rw [if_neg (not_not.mpr revive)]
  cases interrupted : intent.interruptedJobId with
  | none => exact .inl ⟨fun _ => rfl, rfl⟩
  | some jobId =>
    refine .inr ⟨jobId, revive, rfl, ?_⟩
    dsimp only
    split_ifs with still
    · obtain ⟨job, found, failed, own⟩ : ∃ job, db.jobs.get? jobId = some job ∧
          job.status = .failed ∧ job.agentId = intent.agentId := by
        simpa [Option.any_eq_true] using still
      obtain ⟨db', requeues⟩ := requeueJobStateConnSync_succeeds found failed (by decide)
        (some (recoveryRequeuedErrorReason 0)) "recovery_requeue" now
      exact .inl ⟨job, db', found, failed, own, requeues, by rw [requeues]; rfl⟩
    · refine .inr ⟨fun job found failed own => still ?_, rfl⟩
      simp [found, failed, own]

theorem requeueInterruptedJobFromCapturedIntentSync_ok
    (h : requeueInterruptedJobFromCapturedIntentSync db intent now = .ok (n, db')) :
    db' = db ∨
      (∃ jobId e t, db' = ((db.modifyJob jobId (·.setErrorReason e)).modifyJob jobId
        (·.enter .queued now)).appendJobTransition t) ∨
      ∃ id job t, db.jobs.get? id = none ∧ job.status = .queued ∧
        db' = { db with jobs := db.jobs.insert id job }.appendJobTransition t := by
  obtain ⟨-, none⟩ | ⟨jobId, -, -, ⟨_, db₁, -, -, -, requeued, done⟩ | ⟨-, inserts⟩⟩ :=
    requeueInterruptedJobFromCapturedIntentSync_cases db intent now
  · cases none.symm.trans h
    exact .inl rfl
  · cases done.symm.trans h
    obtain ⟨t, rfl⟩ := requeueJobStateConnSync_ok requeued
    exact .inr (.inl ⟨_, _, t, rfl⟩)
  · rw [inserts] at h
    rcases reinsertCapturedJob_ok h with rfl | ⟨captured, job, t, -, fresh, -, queued, -, rfl⟩
    · exact .inl rfl
    · exact .inr (.inr ⟨_, job, t, fresh, queued, rfl⟩)

/-- The requeue fails only where it inserts the captured job again: its request came back under
another id, its id is taken, or its agent is not there. -/
theorem requeueInterruptedJobFromCapturedIntentSync_error
    (h : requeueInterruptedJobFromCapturedIntentSync db intent now = .error e) :
    (∃ expected got : String, e = .dbConstraintViolation
        s!"captured interrupted job restored as unexpected id: expected {expected}, got {got}") ∨
      e = .dbConstraintViolation
        "insert recovered queued job: UNIQUE constraint failed: jobs.id" ∨
      db.agents.get? intent.agentId = none := by
  obtain ⟨-, none⟩ | ⟨jobId, -, -, ⟨_, _, -, -, -, -, done⟩ | ⟨-, inserts⟩⟩ :=
    requeueInterruptedJobFromCapturedIntentSync_cases db intent now
  · cases none.symm.trans h
  · cases done.symm.trans h
  rw [inserts, reinsertCapturedJob] at h
  split at h
  · cases h
  · rename_i captured hcaptured
    cases inserts : insertRecoveredQueuedJobSync db captured.id intent.agentId
        captured.requestId captured.promptText captured.cancelRequested
        captured.requiresPhysicalEvidence captured.requiresTestEvidence
        (recoveryRequeuedErrorReason 0) now with
    | error e' =>
      rw [inserts] at h
      cases h
      rcases insertJobRow_error inserts with refused | absent
      · exact .inr (.inl refused)
      · exact .inr (.inr absent)
    | ok r =>
      rw [inserts, ok_bind] at h
      dsimp only at h
      split_ifs at h
      · cases h
        exact .inl ⟨_, _, rfl⟩
      · cases h

end Ccbd
