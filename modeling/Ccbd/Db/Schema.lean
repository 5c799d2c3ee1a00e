import Ccbd.Lib.Result
import Ccbd.Provider.Extensions

/-!
# The database

The tables of the daemon that the modelled operations read or write. A row is
stored under its primary key, so a row type has no `id` field. `created_at` and
`updated_at` columns, and every other time, are the values of `unixepoch()`; the
operations take that value as an argument. The list order of a table is the
order of its `rowid`s.

Foreign keys are enforced where rows are inserted, and `Db.deleteAgent` performs
the referential actions of `DELETE FROM agents`.
-/

namespace Ccbd

open Lib

/-- The values of `agents.state`. -/
inductive AgentState where
  | spawning
  | spawningIntervention
  | idle
  | waitingForAck
  | busy
  | promptPending
  | stuck
  | failed
  | crashed
  | killed
  | unknown
deriving DecidableEq, Repr, Inhabited

def AgentState.asDbStr : AgentState → String
  | spawning => "SPAWNING"
  | spawningIntervention => "SPAWNING_INTERVENTION"
  | idle => "IDLE"
  | waitingForAck => "WAITING_FOR_ACK"
  | busy => "BUSY"
  | promptPending => "PROMPT_PENDING"
  | stuck => "STUCK"
  | failed => "FAILED"
  | crashed => "CRASHED"
  | killed => "KILLED"
  | unknown => "UNKNOWN"

/-- The values of `jobs.status`. -/
inductive JobStatus where
  | queued
  | dispatched
  | completed
  | cancelled
  | failed
deriving DecidableEq, Repr, Inhabited

def JobStatus.asDbStr : JobStatus → String
  | queued => "QUEUED"
  | dispatched => "DISPATCHED"
  | completed => "COMPLETED"
  | cancelled => "CANCELLED"
  | failed => "FAILED"

/-- The name of the variant, as the source prints a status in its errors. -/
def JobStatus.debug : JobStatus → String
  | queued => "Queued"
  | dispatched => "Dispatched"
  | completed => "Completed"
  | cancelled => "Cancelled"
  | failed => "Failed"

/-- The errors the modelled operations return. -/
inductive CcbdError where
  | dbConstraintViolation (details : String)
  | dbEvidenceNotFound (details : String)
  | agentNotFound (agentId : String)
  | agentAlreadyExists (agentId : String)
  | agentWrongState (currentState : String)
  | duplicateRequest (existingSeqId : Nat)
  | ipcInvalidRequest (details : String)
  | ptyIoError (details : String)
  | agentUnexpectedExit (details : String)
  | environmentNotSupported (details : String)
  | tmuxCommandFailed (cmd stderr : String) (exit : Int)
deriving DecidableEq, Repr

structure Session where
  projectId : String
  absolutePath : String
  status : String
  configHash : Option String
deriving DecidableEq, Repr

structure Agent where
  sessionId : String
  provider : String
  state : AgentState
  stateVersion : Int := 1
  pid : Option Int := none
  exitCode : Option Int := none
  errorCode : Option String := none
  subState : Option String := none
  configHash : Option String := none
  retryCount : Nat := 0
  nextRetryAt : Option Int := none
  retryExhausted : Bool := false
  createdAt : Int
  updatedAt : Int
deriving DecidableEq, Repr

/-- `spec_json` as the value it denotes; the agent id in it is the key of the row. -/
structure AgentSpawnSpecRow where
  specVersion : Nat := 1
  provider : String
  configHash : String
  spec : AgentDeclaration
  updatedAt : Int

/-- The values of `agent_recovery_intents.action`. -/
inductive RecoveryIntentAction where
  | revive
  | reviveIdle
  | reapOnly
deriving DecidableEq, Repr

structure AgentRecoveryIntentRow where
  sessionId : String
  provider : String
  previousState : AgentState
  crashedStateVersion : Int
  interruptedJobId : Option String
  interruptedJobStatus : Option JobStatus
  interruptedJobRequestId : Option String
  interruptedJobPromptText : Option String
  interruptedJobCancelRequested : Option Bool
  interruptedJobRequiresPhysicalEvidence : Option Bool
  interruptedJobRequiresTestEvidence : Option Bool
  action : RecoveryIntentAction
  reason : String
  consumedAt : Option Int
  createdAt : Int
  updatedAt : Int
deriving DecidableEq, Repr

structure Event where
  agentId : String
  requestId : Option String := none
  eventType : String
  payload : Json
  createdAt : Int
deriving Repr

structure Evidence where
  agentId : String
  eventSeqId : Nat
  status : String := "PENDING"
  l3AssertedState : Option String := none
  jobId : Option String := none
  evidenceType : Option String := none
  createdAt : Int
deriving DecidableEq, Repr

structure Job where
  agentId : String
  requestId : Option String
  promptText : String
  replyText : Option String := none
  status : JobStatus := .queued
  errorReason : Option String := none
  createdAt : Int
  dispatchedAt : Option Int := none
  dispatchedAtSeqId : Option Nat := none
  completedAt : Option Int := none
  cancelRequested : Bool := false
  requiresPhysicalEvidence : Bool := false
  requiresTestEvidence : Bool := false
deriving DecidableEq, Repr

structure JobTransition where
  jobId : String
  agentId : String
  requestId : Option String
  kind : String
  oldStatus : Option JobStatus
  newStatus : Option JobStatus
  changedJson : List String
  reason : String
  jobCreatedAt : Int
  dispatchedAt : Option Int
  completedAt : Option Int
  cancelRequested : Bool
  errorReason : Option String
  createdAt : Int
deriving DecidableEq, Repr

structure LearnedRule where
  provider : String
  sourceEventSeqId : Option Nat
deriving DecidableEq, Repr

/-- The state of the database between two transactions. -/
structure Db where
  sessions : Table String Session
  agents : Table String Agent
  agentSpawnSpecs : Table String AgentSpawnSpecRow
  agentRecoveryIntents : Table String AgentRecoveryIntentRow
  events : AutoTable Event
  evidence : Table String Evidence
  jobs : Table String Job
  jobTransitions : AutoTable JobTransition
  learnedRules : Table String LearnedRule

/-- The database after a transaction was attempted: what it commits, or, after an
error, what it was before. -/
def commit {α : Type} (r : Except CcbdError (α × Db)) (db : Db) : Db :=
  match r with
  | .ok (_, db') => db'
  | .error _ => db

theorem commit_induction {α : Type} {r : Except CcbdError (α × Db)} {db : Db} {P : Db → Prop}
    (rollback : P db) (success : ∀ a db', r = .ok (a, db') → P db') : P (commit r db) := by
  match r with
  | .ok (a, db') => exact success a db' rfl
  | .error _ => exact rollback

namespace Db

def empty : Db where
  sessions := .empty
  agents := .empty
  agentSpawnSpecs := .empty
  agentRecoveryIntents := .empty
  events := .empty
  evidence := .empty
  jobs := .empty
  jobTransitions := .empty
  learnedRules := .empty

/-- One active session and nothing else. -/
def oneSession : Db :=
  { empty with
    sessions := Table.empty.insert "s1"
      { projectId := "p1", absolutePath := "/p1", status := "ACTIVE", configHash := none } }

/-! ## Row updates -/

variable (db : Db) (agentId : String)

def modifyAgent (f : Agent → Agent) : Db :=
  { db with agents := db.agents.modify agentId f }

def modifyJob (jobId : String) (f : Job → Job) : Db :=
  { db with jobs := db.jobs.modify jobId f }

/-- `INSERT INTO events` for an agent that exists. -/
def appendEvent (eventType : String) (payload : Json) (now : Int) : Db :=
  { db with
    events := db.events.append
      { agentId := agentId, eventType := eventType, payload := payload, createdAt := now } }

def appendJobTransition (t : JobTransition) : Db :=
  { db with jobTransitions := db.jobTransitions.append t }

def insertEvidence (evidenceId : String) (e : Evidence) : Db :=
  { db with evidence := db.evidence.insert evidenceId e }

def sealPendingEvidence : Db :=
  { db with
    evidence := db.evidence.updateWhere (fun _ e => e.agentId = agentId && e.status = "PENDING")
      ({ · with status := "SEALED" }) }

def reviewEvidence (evidenceId assertedState : String) : Db :=
  { db with
    evidence := db.evidence.modify evidenceId
      ({ · with status := "REVIEWED", l3AssertedState := some assertedState }) }

/-- The sequence id of the row last inserted into `events`. -/
def lastEventSeq : Nat := db.events.last

variable {db agentId}

section Fields

variable (db : Db) (a j ty : String) (f : Agent → Agent) (g : Job → Job) (p : Json) (now : Int)
  (t : JobTransition)

@[simp] theorem modifyAgent_agents : (db.modifyAgent a f).agents = db.agents.modify a f := rfl
@[simp] theorem modifyAgent_jobs : (db.modifyAgent a f).jobs = db.jobs := rfl
@[simp] theorem modifyAgent_events : (db.modifyAgent a f).events = db.events := rfl
@[simp] theorem modifyAgent_evidence : (db.modifyAgent a f).evidence = db.evidence := rfl
@[simp] theorem modifyJob_agents : (db.modifyJob j g).agents = db.agents := rfl
@[simp] theorem modifyJob_jobs : (db.modifyJob j g).jobs = db.jobs.modify j g := rfl
@[simp] theorem modifyJob_events : (db.modifyJob j g).events = db.events := rfl
@[simp] theorem modifyJob_evidence : (db.modifyJob j g).evidence = db.evidence := rfl
@[simp] theorem appendEvent_agents : (db.appendEvent a ty p now).agents = db.agents := rfl
@[simp] theorem appendEvent_jobs : (db.appendEvent a ty p now).jobs = db.jobs := rfl
@[simp] theorem appendEvent_evidence : (db.appendEvent a ty p now).evidence = db.evidence := rfl
@[simp] theorem appendJobTransition_agents : (db.appendJobTransition t).agents = db.agents := rfl
@[simp] theorem appendJobTransition_jobs : (db.appendJobTransition t).jobs = db.jobs := rfl
@[simp] theorem appendJobTransition_events : (db.appendJobTransition t).events = db.events := rfl
@[simp] theorem appendJobTransition_evidence :
    (db.appendJobTransition t).evidence = db.evidence := rfl

theorem get?_modifyJob {db : Db} {j : String} (found : db.jobs.get? j = some job) (f : Job → Job) :
    (db.modifyJob j f).jobs.get? j = some (f job) := by simp [found]

end Fields

/-! ## Deletion of an agent -/

variable (db : Db) (agentId : String)

/-- The row of `events` with key `seq` belongs to agent `agentId`. -/
def ownsEvent (seq : Nat) : Bool :=
  (db.events.rows.lookup seq).any (·.agentId = agentId)

/-- The row of `jobs` with key `jobId` belongs to agent `agentId`. -/
def ownsJob (jobId : String) : Bool :=
  (db.jobs.get? jobId).any (·.agentId = agentId)

/-- The tables after `DELETE FROM agents WHERE id = ?` and its cascades. -/
def cascadeAgent : Db :=
  { db with
    agents := db.agents.delete agentId
    agentSpawnSpecs := db.agentSpawnSpecs.delete agentId
    agentRecoveryIntents := db.agentRecoveryIntents.delete agentId
    events := db.events.deleteWhere fun _ e => e.agentId = agentId
    evidence := db.evidence.deleteWhere fun _ e =>
      e.agentId = agentId || e.jobId.any (db.ownsJob agentId)
    jobs := db.jobs.deleteWhere fun _ j => j.agentId = agentId
    jobTransitions := db.jobTransitions.deleteWhere fun _ t =>
      t.agentId = agentId || db.ownsJob agentId t.jobId }

/-- A row that survives the cascades still refers to an event they removed.
`evidence.event_seq_id` and `learned_rules.source_event_seq_id` have no
referential action. -/
def cascadeBlocked : Bool :=
  (db.cascadeAgent agentId).evidence.rows.any (fun r => db.ownsEvent agentId r.2.eventSeqId) ||
    db.learnedRules.rows.any fun r => r.2.sourceEventSeqId.any (db.ownsEvent agentId)

/-- `DELETE FROM agents WHERE id = ?` with `PRAGMA foreign_keys = ON`. -/
def deleteAgent (context : String) : Except CcbdError Db :=
  if (db.agents.get? agentId).isNone then .ok db
  else if db.cascadeBlocked agentId then
    .error (.dbConstraintViolation s!"{context}: FOREIGN KEY constraint failed")
  else .ok (db.cascadeAgent agentId)

variable {db agentId}

theorem get?_cascadeAgent_jobs (db : Db) (agentId jobId : String) :
    (db.cascadeAgent agentId).jobs.get? jobId =
      (db.jobs.get? jobId).filter fun j => !(j.agentId = agentId : Bool) := by
  simp [cascadeAgent]

theorem get?_cascadeAgent_agents (db : Db) (agentId a : String) :
    (db.cascadeAgent agentId).agents.get? a = if a = agentId then none else db.agents.get? a :=
  Table.get?_delete ..

theorem deleteAgent_ok (h : db.deleteAgent agentId context = .ok db') :
    db.agents.get? agentId = none ∧ db' = db ∨ db' = db.cascadeAgent agentId := by
  unfold deleteAgent at h
  split_ifs at h with absent <;> cases h
  · exact .inl ⟨Option.isNone_iff_eq_none.mp absent, rfl⟩
  · exact .inr rfl

end Db

end Ccbd
