import Ccbd.Db.SessionEnd
import Ccbd.Lib.Procedure
import Ccbd.Master.EndedMasters

/-!
# The death of a master

`handle_master_death_detected` reaps the workers of the session and, if there was work, spawns
a replacement for the master. It decides whether there is work from the database, before it
reaps the workers. When the spawn fails the session stays active with its dead master, and
the death is detected again.

A call lets go of the database between its transactions. What the rest of the daemon does
then is a parameter of the call, one function for each of these points.
-/

namespace Ccbd.Master

open Lib

/-! ## The parts of a call -/

inductive MasterDeathDecision where
  | revive
  | intentionalExit
  | stale
deriving DecidableEq, Repr

inductive MasterDeathSessionActivity where
  | activeWork
  | idleNoWork
deriving DecidableEq, Repr

structure MasterDeathSessionSnapshot where
  classification : MasterDeathSessionActivity
  workerIdsToReap : List String

def snapshotMasterDeathSessionActivity (db : Db) (sessionId : String) :
    MasterDeathSessionSnapshot where
  classification := if sessionHasActiveWork db sessionId then .activeWork else .idleNoWork
  workerIdsToReap := (db.agents.selectOrderBy (fun _ agent => agent.sessionId = sessionId)
    fun x y => x.2.createdAt < y.2.createdAt ||
      x.2.createdAt = y.2.createdAt && decide (x.1 ≤ y.1)).map Prod.fst

def queryMasterReviveNextRetryAt (t : Masters) (sessionId : String)
    (expectedPid expectedGeneration : Int) : Option Int :=
  ((t.get? sessionId).filter (·.isCurrent expectedPid expectedGeneration)).map (·.masterNextRetryAt)

inductive MasterReviveAttemptDecision where
  | spawn
  | fused
  | stale
deriving DecidableEq, Repr

/-- What the count of an attempt leads to. -/
def attemptDecision (t : Masters) (sessionId : String) (currentPid claimedGeneration : Int) :
    MasterReviveAttemptDecision :=
  match (t.get? sessionId).filter (·.isCurrent currentPid claimedGeneration) with
  | none => .stale
  | some row =>
    if masterReviveFuseThreshold ≤ row.masterRetryCount + 1 then .fused else .spawn

structure SpawnedRevivedMaster where
  newPid : Int
  pane : String

/-- The transactions of a call, which classifies the death once more if it has slept. -/
inductive RevivePoint where
  | classify (woken : Bool)
  | cutover (woken : Bool)
  | snapshot
  | begin
  | worker (agentId : String)
  | phase (newPhase : RecoveryPhase)
  | close
  | retryAt
  | claim
  | attempt
  | fuse
  | complete
  | persistCmd

/-- The arguments of a call, what it gets from its environment, and what others do to the
database before each of its transactions. `followUp` is what comes after the replacement
runs: its watch, the instruction to continue and the wait for its readiness. -/
structure ReviveCall where
  sessionId : String
  expectedPid : Int
  expectedGeneration : Int
  masterCmd : String
  clock : RevivePoint → Int
  deferSecs : Option Int
  spawn : Except CcbdError SpawnedRevivedMaster
  followUp : MasterDb → Except CcbdError Unit × MasterDb
  between : RevivePoint → MasterDb → MasterDb

/-- What a call ends in. -/
inductive ReviveEvent where
  | spawn
  | fuse
  | closeIdle
deriving DecidableEq, Repr

structure DeathWorld where
  m : MasterDb
  log : List ReviveEvent

abbrev Revival (α : Type) := EStateM CcbdError DeathWorld α

def record (event : ReviveEvent) : Revival Unit :=
  modify fun w => { w with log := w.log ++ [event] }

section Call

variable (call : ReviveCall)

def transact {α : Type} (p : RevivePoint) (t : MasterDb → Except CcbdError (α × MasterDb)) :
    Revival α := do
  modify fun w => { w with m := call.between p w.m }
  zoom (·.m) (fun w m => { w with m := m }) (atomic t)

def markMasterRecoveryPhase (newPhase : RecoveryPhase) : Revival Unit :=
  transact call (.phase newPhase) fun m =>
    .ok ((), (updateMasterRecoveryPhaseSync m call.sessionId call.expectedGeneration newPhase
      (call.clock (.phase newPhase)) call.deferSecs).2)

def classifyMasterDeath (woken : Bool) : Revival MasterDeathDecision := do
  match ← transact call (.classify woken) fun m => .ok (m.masters.get? call.sessionId, m) with
  | none => return .stale
  | some row =>
    if row.status ≠ .active then return .intentionalExit
    if ← transact call (.cutover woken) fun m => .ok (masterCutoverInflight m call.sessionId, m) then
      return .intentionalExit
    if row.masterPid = call.expectedPid ∧ row.masterGeneration = call.expectedGeneration then
      return .revive
    return .stale

def takeSnapshot : Revival MasterDeathSessionSnapshot :=
  transact call .snapshot fun m =>
    .ok (snapshotMasterDeathSessionActivity m.db call.sessionId, m)

def beginMasterRecoveryWindowForSnapshot (classification : MasterDeathSessionActivity) :
    Revival MasterRecoveryWindow :=
  transact call .begin fun m =>
    beginMasterRecoveryWindowSync m call.sessionId call.expectedPid call.expectedGeneration
      (classification = .activeWork) (call.clock .begin)
      (resolveMasterRecoveryCascadeDeferSecs call.deferSecs)

def cleanWorker (agentId : String) : Revival Nat :=
  transact call (.worker agentId) fun m =>
    (markAgentKilledForMasterDeathSync m.db agentId "MASTER_EXIT"
      (call.clock (.worker agentId))).map fun r => (r.1, { m with db := r.2 })

def cleanWorkersAfterMasterDeath (workerIds : List String) : Revival (List Nat) :=
  forEach (cleanWorker call) workerIds

def closeIdleMasterDeathWithoutRevive : Revival Unit := do
  record .closeIdle
  transact call .close fun m =>
    .ok ((), { m with
      masters := (markSessionClosedAfterIdleMasterDeath m.masters call.sessionId).2 })
  markMasterRecoveryPhase call .failed

def waitForMasterReviveRetryBackoff : Revival Bool := do
  let nextRetryAt ← transact call .retryAt fun m =>
    .ok (queryMasterReviveNextRetryAt m.masters call.sessionId call.expectedPid
      call.expectedGeneration, m)
  if nextRetryAt.any (call.clock .retryAt < ·) then
    -- The call sleeps here until the retry is due.
    let decision ← classifyMasterDeath call true
    if decision ≠ .revive then
      markMasterRecoveryPhase call .failed
      return false
    return true
  return true

def claimMasterReviveGeneration : Revival (Option Int) := do
  let outcome ← transact call .claim fun m =>
    (tryClaimMasterTransition m.masters call.sessionId call.expectedPid
      call.expectedGeneration).map fun r => (r.1, { m with masters := r.2 })
  if outcome = .claimed then return some (call.expectedGeneration + 1)
  markMasterRecoveryPhase call .failed
  return none

def recordMasterReviveSpawnAttempt (claimedGeneration : Int) : Revival Bool := do
  let decision ← transact call .attempt fun m =>
    .ok (attemptDecision m.masters call.sessionId call.expectedPid claimedGeneration,
      { m with masters := (recordMasterReviveAttempt m.masters call.sessionId call.expectedPid
          claimedGeneration (call.clock .attempt)).2 })
  match decision with
  | .spawn =>
    markMasterRecoveryPhase call .masterSpawning
    return true
  | .fused =>
    record .fuse
    transact call .fuse fun m =>
      .ok ((), { m with
        masters := (fuseSessionAfterMasterReviveExhausted m.masters call.sessionId).2 })
    markMasterRecoveryPhase call .fused
    return false
  | .stale =>
    markMasterRecoveryPhase call .failed
    return false

/-- The replacement runs: it becomes the master of the session, if the claim still holds. -/
def finishRevival (claimedGeneration : Int) (spawned : SpawnedRevivedMaster) : Revival Unit := do
  let outcome ← transact call .complete fun m =>
    let r := completeClaimedMasterTransition m.masters call.sessionId claimedGeneration
      spawned.newPid spawned.pane
    .ok (r.1, { m with masters := r.2 })
  if outcome.isNone then
    markMasterRecoveryPhase call .failed
  else
    markMasterRecoveryPhase call .masterRunning
    transact call .persistCmd fun m =>
      .ok ((), { m with
        masters := (persistRevivedMasterCmd m.masters call.sessionId call.masterCmd).2 })
    zoom (·.m) (fun w m => { w with m := m }) (ofStep call.followUp)

def spawnReplacementMasterPane : Revival SpawnedRevivedMaster := do
  record .spawn
  ofResult call.spawn

/-- What a call does for a session with work, after it has reaped the workers. -/
def reviveMaster : Revival Unit := do
  markMasterRecoveryPhase call .workersReaped
  if ← waitForMasterReviveRetryBackoff call then
    let claimed ← claimMasterReviveGeneration call
    match claimed with
    | none => return ()
    | some claimedGeneration =>
      if ← recordMasterReviveSpawnAttempt call claimedGeneration then
        let spawned ← spawnReplacementMasterPane call
        finishRevival call claimedGeneration spawned

def reviveMasterAfterExitWindowed : Revival Unit := do
  let snapshot ← takeSnapshot call
  let _ ← beginMasterRecoveryWindowForSnapshot call snapshot.classification
  let _ ← cleanWorkersAfterMasterDeath call snapshot.workerIdsToReap
  match snapshot.classification with
  | .idleNoWork => closeIdleMasterDeathWithoutRevive call
  | .activeWork => reviveMaster call

def reviveMasterAfterExitLocked : Revival Unit := do
  match ← attempt (reviveMasterAfterExitWindowed call) with
  | .ok () => return ()
  | .error e =>
    markMasterRecoveryPhase call .failed
    throw e

def handleMasterDeathDetected : Revival Unit := do
  match ← classifyMasterDeath call false with
  | .revive => reviveMasterAfterExitLocked call
  | _ => markMasterRecoveryPhase call .failed

end Call

/-! ## Work that outlasts the workers -/

/-- A job of the session that is not settled when its worker is reaped: it is queued, or its
worker was down before. -/
def lastingWork (db : Db) (sessionId : String) : Bool :=
  db.jobs.rows.any fun r => (db.agents.get? r.2.agentId).any fun agent =>
    agent.sessionId = sessionId &&
      (r.2.status = .queued || r.2.status = .dispatched && !agent.state.isUp)

theorem lastingWork_iff :
    lastingWork db s = true ↔ ∃ j job agent, db.jobs.get? j = some job ∧
      db.agents.get? job.agentId = some agent ∧ agent.sessionId = s ∧
      (job.status = .queued ∨ job.status = .dispatched ∧ agent.state.isUp = false) := by
  simp only [lastingWork, List.any_eq_true, Table.get?_eq_some_iff (t := db.jobs),
    Option.any_eq_true]
  grind

theorem sessionHasActiveWork_iff :
    sessionHasActiveWork db s = true ↔
      (∃ a agent, db.agents.get? a = some agent ∧ agent.sessionId = s ∧
        isActiveWorkState agent.state = true) ∨
      ∃ j job agent, db.jobs.get? j = some job ∧ db.agents.get? job.agentId = some agent ∧
        agent.sessionId = s ∧ (job.status = .queued ∨ job.status = .dispatched) := by
  simp only [sessionHasActiveWork, Bool.or_eq_true, List.any_eq_true, Prod.exists,
    Table.get?_eq_some_iff (t := db.jobs), Table.get?_eq_some_iff (k := _),
    Option.any_eq_true, Bool.and_eq_true]
  grind [Table.get?_eq_some_iff]

theorem sessionHasActiveWork_of_lasting (h : lastingWork db s = true) :
    sessionHasActiveWork db s = true := by
  obtain ⟨j, job, agent, found, row, own, status⟩ := lastingWork_iff.mp h
  refine sessionHasActiveWork_iff.mpr (.inr ⟨j, job, agent, found, row, own, ?_⟩)
  exact status.imp id And.left

theorem sessionHasActiveWork_of_down
    (down : ∀ a agent, db.agents.get? a = some agent → agent.sessionId = s →
      agent.state.isUp = false) : sessionHasActiveWork db s = lastingWork db s := by
  rw [Bool.eq_iff_iff]
  refine ⟨fun work => ?_, sessionHasActiveWork_of_lasting⟩
  rcases sessionHasActiveWork_iff.mp work with
    ⟨a, agent, row, own, active⟩ | ⟨j, job, agent, found, row, own, status⟩
  · have isDown := down a agent row own
    cases state : agent.state <;> simp [state, AgentState.isUp, isActiveWorkState] at isDown active
  · exact lastingWork_iff.mpr ⟨j, job, agent, found, row, own,
      status.imp id fun dispatched => ⟨dispatched, down _ agent row own⟩⟩

theorem lastingWork_goesDown
    (h : GoesDown db a reason now (·.enter .killed now) db') (row : db.agents.get? a = some agent)
    (up : agent.state.isUp = true) (s : String) : lastingWork db' s = lastingWork db s := by
  have agents : ∀ b, db'.agents.get? b =
      if b = a then (db.agents.get? b).map (·.enter .killed now) else db.agents.get? b := by
    intro b
    rw [h.agents, Table.get?_modify]
  rw [Bool.eq_iff_iff, lastingWork_iff, lastingWork_iff]
  constructor
  · rintro ⟨j, job', agent', found, row', own, status⟩
    rw [h.jobs] at found
    obtain ⟨job, before, rfl⟩ := Option.map_eq_some_iff.mp found
    split_ifs at row' status with settled
    · simp at status
    · rw [agents] at row'
      split_ifs at row' with same
      · obtain ⟨agent₀, row₀, rfl⟩ := Option.map_eq_some_iff.mp row'
        refine ⟨j, job, agent₀, before, row₀, own, .inl ?_⟩
        exact status.resolve_right fun dispatched => settled ⟨same, dispatched.1⟩
      · exact ⟨j, job, agent', before, row', own, status⟩
  · rintro ⟨j, job, agent', found, row', own, status⟩
    by_cases same : job.agentId = a
    · -- The worker was up, so the job is a queued one.
      have queued : job.status = .queued := by
        refine status.resolve_right fun dispatched => ?_
        rw [same, row] at row'
        cases row'
        rw [up] at dispatched
        cases dispatched.2
      refine ⟨j, job, agent'.enter .killed now, ?_, ?_, own, .inl queued⟩
      · rw [h.jobs, found]
        simp [queued]
      · rw [agents, if_pos same, row']
        rfl
    · refine ⟨j, job, agent', ?_, ?_, own, status⟩
      · rw [h.jobs, found]
        simp [same]
      · rw [agents, if_neg same, row']

theorem lastingWork_markAgentKilled
    (h : markAgentKilledForMasterDeathSync db a reason now = .ok (n, db')) (s : String) :
    lastingWork db' s = lastingWork db s := by
  rcases markAgentKilledSyncInner_ok h with ⟨-, rfl, -⟩ | ⟨-, agent, row, crashed, killed, down⟩
  · rfl
  · exact lastingWork_goesDown down row (by simp [AgentState.isUp, crashed, killed]) s

theorem markAgentKilledForMasterDeathSync_succeeds (db : Db) (a reason : String) (now : Int) :
    ∃ r, markAgentKilledForMasterDeathSync db a reason now = .ok r :=
  markAgentKilledSyncInner_succeeds ..

end Ccbd.Master
