import Ccbd.Db.AgentsLifecycle

/-!
# Whole sessions that end

Three operations put every agent of a kind down in one transaction: the shutdown of the
daemon, the cleanup of a session that is terminal already, and the reconciliation at the
start of the daemon, which runs before anything else does.
-/

namespace Ccbd

open Lib

/-! ## Shutdown -/

/-- `state NOT IN ('CRASHED', 'KILLED')`. -/
def AgentState.isUp (state : AgentState) : Bool := state ≠ .crashed && state ≠ .killed

/-- `UPDATE agents SET state = 'KILLED', ... WHERE session_id = ? AND state NOT IN (...)`. -/
def killSessionRows (db : Db) (sessionId : String) (now : Int) : Db :=
  { db with
    agents := db.agents.updateWhere (fun _ agent => agent.sessionId = sessionId && agent.state.isUp)
      (·.enter .killed now) }

/-- The jobs and the event log of the agents are not touched. -/
def markAllSessionsIntentionalShutdown (db : Db) (now : Int) : Except CcbdError (Nat × Db) :=
  let activeSessionIds := (db.sessions.select fun _ s => s.status = "ACTIVE").map Prod.fst
  let db := { db with
    sessions := db.sessions.updateWhere (fun _ s => s.status = "ACTIVE")
      ({ · with status := "KILLED" }) }
  .ok (activeSessionIds.length, activeSessionIds.foldl (killSessionRows · · now) db)

/-! ## Cleanup of a terminal session -/

/-- One agent of the loop. -/
def killTerminalAgent (db : Db) (agentId sessionId reason : String) (now : Int) :
    Except CcbdError (Nat × Db) :=
  match db.agents.get? agentId with
  | none => .error (.dbConstraintViolation
      "query terminal agent state: Query returned no rows")
  | some agent =>
    if agent.sessionId = sessionId ∧ agent.state.isUp = true then do
      let db := db.modifyAgent agentId (·.enter .killed now)
      let (_, db) ← markDispatchedJobsFailedForAgentConnCollectSync db agentId reason now
      return (1, db.appendEvent agentId "state_change"
        (stateChange agent.state .killed (some reason)) now)
    else .ok (0, db)

def killTerminalAgents (sessionId reason : String) (now : Int) :
    List String → Db → Except CcbdError (Nat × Db)
  | [], db => .ok (0, db)
  | agentId :: rest, db => do
    let (changed, db) ← killTerminalAgent db agentId sessionId reason now
    let (changes, db) ← killTerminalAgents sessionId reason now rest db
    return (changed + changes, db)

def markTerminalSessionAgentsKilledDbOnly (db : Db) (sessionId reason : String) (now : Int) :
    Except CcbdError (Nat × Db) :=
  let agentIds := (db.agents.select fun _ agent =>
    agent.sessionId = sessionId && agent.state.isUp).map Prod.fst
  killTerminalAgents sessionId reason now agentIds db

/-! ## Reconciliation at startup -/

/-- What the reconciliation finds outside the database. -/
structure StartupProbe where
  /-- `probe_pid_alive`; a failed probe counts as dead. -/
  pidAlive : Int → Bool
  /-- A state directory was given. -/
  hasStateDir : Bool
  /-- The pipe of the agent is there and can be opened. -/
  fifoReattaches : String → Bool

structure StartupCrashCandidate where
  agentId : String
  state : AgentState
  reason : String
deriving DecidableEq, Repr

/-- The states the reconciliation looks at. -/
def isStartupCandidate : AgentState → Bool
  | .spawning | .waitingForAck | .busy | .idle => true
  | _ => false

def startupReconcilePhaseASelectCandidates (db : Db) : List (String × Agent) :=
  db.agents.select fun _ agent => isStartupCandidate agent.state

/-- The candidates that are found dead: by their process first, then by their pipe. -/
def startupReconcilePhaseBDead (probe : StartupProbe) (candidates : List (String × Agent)) :
    List StartupCrashCandidate :=
  let alive (r : String × Agent) := r.2.pid.any probe.pidAlive
  (candidates.filter (!alive ·)).map (fun r =>
      ⟨r.1, r.2.state, "STARTUP_RECONCILE_DEAD_PID"⟩) ++
    (candidates.filter fun r => alive r && probe.hasStateDir && !probe.fifoReattaches r.1).map
      fun r => ⟨r.1, r.2.state, "STARTUP_RECONCILE_FIFO_REATTACH_FAILED"⟩

/-- One agent of the loop. The event tells the state of the candidate, not of the row. -/
def crashDeadAgent (db : Db) (crash : StartupCrashCandidate) (now : Int) :
    Except CcbdError (Nat × Db) :=
  if (db.agents.get? crash.agentId).any (isStartupCandidate ·.state) then do
    let db := db.modifyAgent crash.agentId (·.enterError .crashed crash.reason now)
    let db := db.appendEvent crash.agentId "state_change"
      (stateChange crash.state .crashed (some crash.reason)) now
    let (_, db) ← markDispatchedJobsFailedForAgentConnCollectSync db crash.agentId crash.reason now
    return (1, db)
  else .ok (0, db)

def startupReconcilePhaseCCrashDead (now : Int) :
    List StartupCrashCandidate → Db → Except CcbdError (Nat × Db)
  | [], db => .ok (0, db)
  | crash :: rest, db => do
    let (changed, db) ← crashDeadAgent db crash now
    let (changes, db) ← startupReconcilePhaseCCrashDead now rest db
    return (changed + changes, db)

def reconcileActiveAgentsToCrashedSync (db : Db) (probe : StartupProbe) (now : Int) :
    Except CcbdError (Nat × Db) :=
  startupReconcilePhaseCCrashDead now
    (startupReconcilePhaseBDead probe (startupReconcilePhaseASelectCandidates db)) db

/-! ## What the two loops do -/

/-- The agent belongs to the session and is not down. -/
def Db.isUpIn (d : Db) (sessionId agentId : String) : Bool :=
  (d.agents.get? agentId).any fun agent => agent.sessionId = sessionId && agent.state.isUp

theorem killTerminalAgent_ok
    (h : killTerminalAgent db agentId sessionId reason now = .ok (n, db')) :
    (db.isUpIn sessionId agentId = false ∧ db' = db) ∨
      db.isUpIn sessionId agentId = true ∧
        GoesDown db agentId reason now (·.enter .killed now) db' := by
  unfold killTerminalAgent at h
  split at h
  · cases h
  rename_i agent found
  split_ifs at h with up
  · obtain ⟨⟨r, db₁⟩, h₁, h₂⟩ := bind_eq_ok.mp h
    cases h₂
    obtain ⟨jobs, trs, rfl, all⟩ := markDispatchedJobsFailedForAgentConnCollectSync_ok h₁
    exact .inr ⟨by simp [Db.isUpIn, found, up], rfl, all⟩
  · cases h
    exact .inl ⟨by simpa [Db.isUpIn, found] using up, rfl⟩

theorem killTerminalAgents_invariant {I : Db → Prop} {sessionId reason : String}
    {agentIds : List String} (turn : ∀ agentId db n db', I db →
      killTerminalAgent db agentId sessionId reason now = .ok (n, db') → I db') (start : I db)
    (h : killTerminalAgents sessionId reason now agentIds db = .ok (n, db')) : I db' := by
  induction agentIds generalizing db n with
  | nil =>
    cases h
    exact start
  | cons agentId rest ih =>
    obtain ⟨m₁, db₁, m₂, h₁, h₂⟩ := count_eq_ok h
    exact ih (turn agentId db m₁ db₁ start h₁) h₂

theorem crashDeadAgent_ok (h : crashDeadAgent db crash now = .ok (n, db')) :
    db' = db ∨ (db.agents.get? crash.agentId).any (isStartupCandidate ·.state) = true ∧
      GoesDown db crash.agentId crash.reason now (·.enterError .crashed crash.reason now) db' := by
  unfold crashDeadAgent at h
  split_ifs at h with candidate
  · obtain ⟨⟨r, db₁⟩, failed, h⟩ := bind_eq_ok.mp h
    cases h
    obtain ⟨jobs, trs, rfl, hget⟩ := markDispatchedJobsFailedForAgentConnCollectSync_ok failed
    exact .inr ⟨candidate, rfl, hget⟩
  · cases h
    exact .inl rfl

theorem startupReconcilePhaseCCrashDead_invariant {I : Db → Prop}
    {crashes : List StartupCrashCandidate}
    (turn : ∀ crash db n db', I db → crashDeadAgent db crash now = .ok (n, db') → I db')
    (start : I db) (h : startupReconcilePhaseCCrashDead now crashes db = .ok (n, db')) : I db' := by
  induction crashes generalizing db n with
  | nil =>
    cases h
    exact start
  | cons crash rest ih =>
    obtain ⟨m₁, db₁, m₂, h₁, h₂⟩ := count_eq_ok h
    exact ih (turn crash db m₁ db₁ start h₁) h₂

end Ccbd
