import Ccbd.Rpc.Spawn

/-!
# Recovery of crashed agents

`recover_crashed_agent_from_snapshot_with_respawn_and_intent` deletes the row of the
crashed agent, respawns it from the stored spec and puts the interrupted job back. If the
respawn fails it restores the row, the spec and the intent. It is a sequence of separate
transactions, so an error leaves what was done before it.
-/

namespace Ccbd

open Lib

/-- `RecoveryRespawnFn`. Called for an agent without a row, it leaves the jobs alone, and
when it returns the row is there. -/
structure RecoveryRespawn where
  run : String → RealignAgentParams → String → EStateM CcbdError Db Unit
  spawns : ∀ sessionId agent configHash db, db.agents.get? agent.agentId = none →
    Ends (run sessionId agent configHash) db fun r db' =>
      db'.jobs = db.jobs ∧ (r = .ok () → (db'.agents.get? agent.agentId).isSome)

/-- The respawn of the daemon. The stored environment has the project's merged in. -/
def spawnRealignAgentForRecovery (env : SpawnEnv) (ans : SpawnAnswers) : RecoveryRespawn where
  run sessionId agent configHash :=
    spawnRealignAgent env sessionId agent configHash true true .empty none ans
  spawns sessionId agent configHash db absent := by
    refine (ends_spawnRealignAgent ..).mono fun r db' ends => ?_
    cases r with
    | error =>
      obtain rfl : db' = db := ends
      exact ⟨rfl, nofun⟩
    | ok => exact ⟨by simpa [absent] using ends.jobs, fun _ => ends.isSome⟩

def RecoveryIntentAction.dbStr : RecoveryIntentAction → String
  | revive => "REVIVE"
  | reviveIdle => "REVIVE_IDLE"
  | reapOnly => "REAP_ONLY"

/-- The text of an error as `Display` prints it. -/
def CcbdError.display : CcbdError → String
  | dbConstraintViolation details => "database constraint violation: " ++ details
  | dbEvidenceNotFound details => "database evidence not found: " ++ details
  | agentNotFound agentId => "agent not found: " ++ agentId
  | agentAlreadyExists agentId => "agent already exists: " ++ agentId
  | agentWrongState currentState =>
    "agent is not in IDLE state: current_state=" ++ currentState
  | duplicateRequest seqId => "duplicate request for existing event seq_id=" ++ toString seqId
  | ipcInvalidRequest details => "invalid IPC request: " ++ details
  | ptyIoError details => "pty I/O error: " ++ details
  | agentUnexpectedExit details => "agent unexpected exit: " ++ details
  | environmentNotSupported details => "environment not supported: " ++ details
  | tmuxCommandFailed cmd stderr exit =>
    "tmux command failed: " ++ cmd ++ ": exit=" ++ toString exit ++ ", stderr=" ++ stderr

def recoveryErrorMessage : CcbdError → String
  | .ptyIoError message => message
  | .environmentNotSupported details | .agentUnexpectedExit details => details
  | .tmuxCommandFailed _ stderr _ => stderr
  | err => err.display

structure CrashContext where
  exitCode : Option Int
  errorCode : Option String

/-- The payload of a `self_recovery_attempt` event. -/
def selfRecoveryPayload (agentId action : String) (agent : Agent) (error : Option String)
    (recoveredFrom : Option CrashContext) (recoveryAction : Option RecoveryIntentAction) : Json :=
  let field (name : String) (value : Option Json) : List (String × Json) :=
    value.elim [] fun v => [(name, v)]
  .obj ([("action", .str action), ("agent_id", .str agentId)] ++ field "error" (error.map .str) ++
    [("next_retry_at", agent.nextRetryAt.elim .null .num), ("reason", .str "OOM_RECOVERY")] ++
    field "recovered_from_error_code" ((recoveredFrom.bind (·.errorCode)).map .str) ++
    field "recovered_from_exit_code" ((recoveredFrom.bind (·.exitCode)).map .num) ++
    field "recovery_action" (recoveryAction.map fun a => .str a.dbStr) ++
    field "recovery_kind" (if recoveryAction = some .reviveIdle then
      some (.str "idle_topology_restore") else none) ++
    [("retry_count", .num agent.retryCount), ("state_version", .num agent.stateVersion)])

/-- The row whose columns `recovery_event_state` reads. -/
def recoveryEventState (db : Db) (agentId : String) : Except CcbdError Agent :=
  match db.agents.get? agentId with
  | some agent => .ok agent
  | none =>
    .error (.dbConstraintViolation "query recovery event state: Query returned no rows")

def emitSelfRecoveryAttemptEvent (agentId action : String) (error : Option String)
    (recoveredFrom : Option CrashContext) (recoveryAction : Option RecoveryIntentAction)
    (now : Int) : EStateM CcbdError Db Unit := do
  let agent ← atomic fun db => (recoveryEventState db agentId).map (·, db)
  insertEvent agentId "self_recovery_attempt"
    (selfRecoveryPayload agentId action agent error recoveredFrom recoveryAction) now

/-- The stored spec is written once more. -/
def renewAgentSpawnSpec (agentId : String) (now : Int) (db : Db) : Except CcbdError Db :=
  match queryAgentSpawnSpecSync db agentId with
  | none => .ok db
  | some stored => persistAgentSpawnSpecSync db stored.spec stored.configHash now

/-- The retry is counted whether or not the respawn succeeded. -/
def applyRecoverySpawnResultWithAction (agentId : String) (spawnResult : Except CcbdError Unit)
    (now : Int) (crashContext : Option CrashContext)
    (recoveryAction : Option RecoveryIntentAction) : EStateM CcbdError Db Unit :=
  match spawnResult with
  | .ok () => do
    let _ ← atomic fun db => recordRecoveryFailureBackoffSync db agentId now
    emitSelfRecoveryAttemptEvent agentId "recovered" none crashContext recoveryAction now
  | .error err => do
    modify fun db => db.modifyAgent agentId (·.enter .crashed now)
    atomically (renewAgentSpawnSpec agentId now)
    let _ ← atomic fun db => recordRecoveryFailureBackoffSync db agentId now
    emitSelfRecoveryAttemptEvent agentId "failed" (some (recoveryErrorMessage err)) none
      recoveryAction now

/-- The row of the crashed agent again, unless the respawn left one. -/
def restoreCrashedRow (agentId : String) (agent : Agent) (configHash : String) (now : Int)
    (db : Db) : Except CcbdError Unit × Db :=
  if (db.agents.get? agentId).isNone then
    match insertAgentSync db agentId agent.sessionId agent.provider .crashed none now with
    | (.error e, db) => (.error e, db)
    | (.ok (), db) => (.ok (), db.modifyAgent agentId ({ · with
        configHash := some configHash, stateVersion := agent.stateVersion, retryCount := 0,
        nextRetryAt := none, retryExhausted := false, updatedAt := now }))
  else (.ok (), db)

theorem restoreCrashedRow_cases (agentId : String) (agent : Agent) (configHash : String)
    (now : Int) (db : Db) :
    (restoreCrashedRow agentId agent configHash now db).2 = db ∨
      NewRow db agentId (fun row => row.state = .crashed ∧ row.stateVersion = agent.stateVersion)
        (restoreCrashedRow agentId agent configHash now db).2 := by
  unfold restoreCrashedRow
  split_ifs with absent
  · have absent := Option.isNone_iff_eq_none.mp absent
    rcases insertAgentSync_of_absent absent agent.sessionId agent.provider .crashed none now
      with ⟨e, failed⟩ | done
    · rw [failed]
      exact .inl rfl
    · rw [done]
      exact .inr ((newRow_insertAgentRow absent ..).modifyAgent fun _ good => ⟨good.1, rfl⟩)
  · exact .inl rfl

def restoreCrashedAgentAfterRecoverySpawnFailure (agentId : String) (agent : Agent)
    (stored : StoredAgentSpawnSpec) (now : Int) : EStateM CcbdError Db Unit := do
  ofStep (restoreCrashedRow agentId agent stored.configHash now)
  atomically fun db => persistAgentSpawnSpecSync db stored.spec stored.configHash now

/-- What is read before the row is deleted. -/
def recoverySnapshot (db : Db) (agentId : String) :
    Except CcbdError (Agent × StoredAgentSpawnSpec) :=
  match db.agents.get? agentId with
  | none => .error (.agentNotFound agentId)
  | some agent => match queryAgentSpawnSpecSync db agentId with
    | none => .error (.dbConstraintViolation ("missing spawn spec for " ++ agentId))
    | some stored => .ok (agent, stored)

theorem recoverySnapshot_ok (h : recoverySnapshot db agentId = .ok (agent, stored)) :
    db.agents.get? agentId = some agent ∧ (db.agentSpawnSpecs.get? agentId).isSome ∧
      stored.spec.agentId = agentId := by
  unfold recoverySnapshot at h
  split at h
  · cases h
  rename_i found
  split at h
  · cases h
  rename_i hstored
  cases h
  obtain ⟨row, hrow, rfl⟩ := Option.map_eq_some_iff.mp hstored
  exact ⟨found, by simp [hrow], rfl⟩

theorem recoverySnapshot_error (h : recoverySnapshot db agentId = .error e) :
    db.agents.get? agentId = none ∨ db.agentSpawnSpecs.get? agentId = none := by
  unfold recoverySnapshot at h
  split at h
  · exact .inl ‹_›
  split at h
  · rename_i hstored
    exact .inr (Option.map_eq_none_iff.mp hstored)
  · cases h

def Agent.backoff (agent : Agent) : RecoveryBackoff :=
  ⟨agent.retryCount, agent.nextRetryAt, agent.retryExhausted⟩

/-- After the respawn: the columns of the backoff, and the intent or the interrupted job. -/
def settleRespawn (agentId : String) (agent : Agent) (stored : StoredAgentSpawnSpec)
    (capturedIntent : Option AgentRecoveryIntent) (now : Int) :
    Except CcbdError Unit → EStateM CcbdError Db Unit
  | .error _ => do
    restoreCrashedAgentAfterRecoverySpawnFailure agentId agent stored now
    modify (setRecoveryBackoff · agentId agent.backoff)
    match capturedIntent with
    | some intent => atomically fun db => persistAgentRecoveryIntentSync db intent now
    | none => pure ()
  | .ok () => do
    modify (setRecoveryBackoff · agentId agent.backoff)
    let _ ← atomic fun db => requeueCapturedIntent db now capturedIntent

/-! ## What the bookkeeping leaves alone -/

/-- The observation is not of what a recovery writes beside the row and the jobs. -/
structure Aside {τ : Type} (agentId : String) (obs : Db → τ) : Prop where
  events (db : Db) (events) : obs { db with events := events } = obs db
  specs (db : Db) (specs) : obs { db with agentSpawnSpecs := specs } = obs db
  intents (db : Db) (intents) : obs { db with agentRecoveryIntents := intents } = obs db
  row (db : Db) (f : Agent → Agent) (hash : ∀ agent, (f agent).configHash = agent.configHash) :
    obs (db.modifyAgent agentId f) = obs db

namespace Aside

variable {τ : Type} {obs : Db → τ} (aside : Aside agentId obs)

include aside

theorem recordBackoff (now : Int) :
    Keeps obs (atomic fun db => recordRecoveryFailureBackoffSync db agentId now) := by
  refine .atomic fun db b db' h => ?_
  unfold recordRecoveryFailureBackoffSync at h
  split at h
  · cases h
  · cases h
    refine (aside.row _ _ ?_).trans (aside.row _ _ ?_) <;> exact fun _ => rfl

theorem emit (action : String) (error : Option String) (recoveredFrom : Option CrashContext)
    (recoveryAction : Option RecoveryIntentAction) (now : Int) :
    Keeps obs (emitSelfRecoveryAttemptEvent agentId action error recoveredFrom recoveryAction
      now) := by
  refine .bind (.atomic fun db agent db' h => ?_) fun _ =>
    keeps_insertEvent aside.events agentId _ _ _
  obtain ⟨_, -, same⟩ := map_eq_ok.mp h
  cases same
  rfl

theorem applyResult (result : Except CcbdError Unit) (now : Int) (context : Option CrashContext)
    (action : Option RecoveryIntentAction) :
    Keeps obs (applyRecoverySpawnResultWithAction agentId result now context action) := by
  cases result with
  | ok => exact .bind (aside.recordBackoff now) fun _ => aside.emit _ _ _ _ _
  | error =>
    refine .bind (.modify fun db => aside.row db _ fun _ => rfl) fun _ =>
      .bind (keeps_atomically fun db db' h => ?_) fun _ =>
        .bind (aside.recordBackoff now) fun _ => aside.emit _ _ _ _ _
    unfold renewAgentSpawnSpec at h
    split at h
    · cases h
      rfl
    · obtain ⟨_, rfl⟩ := persistAgentSpawnSpecSync_ok h
      exact aside.specs ..

theorem setBackoff (b : RecoveryBackoff) :
    Keeps (ε := CcbdError) obs (modifyGet fun db => ((), setRecoveryBackoff db agentId b)) :=
  .modify fun db => aside.row db _ fun _ => rfl

theorem storeIntent (intent : AgentRecoveryIntent) (now : Int) :
    Keeps obs (atomically fun db => persistAgentRecoveryIntentSync db intent now) := by
  refine keeps_atomically fun db db' h => ?_
  obtain ⟨_, rfl⟩ := persistAgentRecoveryIntentSync_ok h
  exact aside.intents ..

end Aside

/-- What the respawn is called with. -/
def StoredAgentSpawnSpec.respawnParams (stored : StoredAgentSpawnSpec) : RealignAgentParams :=
  { stored.spec.toAgentDeclaration with agentId := stored.spec.agentId }

def recoverCrashedAgentFromSnapshotWithRespawnAndIntent (respawn : RecoveryRespawn)
    (agentId : String) (capturedIntent : Option AgentRecoveryIntent) (now : Int) :
    EStateM CcbdError Db Unit := do
  let (agent, stored) ← atomic fun db => (recoverySnapshot db agentId).map (·, db)
  atomically fun db => deleteAgentSync db agentId
  let spawnResult ← attempt (respawn.run agent.sessionId stored.respawnParams stored.configHash)
  settleRespawn agentId agent stored capturedIntent now spawnResult
  applyRecoverySpawnResultWithAction agentId spawnResult now
    (some ⟨agent.exitCode, agent.errorCode⟩) (capturedIntent.map (·.action))

end Ccbd
