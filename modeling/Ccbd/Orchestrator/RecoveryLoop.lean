import Mathlib.Data.List.Infix
import Ccbd.Audit.Operations
import Ccbd.Completion.HookDelivery

/-!
# The recovery loop

`run_recovery_once_with_respawn` confirms the agents that have run stable, lists the
crashed ones and looks at them one after the other. The first that passes all checks and
whose row can be claimed is recovered: its row is read and deleted, the agent is respawned,
and what was read is put back with one more retry counted.

The daemon does other things meanwhile, and it may die. So the loop is a machine here: each of
its actions ends where the database is let go, and any other operation of the daemon, or its
restart, may come in between. An error ends the tick.
-/

namespace Ccbd

open Lib

/-! ## One look at a candidate -/

def isRecoveryEligibleProvider (provider : String) : Bool :=
  let provider := canonicalizeProviderName provider
  provider = "codex" || provider = "claude" || provider = "antigravity"

/-- `ORDER BY updated_at ASC, id ASC`. -/
def queryAgentsByStateSync (db : Db) (state : AgentState) : List (String × Agent) :=
  db.agents.selectOrderBy (fun _ agent => agent.state = state) fun x y =>
    if x.2.updatedAt = y.2.updatedAt then x.1 ≤ y.1 else x.2.updatedAt ≤ y.2.updatedAt

def sessionIsActive (db : Db) (sessionId : String) : Bool :=
  (db.sessions.get? sessionId).any (·.status = "ACTIVE")

/-- The agents with a backoff that are up and were created at least 300 seconds ago. -/
def stableAgents (db : Db) (now : Int) : List String :=
  (db.agents.select fun _ agent => agent.state.isUp &&
    (0 < agent.retryCount || agent.nextRetryAt.isSome || agent.retryExhausted) &&
      300 ≤ now - agent.createdAt).map Prod.fst

def confirmAgentStableSync (db : Db) (agentId : String) (now : Int) : Db :=
  clearRecoveryBackoffSync db agentId now

def confirmStableAgents (db : Db) (now : Int) : Db :=
  (stableAgents db now).foldl (confirmAgentStableSync · · now) db

def selfRecoveryEventExists (db : Db) (agentId action reason : String) : Bool :=
  db.events.rows.any fun r => r.2.agentId = agentId && r.2.eventType = "self_recovery_attempt" &&
    r.2.payload.strField? "action" = some action && r.2.payload.strField? "reason" = some reason

/-- An agent that is claimed for recovery, with the intent that was read for it. -/
structure RecoveryClaim where
  agentId : String
  intent : AgentRecoveryIntent
  own : intent.agentId = agentId

/-- What the loop does with a candidate next; each takes the database anew. An agent is passed
over with an event, unless there is one already. -/
inductive CandidateCheck where
  | retry
  | intent
  | session (claim : RecoveryClaim)
  | spec (claim : RecoveryClaim)
  | reap
  | emitted (reason : String)
  | emit (reason : String)

inductive CandidateOutcome where
  | next (check : CandidateCheck)
  | skipped
  | reaped
  | passed (claim : RecoveryClaim)

/-- One check of a turn of the loop over the crashed agents; `listed` is the row as it was
listed. -/
def considerCandidate (db : Db) (agentId : String) (listed : Agent) (now sqlNow : Int) :
    CandidateCheck → Except CcbdError (CandidateOutcome × Db)
  | .retry =>
    if isRecoveryEligibleProvider listed.provider = false then .ok (.skipped, db)
    else match db.agents.get? agentId with
    | none => .error (.dbConstraintViolation "query recovery candidate: Query returned no rows")
    | some row =>
      if row.retryExhausted || row.nextRetryAt.any (now < ·) then .ok (.skipped, db)
      else .ok (.next .intent, db)
  | .intent => match h : queryAgentRecoveryIntentSync db agentId with
    | none => .ok (.next (.emitted "missing_recovery_intent"), db)
    | some intent =>
      let claim : RecoveryClaim := ⟨agentId, intent, agentId_of_queryAgentRecoveryIntentSync h⟩
      -- only an idle worker is not brought back into a session that has ended
      match intent.action with
      | .reapOnly => .ok (.next .reap, db)
      | .reviveIdle => .ok (.next (.session claim), db)
      | .revive => .ok (.next (.spec claim), db)
  | .session claim =>
    if sessionIsActive db claim.intent.sessionId then .ok (.next (.spec claim), db)
    else .ok (.next .reap, db)
  | .spec claim =>
    if (queryAgentSpawnSpecSync db claim.agentId).isNone then
      .ok (.next (.emitted "missing_spawn_spec"), db)
    else .ok (.passed claim, db)
  | .reap => (deleteAgentSync db agentId).map (.reaped, ·)
  | .emitted reason =>
    if selfRecoveryEventExists db agentId "skipped" reason then .ok (.skipped, db)
    else .ok (.next (.emit reason), db)
  | .emit reason => (insertEventSync db agentId none "self_recovery_attempt" (.obj
      [("action", .str "skipped"), ("agent_id", .str agentId), ("next_retry_at", .null),
        ("reason", .str reason), ("retry_count", .num 0),
        ("state_version", .num listed.stateVersion)]) sqlNow).map fun r => (.skipped, r.2)

/-! ## The attempt -/

/-- A claimed agent with its row and its spawn spec as they were read before the deletion. -/
structure RecoveryAttempt extends RecoveryClaim where
  agent : Agent
  stored : StoredAgentSpawnSpec
  spec : stored.spec.agentId = agentId

def readSnapshot (claim : RecoveryClaim) (db : Db) : Except CcbdError RecoveryAttempt :=
  match h : recoverySnapshot db claim.agentId with
  | .error e => .error e
  | .ok (agent, stored) =>
    .ok { claim with agent := agent, stored := stored, spec := (recoverySnapshot_ok h).2.2 }

theorem readSnapshot_cases (claim : RecoveryClaim) (db : Db) :
    (∃ e, recoverySnapshot db claim.agentId = .error e ∧ readSnapshot claim db = .error e) ∨
      ∃ x : RecoveryAttempt, x.toRecoveryClaim = claim ∧
        recoverySnapshot db claim.agentId = .ok (x.agent, x.stored) ∧
        readSnapshot claim db = .ok x := by
  unfold readSnapshot
  split
  · rename_i e failed
    exact .inl ⟨e, failed, rfl⟩
  · rename_i agent stored read
    exact .inr ⟨_, rfl, read, rfl⟩

/-- What recovery reads of the agents other than `agentId`: sessions, row, spawn spec and
intent. -/
def Db.apart (agentId : String) (db : Db) : Table String Session × ({ b : String // b ≠ agentId } →
    Option Agent × Option AgentSpawnSpecRow × Option AgentRecoveryIntentRow) :=
  (db.sessions,
    fun b => (db.agents.get? b, db.agentSpawnSpecs.get? b, db.agentRecoveryIntents.get? b))

/-- What a respawn of `agentId` may do: nothing to sessions and other agents, and what it
leaves of its own agent is not a new CRASHED row. -/
structure RespawnEffect (db : Db) (agentId : String) (db' : Db) : Prop where
  others : db'.apart agentId = db.apart agentId
  own : db' = db ∨ ∀ agent, db'.agents.get? agentId = some agent → agent.state ≠ .crashed

/-- The respawn function of the loop, whatever it answers. -/
structure Respawn where
  run : String → RealignAgentParams → String → EStateM CcbdError Db Unit
  effect : ∀ sessionId agent configHash db,
    Ends (run sessionId agent configHash) db fun _ db' => RespawnEffect db agent.agentId db'

def RecoveryAttempt.respawn (x : RecoveryAttempt) (respawn : Respawn) : EStateM CcbdError Db Unit :=
  respawn.run x.agent.sessionId x.stored.respawnParams x.stored.configHash

/-- What is left to do after the respawn, in parts. -/
inductive FinishStep where
  | restoreRow
  | restoreSpec
  | restoreBackoff
  | storeIntent
  | requeueJob
  | enterCrashed
  | renewSpec
  | countRetry
  | emit
deriving DecidableEq, Repr

def failedSteps : List FinishStep :=
  [.restoreRow, .restoreSpec, .restoreBackoff, .storeIntent, .enterCrashed, .renewSpec,
    .countRetry, .emit]

def returnedSteps : List FinishStep := [.restoreBackoff, .requeueJob, .countRetry, .emit]

def finishSteps : Except CcbdError Unit → List FinishStep
  | .error _ => failedSteps
  | .ok () => returnedSteps

theorem forall_finishSteps {P : List FinishStep → Prop}
    (failed : ∀ steps ∈ failedSteps.tails, P steps)
    (returned : ∀ steps ∈ returnedSteps.tails, P steps) {result : Except CcbdError Unit}
    {steps : List FinishStep} (rest : steps <:+ finishSteps result) : P steps := by
  have rest := (List.mem_tails ..).mpr rest
  cases result with
  | error => exact failed steps rest
  | ok => exact returned steps rest

def FinishStep.run (x : RecoveryAttempt) (result : Except CcbdError Unit) (now : Int) :
    FinishStep → EStateM CcbdError Db Unit
  | restoreRow => ofStep (restoreCrashedRow x.agentId x.agent x.stored.configHash now)
  | restoreSpec =>
    atomically fun db => persistAgentSpawnSpecSync db x.stored.spec x.stored.configHash now
  | restoreBackoff => modify (setRecoveryBackoff · x.agentId x.agent.backoff)
  | storeIntent => atomically fun db => persistAgentRecoveryIntentSync db x.intent now
  | requeueJob => do
    let _ ← atomic fun db => requeueCapturedIntent db now (some x.intent)
  | enterCrashed => modify fun db => db.modifyAgent x.agentId (·.enter .crashed now)
  | renewSpec => atomically (renewAgentSpawnSpec x.agentId now)
  | countRetry => do
    let _ ← atomic fun db => recordRecoveryFailureBackoffSync db x.agentId now
  | emit => match result with
    | .ok () => emitSelfRecoveryAttemptEvent x.agentId "recovered" none
        (some ⟨x.agent.exitCode, x.agent.errorCode⟩) (some x.intent.action) now
    | .error err => emitSelfRecoveryAttemptEvent x.agentId "failed"
        (some (recoveryErrorMessage err)) none (some x.intent.action) now

/-- The parts one after the other. -/
def RecoveryAttempt.finish (x : RecoveryAttempt) (result : Except CcbdError Unit) (now : Int) :
    List FinishStep → EStateM CcbdError Db Unit
  | [] => pure ()
  | step :: steps => step.run x result now >>= fun _ => x.finish result now steps

theorem RecoveryAttempt.finish_eq (x : RecoveryAttempt) (result : Except CcbdError Unit)
    (now : Int) :
    x.finish result now (finishSteps result) = (do
      settleRespawn x.agentId x.agent x.stored (some x.intent) now result
      applyRecoverySpawnResultWithAction x.agentId result now
        (some ⟨x.agent.exitCode, x.agent.errorCode⟩) (some x.intent.action)) := by
  rcases result with e | ⟨⟩
  · simp only [finishSteps, failedSteps, finish, FinishStep.run, settleRespawn,
      applyRecoverySpawnResultWithAction, restoreCrashedAgentAfterRecoverySpawnFailure, bind_assoc,
      pure_bind, bind_pure_unit]
  · simp [finishSteps, returnedSteps, finish, FinishStep.run, settleRespawn,
      applyRecoverySpawnResultWithAction, bind_assoc]

/-! ## The machine -/

inductive RecoveryStage where
  | idle
  /-- The stable agents are confirmed. -/
  | confirmed (now : Int)
  /-- The first of the candidates is at this check. -/
  | scanning (now : Int) (check : CandidateCheck) (candidates : List (String × Agent))
  /-- The candidate has passed the checks and was listed with this version. -/
  | claiming (now : Int) (claim : RecoveryClaim) (version : Int) (rest : List (String × Agent))
  | claimed (claim : RecoveryClaim)
  | deleting (x : RecoveryAttempt)
  | respawning (x : RecoveryAttempt)
  | finishing (x : RecoveryAttempt) (result : Except CcbdError Unit) (steps : List FinishStep)
      (rest : steps <:+ finishSteps result)

/-- The agent of the attempt that is running. -/
def RecoveryStage.attempts : RecoveryStage → Option String
  | idle | confirmed _ | scanning .. | claiming .. => none
  | claimed claim => some claim.agentId
  | deleting x | respawning x | finishing x .. => some x.agentId

structure RecoveryWorld where
  db : Db
  stage : RecoveryStage

namespace RecoveryWorld

/-- Runs a part of the tick; its error ends the tick. -/
def after {α : Type} (m : EStateM CcbdError Db α) (next : α → RecoveryStage) (db : Db) :
    RecoveryWorld :=
  match m db with
  | .ok a db' => ⟨db', next a⟩
  | .error _ db' => ⟨db', .idle⟩

/-- The start of a tick. -/
def start (w : RecoveryWorld) (now : Int) : RecoveryWorld :=
  match w.stage with
  | .idle => ⟨confirmStableAgents w.db now, .confirmed now⟩
  | _ => w

/-- The list of the crashed agents, or the next check of one of them. -/
def consider (w : RecoveryWorld) (sqlNow : Int) : RecoveryWorld :=
  match w.stage with
  | .confirmed now =>
    { w with stage := .scanning now .retry (queryAgentsByStateSync w.db .crashed) }
  | .scanning _ _ [] => { w with stage := .idle }
  | .scanning now check ((agentId, listed) :: rest) =>
    after (atomic (considerCandidate · agentId listed now sqlNow check)) (fun
      | .next check => .scanning now check ((agentId, listed) :: rest)
      | .skipped => .scanning now .retry rest
      | .reaped => .idle
      | .passed claim => .claiming now claim listed.stateVersion rest) w.db
  | _ => w

/-- The claim, then the next part of the attempt. -/
def proceed (w : RecoveryWorld) (respawn : Respawn) (now : Int) : RecoveryWorld :=
  match w.stage with
  | .claiming tick claim version rest =>
    let claimed := tryClaimAgentRecoverySync w.db claim.agentId version tick now
    ⟨claimed.2, if claimed.1 then .claimed claim else .scanning tick .retry rest⟩
  | .claimed claim => after (atomic fun db => (readSnapshot claim db).map (·, db)) .deleting w.db
  | .deleting x =>
    after (atomically (deleteAgentSync · x.agentId)) (fun _ => .respawning x) w.db
  | .respawning x => after (attempt (x.respawn respawn))
      (fun result => .finishing x result (finishSteps result) (List.suffix_refl _)) w.db
  | .finishing x result (step :: steps) rest => after (step.run x result now)
      (fun _ => .finishing x result steps ((List.suffix_cons step steps).trans rest)) w.db
  | .finishing _ _ [] _ => { w with stage := .idle }
  | _ => w

end RecoveryWorld

/-! ## The other operations -/

/-- `restore_killed_worker_spawn_spec`, after a worker could not be brought back with its
master. -/
def restoreKilledWorkerSpawnSpec (db : Db) (sessionId : String) (stored : StoredAgentSpawnSpec)
    (now : Int) : Except CcbdError Unit × Db :=
  let inserted := if (db.agents.get? stored.spec.agentId).isNone then
      insertAgentSync db stored.spec.agentId sessionId stored.spec.provider .killed none now
    else (.ok (), db)
  match inserted with
  | (.error e, db) => (.error e, db)
  | (.ok (), db) => match persistAgentSpawnSpecSync db stored.spec stored.configHash now with
    | .error e => (.error e, db)
    | .ok db' => (.ok (), db')

/-- The rule takes the place of the one with its fingerprint, if there is one. The event it
was learned from has to be there. -/
def insertLearnedRuleSync (db : Db) (replaced : Option String) (ruleId : String)
    (rule : LearnedRule) : Except CcbdError Db :=
  if rule.sourceEventSeqId.all fun seq => (db.events.rows.lookup seq).isSome then
    .ok { db with
      learnedRules := (replaced.elim db.learnedRules db.learnedRules.delete).upsert ruleId rule }
  else .error (.dbConstraintViolation "insert learned rule: FOREIGN KEY constraint failed")

/-- The operations of `DaemonOp` that are parts of the recovery loop itself. -/
def DaemonOp.ofRecovery : DaemonOp → Bool
  | claimRecovery .. | restoreCrashedRow .. | restoreCrashedState .. => true
  | _ => false

inductive RecoveryAct where
  | start (now : Int)
  | consider (sqlNow : Int)
  | proceed (respawn : Respawn) (now : Int)
  /-- The daemon dies and comes up again; the startup is an operation of its own. -/
  | restart
  /-- Everything else the daemon does to agents, jobs, events and sessions. -/
  | daemon (op : DaemonOp)
  | updateConfigHash (agentId configHash : String) (now : Int)
  | persistSpawnSpec (spec : AgentSpawnSpec) (configHash : String) (now : Int)
  /-- The end of a realign. -/
  | clearBackoff (agentId : String) (now : Int)
  | restoreKilledWorker (sessionId : String) (stored : StoredAgentSpawnSpec) (now : Int)
  | learnRule (replaced : Option String) (ruleId : String) (rule : LearnedRule)

/-- An operation of the daemon is none of the loop's own. -/
def RecoveryAct.apart : RecoveryAct → Bool
  | .daemon op => !op.ofRecovery
  | _ => true

namespace RecoveryWorld

def apply (w : RecoveryWorld) : RecoveryAct → RecoveryWorld
  | .start now => w.start now
  | .consider sqlNow => w.consider sqlNow
  | .proceed respawn now => w.proceed respawn now
  | .restart => { w with stage := .idle }
  | .daemon op => { w with db := op.apply w.db }
  | .updateConfigHash a hash now => { w with db := updateAgentConfigHashSync w.db a hash now }
  | .persistSpawnSpec spec hash now =>
    { w with db := commit ((persistAgentSpawnSpecSync w.db spec hash now).map ((), ·)) w.db }
  | .clearBackoff a now => { w with db := clearRecoveryBackoffSync w.db a now }
  | .restoreKilledWorker s stored now =>
    { w with db := (restoreKilledWorkerSpawnSpec w.db s stored now).2 }
  | .learnRule replaced id rule =>
    { w with db := commit ((insertLearnedRuleSync w.db replaced id rule).map ((), ·)) w.db }

section Attempt

variable (respawn : Respawn) (now : Int)

theorem proceed_iterate_idle (n : Nat) (db : Db) :
    (proceed · respawn now)^[n] ⟨db, .idle⟩ = ⟨db, .idle⟩ :=
  Function.iterate_fixed rfl n

theorem proceed_iterate_after {α : Type} {m : EStateM CcbdError Db α}
    {next : α → RecoveryStage} {f : α → EStateM CcbdError Db Unit}
    (rest : ∀ a db, (proceed · respawn now)^[n] ⟨db, next a⟩ = after (f a) (fun _ => .idle) db)
    (db : Db) :
    (proceed · respawn now)^[n] (after m next db) = after (m >>= f) (fun _ => .idle) db := by
  show _ = after (EStateM.bind m f) _ db
  unfold after EStateM.bind
  cases m db with
  | ok a db' => exact rest a db'
  | error e db' => exact proceed_iterate_idle respawn now n db'

theorem proceed_iterate_finish (x : RecoveryAttempt) (result : Except CcbdError Unit)
    (steps : List FinishStep) (rest : steps <:+ finishSteps result)
    (enough : steps.length < n) (db : Db) :
    (proceed · respawn now)^[n] ⟨db, .finishing x result steps rest⟩ =
      after (x.finish result now steps) (fun _ => .idle) db := by
  induction steps generalizing n db with
  | nil =>
    obtain ⟨n, rfl⟩ := Nat.exists_eq_add_of_lt enough
    exact proceed_iterate_idle respawn now _ db
  | cons step steps ih =>
    obtain ⟨n, rfl⟩ : ∃ m, n = m + 1 := ⟨n - 1, by omega⟩
    have enough : steps.length < n := Nat.lt_of_succ_lt_succ enough
    exact proceed_iterate_after respawn now (fun _ => ih _ enough) db

/-- Left alone, the machine runs the whole attempt. -/
theorem proceed_attempt (same : respawn.run = r.run) (claim : RecoveryClaim) (db : Db) :
    (proceed · respawn now)^[12] ⟨db, .claimed claim⟩ =
      after (recoverCrashedAgentFromSnapshotWithRespawnAndIntent r claim.agentId
        (some claim.intent) now) (fun _ => .idle) db := by
  have finish (x : RecoveryAttempt) (result : Except CcbdError Unit) (db : Db) :
      (proceed · respawn now)^[9] ⟨db, .finishing x result (finishSteps result) (List.suffix_refl _)⟩ =
        after (x.finish result now (finishSteps result)) (fun _ => .idle) db := by
    have enough : (finishSteps result).length < 9 := by
      rcases result with e | ⟨⟩
      · exact Nat.lt_succ_self 8
      · exact (by decide : 4 < 9)
    exact proceed_iterate_finish respawn now x result _ (List.suffix_refl _) enough db
  have spawn (x : RecoveryAttempt) (db : Db) :
      (proceed · respawn now)^[10] ⟨db, .respawning x⟩ =
        after (attempt (x.respawn respawn) >>= fun result =>
          x.finish result now (finishSteps result)) (fun _ => .idle) db :=
    proceed_iterate_after respawn now (finish x) db
  have delete (x : RecoveryAttempt) (db : Db) :
      (proceed · respawn now)^[11] ⟨db, .deleting x⟩ =
        after (atomically (deleteAgentSync · x.agentId) >>= fun _ =>
          attempt (x.respawn respawn) >>= fun result =>
            x.finish result now (finishSteps result)) (fun _ => .idle) db :=
    proceed_iterate_after respawn now (fun _ => spawn x) db
  refine (proceed_iterate_after respawn now delete db).trans ?_
  simp only [RecoveryAttempt.finish_eq]
  rcases readSnapshot_cases claim db with ⟨e, absent, failed⟩ | ⟨x, rfl, read, snapshot⟩
  · simp [after, recoverCrashedAgentFromSnapshotWithRespawnAndIntent, bind, EStateM.bind, atomic,
      failed, absent, Except.map]
  · simp [after, recoverCrashedAgentFromSnapshotWithRespawnAndIntent, bind, EStateM.bind, atomic,
      snapshot, read, Except.map, RecoveryAttempt.respawn, StoredAgentSpawnSpec.respawnParams,
      same]

end Attempt

/-- A step of the daemon: only the loop itself does what belongs to the loop. -/
def Step (w : RecoveryWorld) (act : RecoveryAct) (w' : RecoveryWorld) : Prop :=
  act.apart = true ∧ w' = w.apply act

theorem run_of_list (w : RecoveryWorld) (acts : List RecoveryAct)
    (apart : acts.all RecoveryAct.apart = true) :
    Run Step w (trace apply w acts) (acts.foldl apply w) :=
  Run.of_list_guarded w acts fun act inside _ => List.all_eq_true.mp apart act inside

end RecoveryWorld

/-! ## A worker that crashes -/

/-- A respawn that fails before it writes anything. -/
def Respawn.refuses : Respawn where
  run _ _ _ := throw (.agentUnexpectedExit "no pane")
  effect _ _ _ _ := ⟨rfl, .inl rfl⟩

namespace RecoveryAct

/-- A spawned worker that is ready. -/
def spawnWorker : List RecoveryAct :=
  [.daemon (.insertAgent "a1" "s1" "codex" (some 7) 0),
    .persistSpawnSpec { agentId := "a1", provider := "codex" } "h1" 0,
    .daemon (.learnedReadiness "a1" 1)]

def crashWorker : RecoveryAct := .daemon (.db (.markCrashed "a1" (some 137) "AGENT_UNEXPECTED_EXIT" 2))

/-- A tick that finds one candidate and takes `n` parts of its recovery. -/
def tick (now : Int) (n : Nat) : List RecoveryAct :=
  .start now :: List.replicate 5 (.consider now) ++ List.replicate n (.proceed .refuses now)

end RecoveryAct

end Ccbd
