import Ccbd.Master.RecoveryWindow
import Ccbd.Orchestrator.RecoveryLoop

/-!
# The readiness of a revived master

After a master was revived, and again when the daemon starts during a recovery, somebody waits
until the master is ready, brings its workers back and completes the recovery window. If the
master does not become ready the session is taken down with all of its workers.

The wait is for one generation of the master and takes up to a minute. Meanwhile the watcher of
the same master may revive it, or a realign replace it: the machine below does one transaction
of the wait at a time, between any steps of the others.
-/

namespace Ccbd.Master

open Lib

/-! ## The run -/

inductive ReviveMasterReadinessCheck where
  | ack
  | probe
deriving DecidableEq, Repr

namespace ReviveMasterReadinessCheck

def modeName : ReviveMasterReadinessCheck → String
  | ack => "ack"
  | probe => "probe"

def readyReason : ReviveMasterReadinessCheck → String
  | ack => "ack-assistant-progress"
  | probe => "probe-ready"

def timeoutReason : ReviveMasterReadinessCheck → String
  | ack => "ack-timeout"
  | probe => "probe-timeout"

def deadlineExhaustedReason : ReviveMasterReadinessCheck → String
  | ack => "ack-deadline-exhausted"
  | probe => "probe-deadline-exhausted"

end ReviveMasterReadinessCheck

/-- The arguments of `resume_master_recovery_readiness`. -/
structure ReadinessRun where
  sessionId : String
  expectedPid : Int
  runtimeExpectedGeneration : Int
  windowExpectedGeneration : Int
  beginReadinessToken : Option String
  check : ReviveMasterReadinessCheck

/-- `ReviveMasterReadinessProbeState`. -/
structure ProbeState where
  lastCapture : Option String := none
  steadyCaptures : Nat := 0
deriving DecidableEq, Repr

def ProbeState.observeCapture (probe : ProbeState) (capture : String) : Bool × ProbeState :=
  if (Reply.trim capture.toList).isEmpty then (false, {})
  else
    let steady := if probe.lastCapture = some capture then probe.steadyCaptures + 1 else 1
    (decide (3 ≤ steady), { lastCapture := some capture, steadyCaptures := steady })

/-- What one step of the run gets from its environment. Each step uses the part it asks
for. -/
structure ReadinessAnswer where
  now : Int := 0
  configuredTimeoutSecs : Int := 30
  deferSecs : Option Int := none
  processAlive : Bool := true
  /-- The transcript has progress of the assistant. -/
  progress : Except CcbdError Bool := .ok false
  panePidMatches : Bool := true
  capture : Option String := none
  deadlinePassed : Bool := false
  sharedCredentials : Except CcbdError Unit := .ok ()
  spawnEnv : SpawnEnv
  spawn : SpawnAnswers

/-- The writes of a spawn after the row of the agent. -/
inductive SpawnPart where
  | configHash (configHash : String)
  | spec (written : AgentSpawnSpec) (configHash : String)
  | snapshot
  | spawnedEvent

inductive ReadinessStage where
  | begin
  | budget
  | polling (probe : ProbeState)
  | markReady
  | markReprovisioning
  | querySpecs
  | querySession (specs : List StoredAgentSpawnSpec)
  | collectIntents (specs : List StoredAgentSpawnSpec)
  | reprovision (specs : List StoredAgentSpawnSpec) (intents : List AgentRecoveryIntent)
  | record (extensions : ExtensionConfig) (pid : Int) (stored : StoredAgentSpawnSpec)
      (rest : List StoredAgentSpawnSpec) (intents : List AgentRecoveryIntent)
  | finish (parts : List SpawnPart) (stored : StoredAgentSpawnSpec)
      (rest : List StoredAgentSpawnSpec) (intents : List AgentRecoveryIntent)
  | restore (stored : StoredAgentSpawnSpec) (rest : List StoredAgentSpawnSpec)
      (intents : List AgentRecoveryIntent)
  | gateBudget (workerIds : List String)
  | gate (workerIds : List String)
  | complete
  | fail (windowReason cascadeReason : String)
  | cascade (reason : String)
  | cascadeStatus (reason : String)
  | cascadeSelect (reason : String)
  | cascadeKill (agentIds : List String) (reason : String)
  | done

structure ReadinessWorld where
  m : MasterDb
  stage : ReadinessStage

/-! ## What the steps read and write -/

def masterRuntimeMatches (t : Masters) (sessionId : String) (pid generation : Int) : Bool :=
  (t.get? sessionId).any (·.isCurrent pid generation)

def masterReviveReadinessCleanupMarginSecs : Int := 5

def masterRecoveryEffectiveReadinessTimeout (m : MasterDb) (sessionId : String)
    (now configuredTimeoutSecs : Int) : Option Int :=
  (m.windows.get? sessionId).map fun window =>
    effectiveReadinessTimeout now window.deferUntil window.createdAt configuredTimeoutSecs
      masterReviveReadinessCleanupMarginSecs

def queryAgentSpawnSpecsForSessionSync (db : Db) (sessionId : String) : List StoredAgentSpawnSpec :=
  (db.agents.selectOrderBy (fun _ agent => agent.sessionId = sessionId)
    fun x y => x.2.createdAt < y.2.createdAt ||
      x.2.createdAt = y.2.createdAt && decide (x.1 ≤ y.1)).filterMap fun r =>
    queryAgentSpawnSpecSync db r.1

def recoveredWorkersReadySync (db : Db) (workerIds : List String) : Bool :=
  workerIds.all fun agentId => (db.stateOf agentId).any fun state =>
    state = .idle || state = .waitingForAck || state = .busy || state = .promptPending

/-- The intent that was captured for the worker. -/
def intentOf (intents : List AgentRecoveryIntent) (stored : StoredAgentSpawnSpec) :
    Option AgentRecoveryIntent :=
  intents.find? (·.agentId = stored.spec.agentId)

/-- The row of the agent that is spawned. -/
def recordAgent (db : Db) (sessionId : String) (spec : AgentSpawnSpec) (expectedHash : String)
    (pid : Int) (intent : Option AgentRecoveryIntent) (now : Int) : Except CcbdError Unit × Db :=
  match intent with
  | none => insertAgentSync db spec.agentId sessionId spec.provider .spawning (some pid) now
  | some intent =>
    match replaceKilledAgentAndRequeueJobSync db sessionId spec expectedHash pid (some intent)
      now with
    | .ok (_, db') => (.ok (), db')
    | .error e => (.error e, db)

/-- What is left to write once the row is there. -/
def followUps (env : SpawnEnv) (p : AgentSpawnParams) (extensions : ExtensionConfig) :
    Option AgentRecoveryIntent → List SpawnPart
  | none =>
    let hash := spawnConfigHash env p extensions
    [.configHash hash, .spec (spawnSpec p extensions) hash, .snapshot, .spawnedEvent]
  | some _ => [.spawnedEvent]

def SpawnPart.run (stored : StoredAgentSpawnSpec) (now : Int) :
    SpawnPart → EStateM CcbdError Db Unit
  | configHash hash => modify (updateAgentConfigHashSync · stored.spec.agentId hash now)
  | spec written hash => do
    let _ ← attempt (atomically fun db => persistAgentSpawnSpecSync db written hash now)
  | snapshot =>
    persistRealignSnapshotAfterSuccess stored.respawnParams stored.configHash .empty now
  | spawnedEvent => insertEvent stored.spec.agentId "agent_spawned"
      (.obj [("is_recovery", .bool true), ("reason", .str "NEW")]) now

def ReadinessWorld.goto (w : ReadinessWorld) (stage : ReadinessStage) : ReadinessWorld :=
  { w with stage := stage }

/-- A step on the workers and jobs, with the stages it leads to. -/
def ReadinessWorld.onDb {α : Type} (w : ReadinessWorld) (r : Except CcbdError α × Db)
    (next : α → ReadinessStage) (failed : CcbdError → ReadinessStage) : ReadinessWorld :=
  { m := { w.m with db := r.2 }
    stage := match r.1 with
      | .ok a => next a
      | .error e => failed e }

/-- The result of a procedure and the database it leaves. -/
def outcome {α : Type} (p : EStateM CcbdError Db α) (db : Db) : Except CcbdError α × Db :=
  match p db with
  | .ok a db' => (.ok a, db')
  | .error e db' => (.error e, db')

/-- One look at the master that is waited for. -/
def ReadinessRun.poll (r : ReadinessRun) (m : MasterDb) (ans : ReadinessAnswer)
    (probe : ProbeState) : ReadinessStage :=
  let timedOut : ReadinessStage :=
    .fail r.check.timeoutReason "MASTER_REVIVE_READINESS_TIMEOUT"
  if !masterRuntimeMatches m.masters r.sessionId r.expectedPid r.runtimeExpectedGeneration then
    timedOut
  else if !ans.processAlive then timedOut
  else
    let again (probe : ProbeState) : ReadinessStage :=
      if ans.deadlinePassed then timedOut else .polling probe
    match r.check with
    | .ack =>
      match ans.progress with
      | .error _ => .done
      | .ok true => .markReady
      | .ok false => again probe
    | .probe =>
      if !ans.panePidMatches then timedOut
      else match ans.capture with
        | none => again probe
        | some capture =>
          let (ready, probe) := probe.observeCapture capture
          if ready then .markReady else again probe

/-- The next transaction of the run. -/
def ReadinessRun.proceed (r : ReadinessRun) (ans : ReadinessAnswer) (w : ReadinessWorld) :
    ReadinessWorld :=
  let m := w.m
  let s := r.sessionId
  match w.stage with
  | .begin => match r.beginReadinessToken with
    | none => w.goto .budget
    | some token => ⟨(beginMasterRecoveryReadinessWaitSync m s r.windowExpectedGeneration
        r.check.modeName token ans.now).2, .budget⟩
  | .budget =>
    if (masterRecoveryEffectiveReadinessTimeout m s ans.now ans.configuredTimeoutSecs).any
        (0 < ·) then w.goto (.polling {})
    else w.goto (.fail r.check.deadlineExhaustedReason "MASTER_REVIVE_READINESS_TIMEOUT")
  | .polling probe => w.goto (r.poll m ans probe)
  | .markReady => ⟨(markMasterRecoveryReadySync m s r.windowExpectedGeneration
      r.check.readyReason ans.now).2, .markReprovisioning⟩
  | .markReprovisioning => ⟨(updateMasterRecoveryPhaseSync m s r.windowExpectedGeneration
      .workersReprovisioning ans.now ans.deferSecs).2, .querySpecs⟩
  | .querySpecs => match queryAgentSpawnSpecsForSessionSync m.db s with
    | [] => w.goto (.gateBudget [])
    | specs => w.goto (.querySession specs)
  | .querySession specs =>
    if (m.db.sessions.get? s).isNone then w.goto .done
    else if specs.any (·.spec.provider = "claude") then match ans.sharedCredentials with
      | .error _ => w.goto .done
      | .ok () => w.goto (.collectIntents specs)
    else w.goto (.collectIntents specs)
  | .collectIntents specs =>
    w.goto (.reprovision specs
      (specs.filterMap fun stored => queryAgentRecoveryIntentSync m.db stored.spec.agentId))
  | .reprovision [] intents => w.goto (.gateBudget (intents.map (·.agentId)))
  | .reprovision (stored :: rest) intents =>
    match prepareSpawn ans.spawnEnv (stored.respawnParams.spawnParams s .empty) ans.spawn m.db with
    | .error _ => w.goto (.restore stored rest intents)
    | .ok (extensions, pid) => w.goto (.record extensions pid stored rest intents)
  | .record extensions pid stored rest intents =>
    let p := stored.respawnParams.spawnParams s .empty
    w.onDb (recordAgent m.db s (spawnSpec p extensions) stored.configHash pid
        (intentOf intents stored) ans.now)
      (fun _ => .finish (followUps ans.spawnEnv p extensions (intentOf intents stored)) stored rest
        intents)
      fun _ => .restore stored rest intents
  | .finish [] _ rest intents => w.goto (.reprovision rest intents)
  | .finish (part :: parts) stored rest intents =>
    w.onDb (outcome (part.run stored ans.now) m.db) (fun _ => .finish parts stored rest intents)
      fun _ => .restore stored rest intents
  | .restore stored rest intents =>
    w.onDb (restoreKilledWorkerSpawnSpec m.db s stored ans.now)
      (fun _ => .reprovision rest intents) fun _ => .reprovision rest intents
  | .gateBudget workerIds =>
    let timeout := (masterRecoveryEffectiveReadinessTimeout m s ans.now
      ans.configuredTimeoutSecs).getD 0
    if min timeout 30 ≤ 0 then
      w.goto (.fail "worker-readiness-timeout" "MASTER_REVIVE_WORKER_READINESS_TIMEOUT")
    else w.goto (.gate workerIds)
  | .gate workerIds =>
    if workerIds.isEmpty || recoveredWorkersReadySync m.db workerIds then
      w.goto .complete
    else if ans.deadlinePassed then
      w.goto (.fail "worker-readiness-timeout" "MASTER_REVIVE_WORKER_READINESS_TIMEOUT")
    else w
  | .complete =>
    ⟨(completeMasterRecoveryWindowSync m s r.windowExpectedGeneration ans.now).2, .done⟩
  | .fail windowReason cascadeReason =>
    ⟨(failMasterRecoveryReadinessSync m s r.windowExpectedGeneration windowReason ans.now).2,
      .cascade cascadeReason⟩
  | .cascade reason =>
    let (changes, masters) := cascadeKillSession m.masters s
    ⟨{ m with masters := masters },
      if changes = 0 then .cascadeStatus reason else .cascadeSelect reason⟩
  | .cascadeStatus reason =>
    if (m.masters.get? s).any fun row => row.status ≠ .active then
      w.goto (.cascadeSelect reason)
    else w.goto .done
  | .cascadeSelect reason =>
    w.goto (.cascadeKill
      ((m.db.agents.select fun _ agent => agent.sessionId = s && agent.state.isUp).map Prod.fst)
      reason)
  | .cascadeKill [] _ => w.goto .done
  | .cascadeKill (agentId :: rest) reason =>
    match markAgentKilledSync m.db agentId reason ans.now with
    | .ok (_, db') => ⟨{ m with db := db' }, .cascadeKill rest reason⟩
    | .error _ => w.goto .done
  | .done => w

/-- The parts of a spawn in their order are the spawn. -/
theorem spawnRealignAgent_parts (env : SpawnEnv) (s : String) (stored : StoredAgentSpawnSpec)
    (intent : Option AgentRecoveryIntent) (ans : SpawnAnswers) :
    spawnRealignAgent env s stored.respawnParams stored.configHash false true .empty intent ans =
      (do
        let p := stored.respawnParams.spawnParams s .empty
        let (extensions, pid) ← atomic fun db => (prepareSpawn env p ans db).map (·, db)
        ofStep fun db =>
          recordAgent db s (spawnSpec p extensions) stored.configHash pid intent ans.now
        let _ ← forEach (SpawnPart.run stored ans.now) (followUps env p extensions intent)
        return ()) := by
  cases intent with
  | none =>
    simp only [spawnRealignAgent, handleAgentSpawnWithDbAction, recordSpawn, followUps,
      forEach, SpawnPart.run, bind_assoc, pure_bind, bind_pure_unit]
    rfl
  | some intent =>
    have record : ∀ spec pid, (do
          let _ ← atomic fun db => replaceKilledAgentAndRequeueJobSync db s spec stored.configHash pid
            (some intent) ans.now
          pure ()) =
        ofStep fun db => recordAgent db s spec stored.configHash pid (some intent) ans.now := by
      intro spec pid
      funext db
      show EStateM.bind _ _ db = _
      simp only [EStateM.bind, atomic, ofStep, recordAgent]
      cases replaceKilledAgentAndRequeueJobSync db s spec stored.configHash pid (some intent)
        ans.now <;> rfl
    simp only [spawnRealignAgent, handleAgentSpawnWithDbAction, recordSpawn, followUps,
      forEach, bind_assoc, pure_bind, bind_pure_unit, ← record]
    rfl

/-! ## The interleavings -/

inductive ReadinessAct where
  | proceed (ans : ReadinessAnswer)
  | master (op : MasterOp)
  | window (op : WindowOp)
  | workers (f : Db → Db)

variable (r : ReadinessRun) (w : ReadinessWorld)

def ReadinessRun.apply : ReadinessAct → ReadinessWorld
  | .proceed ans => r.proceed ans w
  | .master op => { w with m := { w.m with masters := op.apply w.m.masters } }
  | .window op => { w with m := op.apply w.m }
  | .workers f => { w with m := { w.m with db := f w.m.db } }

def ReadinessRun.Step (a : ReadinessAct) (w' : ReadinessWorld) : Prop := w' = r.apply w a

def MasterDb.statusOf (m : MasterDb) (sessionId : String) : Option SessionStatus :=
  (m.masters.get? sessionId).map (·.status)

/-- The state of the agent, if it is one of the session. -/
def stateIn (db : Db) (sessionId agentId : String) : Option AgentState :=
  ((db.agents.get? agentId).filter (·.sessionId = sessionId)).map (·.state)

/-- The session has a newer master than the one the run waits for. -/
def ReadinessRun.superseded (m : MasterDb) : Bool :=
  (m.masters.get? r.sessionId).any (r.runtimeExpectedGeneration < ·.masterGeneration)

/-- The session has its status and its workers their states. -/
def SameSession (sessionId : String) (m m' : MasterDb) : Prop :=
  m'.statusOf sessionId = m.statusOf sessionId ∧
    ∀ a, stateIn m'.db sessionId a = stateIn m.db sessionId a

/-- The run leaves the session of a newer master alone. -/
def ReadinessRun.SparesNewer (tr : Transition ReadinessWorld ReadinessAct) : Prop :=
  match tr.act with
  | .proceed _ => r.superseded tr.pre.m = true → SameSession r.sessionId tr.pre.m tr.post.m
  | _ => True

/-- No worker is brought back for a master that has been replaced. -/
def ReadinessRun.respawnsInTime : ReadinessAct → Bool
  | .proceed _ => match w.stage with
    | .record .. | .restore .. => !r.superseded w.m
    | _ => true
  | _ => true

/-- The session is not taken down with a newer master. -/
def ReadinessRun.killsInTime : ReadinessAct → Bool
  | .proceed _ => match w.stage with
    | .cascade _ => !r.superseded w.m || w.m.statusOf r.sessionId ≠ some .active
    | .cascadeKill (a :: _) _ =>
      !r.superseded w.m || (stateIn w.m.db r.sessionId a).all (!·.isUp)
    | _ => true
  | _ => true

variable {r w}

/-! ## What one step does -/

theorem SameSession.refl (s : String) (m : MasterDb) : SameSession s m m := ⟨rfl, fun _ => rfl⟩

theorem sameSession_updateWindow (s sessionId : String) (m : MasterDb)
    (guard : MasterRecoveryWindow → Bool) (f : MasterRecoveryWindow → MasterRecoveryWindow) :
    SameSession s m (updateWindow m sessionId guard f).2 := by
  unfold updateWindow
  split_ifs
  · exact ⟨rfl, fun _ => rfl⟩
  · exact .refl s m

theorem stateIn_modifyAgent (session : ∀ agent, (f agent).sessionId = agent.sessionId)
    (state : ∀ agent, (f agent).state = agent.state) (s a : String) :
    stateIn (db.modifyAgent agentId f) s a = stateIn db s a := by
  simp only [stateIn, Db.modifyAgent, Table.get?_modify]
  split_ifs
  · cases db.agents.get? a with
    | none => rfl
    | some agent => simp only [Option.map_some, Option.filter_some, session]; split_ifs <;> simp [state]
  · rfl

theorem stateIn_spawnPart (stored : StoredAgentSpawnSpec) (now : Int) (part : SpawnPart)
    (s a : String) : Keeps (fun db => stateIn db s a) (part.run stored now) := by
  cases part with
  | configHash hash =>
    refine .modify fun db => ?_
    exact stateIn_modifyAgent (fun _ => by rfl) (fun _ => by rfl) s a
  | spec written hash =>
    exact Keeps.bind (Keeps.attempt (keeps_persistSpec (fun _ _ => rfl) _ _ _)) fun _ => .pure _
  | snapshot =>
    refine Keeps.bind (keeps_persistSpec (fun _ _ => rfl) _ _ _) fun _ => ?_
    refine .modify fun db => ?_
    unfold clearRecoveryBackoffSync setRecoveryBackoff
    rw [stateIn_modifyAgent (fun _ => by rfl) (fun _ => by rfl),
      stateIn_modifyAgent (fun _ => by rfl) (fun _ => by rfl)]
  | spawnedEvent => exact keeps_insertEvent (fun _ _ => rfl) _ _ _ _

theorem stateIn_outcome {α : Type} {p : EStateM CcbdError Db α}
    (keeps : Keeps (fun db => stateIn db s a) p) (db : Db) :
    stateIn (outcome p db).2 s a = stateIn db s a := by
  have same := keeps db
  unfold Ends at same
  unfold outcome
  cases result : p db <;> rw [result] at same <;> exact same

theorem statusOf_cascade (m : MasterDb) (s : String) :
    MasterDb.statusOf { m with masters := (cascadeKillSession m.masters s).2 } s =
      if m.statusOf s = some .active then some .killed else m.statusOf s := by
  unfold MasterDb.statusOf cascadeKillSession
  rw [get?_updateMaster, if_pos rfl]
  rcases held : m.masters.get? s with _ | row
  · simp
  · cases status : row.status <;> simp [MasterRow.isActive, status]

theorem stateIn_markAgentKilled
    (h : markAgentKilledSync db agentId reason now = .ok (n, db')) (s a : String) :
    stateIn db' s a =
      if a = agentId then (stateIn db s a).map fun state => if state.isUp then .killed else state
      else stateIn db s a := by
  rcases markAgentKilledSyncInner_ok h with ⟨-, rfl, down⟩ | ⟨-, agent, row, crashed, killed, down⟩
  · split_ifs with own
    · subst own
      cases row : db'.agents.get? a with
      | none => simp [stateIn, row]
      | some agent =>
        have isDown : agent.state.isUp = false := by
          rcases down agent row with state | state <;> simp [state, AgentState.isUp]
        simp only [stateIn, row, Option.filter_some]
        split_ifs <;> simp [isDown]
    · rfl
  · simp only [stateIn, down.agents, Table.get?_modify]
    split_ifs with own
    · subst own
      have up : agent.state.isUp = true := by simp [AgentState.isUp, crashed, killed]
      simp only [row, Option.map_some, Option.filter_some, Agent.enter]
      split_ifs <;> simp [up]
    · rfl

open ReadinessRun

/-- A step of the run that brings no worker back spares the session exactly if it does not
take it down with a newer master. -/
theorem sparesNewer_step_iff (r : ReadinessRun) (w : ReadinessWorld) (a : ReadinessAct)
    (inTime : r.respawnsInTime w a = true) :
    r.SparesNewer ⟨w, a, r.apply w a⟩ ↔ r.killsInTime w a = true := by
  cases a with
  | master | window | workers => exact iff_of_true trivial rfl
  | proceed ans =>
    obtain ⟨m, stage⟩ := w
    -- The stages that write neither the status nor a state.
    have quiet : SameSession r.sessionId m (r.proceed ans ⟨m, stage⟩).m →
        (r.SparesNewer ⟨⟨m, stage⟩, .proceed ans, r.apply ⟨m, stage⟩ (.proceed ans)⟩ ↔
          true = true) :=
      fun same => iff_of_true (fun _ => same) rfl
    cases stage with
    | cascade reason =>
      have after : (r.proceed ans ⟨m, .cascade reason⟩).m =
          { m with masters := (cascadeKillSession m.masters r.sessionId).2 } := rfl
      simp only [SparesNewer, killsInTime, SameSession, apply, after, statusOf_cascade]
      split_ifs with active
      · simp [active]
      · simp [active]
    | cascadeKill agentIds reason =>
      cases agentIds with
      | nil => exact quiet (.refl _ _)
      | cons agentId rest =>
        obtain ⟨⟨n, db'⟩, killed⟩ := markAgentKilledSync_succeeds m.db agentId reason ans.now
        have after : (r.proceed ans ⟨m, .cascadeKill (agentId :: rest) reason⟩).m =
            { m with db := db' } := by
          simp [proceed, killed]
        simp only [SparesNewer, killsInTime, SameSession,
          apply, after, stateIn_markAgentKilled killed, Bool.or_eq_true,
          Bool.not_eq_true', ← Bool.not_eq_true, ← imp_iff_not_or]
        refine forall_congr' fun newer => ?_
        constructor
        · rintro ⟨-, same⟩
          have kept := same agentId
          cases found : stateIn m.db r.sessionId agentId with
          | none => rfl
          | some state =>
            rw [if_pos rfl, found, Option.map_some, Option.some.injEq] at kept
            split_ifs at kept with up
            · simp [← kept, AgentState.isUp] at up
            · simpa using up
        · intro down
          refine ⟨rfl, fun a => ?_⟩
          split_ifs with own
          · subst own
            cases found : stateIn m.db r.sessionId a with
            | none => rfl
            | some state =>
              rw [found] at down
              have isDown : state.isUp = false := by simpa using down
              simp [isDown]
          · rfl
    | record | restore =>
      refine iff_of_true (fun newer => ?_) rfl
      simp only [respawnsInTime, Bool.not_eq_true'] at inTime
      rw [inTime] at newer
      cases newer
    | begin =>
      refine quiet ?_
      simp only [proceed]
      split
      · exact .refl _ _
      · exact sameSession_updateWindow ..
    | markReady | markReprovisioning | complete | fail => exact quiet (sameSession_updateWindow ..)
    | finish parts stored rest intents =>
      cases parts with
      | nil => exact quiet (.refl _ _)
      | cons part parts =>
        exact quiet ⟨rfl, fun a =>
          stateIn_outcome (stateIn_spawnPart stored ans.now part r.sessionId a) m.db⟩
    | reprovision specs intents =>
      refine quiet ?_
      cases specs with
      | nil => exact .refl _ _
      | cons stored rest =>
        simp only [proceed]
        split <;> exact .refl _ _
    | polling | collectIntents | cascadeSelect | done => exact quiet (.refl _ _)
    | budget | querySpecs | gateBudget | cascadeStatus =>
      refine quiet ?_
      simp only [proceed]
      split <;> exact .refl _ _
    | querySession specs =>
      refine quiet ?_
      simp only [proceed]
      split_ifs
      · exact .refl _ _
      · split <;> exact .refl _ _
      · exact .refl _ _
    | gate workerIds =>
      refine quiet ?_
      simp only [proceed]
      split_ifs <;> exact .refl _ _

/-- In every interleaving in which the run brings no worker back late, it leaves the session
of a newer master alone exactly if it does not take the session down late. -/
theorem staleReadiness_iff {r : ReadinessRun} {w w' : ReadinessWorld}
    {ts : List (Transition ReadinessWorld ReadinessAct)} (run : Run r.Step w ts w')
    (inTime : ∀ tr ∈ ts, r.respawnsInTime tr.pre tr.act = true) :
    (∀ tr ∈ ts, r.SparesNewer tr) ↔ ∀ tr ∈ ts, r.killsInTime tr.pre tr.act = true := by
  have steps : ∀ tr ∈ ts, r.Step tr.pre tr.act tr.post :=
    run.forall_transition (C := fun _ _ => True) (fun _ _ _ _ _ _ => trivial)
      (fun _ _ _ _ _ step => step) trivial fun _ _ => trivial
  refine forall₂_congr fun tr mem => ?_
  obtain ⟨pre, act, post⟩ := tr
  obtain rfl : post = r.apply pre act := steps _ mem
  exact sparesNewer_step_iff r pre act (inTime _ mem)

/-- The daemon starts while the master of the second generation is waited for. -/
def rearmedRun : ReadinessRun where
  sessionId := "s1"
  expectedPid := 8
  runtimeExpectedGeneration := 2
  windowExpectedGeneration := 1
  beginReadinessToken := none
  check := .probe

def rearmedWorld : ReadinessWorld where
  m := .atWork ([WindowOp.begin "s1" 7 1 true 100 90,
    .beginReadiness "s1" 1 "probe" "s1:2" 104].foldl WindowOp.apply .oneSession).windows
  stage := .begin

def ReadinessAnswer.plainAt (now : Int) : ReadinessAnswer where
  now := now
  spawnEnv := .plain fun _ => ""
  spawn := { process := .ok 1, now := now }

/-- The wait begins; the master dies and its watcher revives it; the wait sees that its master
is gone and gives up. -/
def givenUp : List ReadinessAct :=
  [.proceed (.plainAt 110), .proceed (.plainAt 110), .window (.begin "s1" 8 2 true 111 90),
    .master (.tryClaim "s1" 8 2), .master (.completeClaimed "s1" 3 9 "%9"),
    .proceed (.plainAt 112), .proceed (.plainAt 112)]

theorem staleReadiness_givenUp :
    ∃ w, Run rearmedRun.Step rearmedWorld (trace rearmedRun.apply rearmedWorld givenUp) w ∧
      rearmedRun.superseded w.m = true ∧
      ((∀ tr ∈ trace rearmedRun.apply rearmedWorld givenUp, rearmedRun.SparesNewer tr) ↔
        ∀ tr ∈ trace rearmedRun.apply rearmedWorld givenUp,
          rearmedRun.killsInTime tr.pre tr.act = true) := by
  have run := Run.of_list (f := rearmedRun.apply) rearmedWorld givenUp
  exact ⟨_, run, by decide +kernel, staleReadiness_iff run (by decide +kernel)⟩

/-- The next step takes the session down. -/
def takenDown : List ReadinessAct := givenUp ++ [.proceed (.plainAt 112)]

theorem not_staleReadiness_takenDown :
    ∃ w, Run rearmedRun.Step rearmedWorld (trace rearmedRun.apply rearmedWorld takenDown) w ∧
      (w.m.masters.get? "s1").map (fun row => (row.masterPid, row.masterGeneration, row.status)) =
        some (9, 3, .killed) ∧
      ¬∀ tr ∈ trace rearmedRun.apply rearmedWorld takenDown, rearmedRun.SparesNewer tr := by
  have run := Run.of_list (f := rearmedRun.apply) rearmedWorld takenDown
  refine ⟨_, run, by decide +kernel, fun spares => ?_⟩
  have last := (sparesNewer_step_iff rearmedRun _ _ (by decide +kernel)).mp
    (spares _ (List.mem_of_getElem? (i := 7) rfl))
  revert last
  decide +kernel

end Ccbd.Master
