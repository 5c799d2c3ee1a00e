import Ccbd.Dispatch.Operations
import Ccbd.Orchestrator.Recovery

/-!
# Queued work across recovery

Deleting the row of an agent deletes its jobs. Recovery of a crashed agent and the
replacement of a killed one insert the interrupted job again, if one was captured, and no
other. So a QUEUED job survives exactly if the row is not deleted or the job is the
captured one.
-/

namespace Ccbd

open Lib

/-- A QUEUED job of the agent. -/
def Db.Queued (db : Db) (agentId jobId : String) (job : Job) : Prop :=
  db.jobs.get? jobId = some job ∧ job.agentId = agentId ∧ job.status = .queued

/-- Every QUEUED job of the agent is still QUEUED, with its prompt. -/
def QueuedKept (agentId : String) (db db' : Db) : Prop :=
  ∀ jobId job, db.Queued agentId jobId job → ∃ job', db'.jobs.get? jobId = some job' ∧
    job'.status = .queued ∧ job'.promptText = job.promptText

/-- An intent that was captured for the agent. -/
abbrev CapturedIntent (agentId : String) :=
  { intent : AgentRecoveryIntent // intent.agentId = agentId }

/-- The intent holds the job with its prompt, and asks to revive it. -/
def Restores {agentId : String} (intent : Option (CapturedIntent agentId)) (jobId : String)
    (job : Job) : Prop :=
  ∃ i captured, intent = some i ∧ i.1.action = .revive ∧ i.1.interruptedJobId.isSome ∧
    i.1.interruptedJob = some captured ∧ captured.id = jobId ∧
    captured.promptText = job.promptText

/-- The intent of the agent, as recovery reads it. -/
def capturedIntent (db : Db) (agentId : String) : Option (CapturedIntent agentId) :=
  (queryAgentRecoveryIntentSync db agentId).attach.map fun i =>
    ⟨i.1, agentId_of_queryAgentRecoveryIntentSync i.2⟩

/-! ## The interrupted job -/

variable {agent : Agent} {intent : AgentRecoveryIntent} {spec : AgentSpawnSpec} {now : Int}
    {job : Job} {stored : StoredAgentSpawnSpec} {configHash jobId : String}

theorem queryJobByRequestIdSync_eq_none
    (gone : ∀ j job, db.jobs.get? j = some job → job.agentId ≠ agentId) (requestId : String) :
    queryJobByRequestIdSync db agentId requestId = none := by
  rw [queryJobByRequestIdSync, List.head?_eq_none_iff, List.eq_nil_iff_forall_not_mem]
  rintro ⟨j, job⟩ hm
  obtain ⟨found, hp⟩ := Table.mem_select.mp hm
  simp [gone j job found] at hp

theorem reinsertCapturedJob_of_gone (own : intent.agentId = agentId)
    (row : (db.agents.get? agentId).isSome)
    (gone : ∀ j job, db.jobs.get? j = some job → job.agentId ≠ agentId)
    (hcaptured : intent.interruptedJob = some captured)
    (fresh : db.jobs.get? captured.id = none) (now : Int) :
    ∃ job t, job.agentId = intent.agentId ∧ job.status = .queued ∧
      job.promptText = captured.promptText ∧ reinsertCapturedJob db intent now =
        .ok (1, { db with jobs := db.jobs.insert captured.id job }.appendJobTransition t) := by
  subst own
  refine reinsertCapturedJob_of_free hcaptured ?_ fresh row now
  exact Option.bind_eq_none_iff.mpr fun r _ => queryJobByRequestIdSync_eq_none gone r

/-- The captured job is the only one the insertion puts back. -/
theorem reinsertCapturedJob_restores_iff (own : intent.agentId = agentId)
    (row : (db.agents.get? agentId).isSome)
    (gone : ∀ j job, db.jobs.get? j = some job → job.agentId ≠ agentId)
    (absent : db.jobs.get? jobId = none) (job : Job) (now : Int) :
    (∃ job', (commit (reinsertCapturedJob db intent now) db).jobs.get? jobId = some job' ∧
        job'.status = .queued ∧ job'.promptText = job.promptText) ↔
      ∃ captured, intent.interruptedJob = some captured ∧ captured.id = jobId ∧
        captured.promptText = job.promptText := by
  constructor
  · rintro ⟨job', found, -, prompt⟩
    cases hr : reinsertCapturedJob db intent now with
    | error =>
      rw [hr] at found
      exact absurd (absent.symm.trans found) (by simp)
    | ok r =>
      rw [hr] at found
      rcases reinsertCapturedJob_ok hr with e | ⟨captured, new, t, hc, fresh, -, -, hp, e⟩
      · exact absurd (absent.symm.trans ((congrArg (·.jobs.get? jobId) e).symm.trans found))
          (by simp)
      · have get : (db.jobs.insert captured.id new).get? jobId = some job' :=
          (congrArg (·.jobs.get? jobId) e).symm.trans found
        rw [Table.get?_insert fresh, absent] at get
        split_ifs at get with same
        cases get
        exact ⟨captured, hc, same.symm, hp.symm.trans prompt⟩
  · rintro ⟨captured, hc, rfl, prompt⟩
    obtain ⟨new, t, -, queued, hp, hr⟩ := reinsertCapturedJob_of_gone own row gone hc absent now
    rw [hr]
    exact ⟨new, (Table.get?_insert absent new _).trans (if_pos rfl), queued, hp.trans prompt⟩

theorem requeueCapturedIntent_restores_iff (row : (db.agents.get? agentId).isSome)
    (gone : ∀ j job, db.jobs.get? j = some job → job.agentId ≠ agentId)
    (intent : Option (CapturedIntent agentId)) (absent : db.jobs.get? jobId = none) (job : Job)
    (now : Int) :
    (∃ job', (commit (requeueCapturedIntent db now (intent.map Subtype.val)) db).jobs.get? jobId =
        some job' ∧ job'.status = .queued ∧ job'.promptText = job.promptText) ↔
      Restores intent jobId job := by
  have unchanged : ¬∃ job', db.jobs.get? jobId = some job' ∧ job'.status = .queued ∧
      job'.promptText = job.promptText := by
    rintro ⟨job', found, -⟩
    rw [absent] at found
    cases found
  cases intent with
  | none =>
    refine iff_of_false unchanged ?_
    rintro ⟨i, captured, e, -⟩
    cases e
  | some i =>
    obtain ⟨i, own⟩ := i
    have restores : Restores (some ⟨i, own⟩) jobId job ↔ i.action = .revive ∧
        i.interruptedJobId.isSome ∧ ∃ captured, i.interruptedJob = some captured ∧
          captured.id = jobId ∧ captured.promptText = job.promptText := by
      simp [Restores]
    rw [restores, Option.map_some, requeueCapturedIntent]
    obtain ⟨idle, none⟩ | ⟨interrupted, revive, hid, ⟨job₁, _, found, -, own₁, -⟩ |
        ⟨-, inserts⟩⟩ := requeueInterruptedJobFromCapturedIntentSync_cases db i now
    · rw [none]
      exact iff_of_false unchanged fun h => by simp [idle h.1] at h
    · exact absurd (own₁.trans own) (gone interrupted job₁ found)
    · rw [inserts]
      simp only [hid, revive, Option.isSome_some, true_and]
      exact reinsertCapturedJob_restores_iff own row gone absent job now

/-! ## The steps that leave the jobs alone -/

section Frame

variable (agentId : String)

theorem aside_jobs : Aside agentId Db.jobs :=
  ⟨fun _ _ => rfl, fun _ _ => rfl, fun _ _ => rfl, fun _ _ _ => rfl⟩

theorem jobs_restoreCrashedRow (agent : Agent) (configHash : String) (now : Int) (db : Db) :
    (restoreCrashedRow agentId agent configHash now db).2.jobs = db.jobs := by
  rcases restoreCrashedRow_cases agentId agent configHash now db with same | written
  · rw [same]
  · exact written.jobs

/-- A failed respawn is followed by steps that leave the jobs alone. -/
theorem keeps_settleRespawn_error (agent : Agent) (stored : StoredAgentSpawnSpec)
    (capturedIntent : Option AgentRecoveryIntent) (now : Int) (e : CcbdError) :
    Keeps Db.jobs (settleRespawn agentId agent stored capturedIntent now (.error e)) := by
  refine Keeps.bind (Keeps.bind (Keeps.ofStep (jobs_restoreCrashedRow agentId agent _ now)) fun _ =>
    keeps_persistSpec (fun _ _ => rfl) _ _ _) fun _ =>
      Keeps.bind (Keeps.modify fun _ => rfl) fun _ => ?_
  cases capturedIntent with
  | none => exact Keeps.pure _
  | some intent => exact (aside_jobs agentId).storeIntent intent now

end Frame

/-! ## Recovery of a crashed agent -/

section Recovery

variable {db : Db} {agentId : String}

theorem queuedKept_refl : QueuedKept agentId db db :=
  fun _ job h => ⟨job, h.1, h.2.2, rfl⟩

theorem queuedKept_congr (jobs : db₂.jobs = db₁.jobs) :
    QueuedKept agentId db db₂ ↔ QueuedKept agentId db db₁ := by
  rw [QueuedKept, QueuedKept, jobs]

theorem get?_cascadeAgent_of_queued (h : db.Queued agentId jobId job) :
    (db.cascadeAgent agentId).jobs.get? jobId = none := by
  simp [Db.get?_cascadeAgent_jobs, h.1, h.2.1]

theorem agentId_ne_of_cascadeAgent (h : (db.cascadeAgent agentId).jobs.get? jobId = some job) :
    job.agentId ≠ agentId := by
  rw [Db.get?_cascadeAgent_jobs, Option.filter_eq_some_iff] at h
  simpa using h.2

theorem queuedKept_cascadeAgent (jobs : db'.jobs = (db.cascadeAgent agentId).jobs) :
    QueuedKept agentId db db' ↔ ∀ jobId job, ¬db.Queued agentId jobId job := by
  constructor
  · intro kept jobId job h
    obtain ⟨job', found, -⟩ := kept jobId job h
    rw [jobs, get?_cascadeAgent_of_queued h] at found
    cases found
  · intro none jobId job h
    exact absurd h (none jobId job)

theorem queuedKept_requeue (jobs : db'.jobs = (db.cascadeAgent agentId).jobs)
    (row : (db'.agents.get? agentId).isSome) (intent : Option (CapturedIntent agentId))
    (now : Int) :
    QueuedKept agentId db
        (commit (requeueCapturedIntent db' now (intent.map Subtype.val)) db') ↔
      ∀ jobId job, db.Queued agentId jobId job → Restores intent jobId job := by
  have gone : ∀ j job, db'.jobs.get? j = some job → job.agentId ≠ agentId :=
    fun j job h => agentId_ne_of_cascadeAgent (jobs ▸ h)
  have restored : ∀ jobId job, db.Queued agentId jobId job → _ := fun jobId job h =>
    requeueCapturedIntent_restores_iff row gone intent (jobs ▸ get?_cascadeAgent_of_queued h) job
      now
  constructor
  · intro kept jobId job h
    exact (restored jobId job h).mp (kept jobId job h)
  · intro all jobId job h
    exact (restored jobId job h).mpr (all jobId job h)

/-- The respawn returns Ok on the database without the agent. -/
def RespawnReturns (respawn : RecoveryRespawn) (db : Db) (agentId : String) : Prop :=
  ∀ agent stored, recoverySnapshot db agentId = .ok (agent, stored) →
    Ends (respawn.run agent.sessionId stored.respawnParams stored.configHash)
      (db.cascadeAgent agentId) fun r _ => r = .ok ()

theorem ends_settle_error (jobs : db'.jobs = (db.cascadeAgent agentId).jobs) (agent : Agent)
    (stored : StoredAgentSpawnSpec) (intent : Option AgentRecoveryIntent) (now : Int)
    (e : CcbdError) (context : Option CrashContext) (action : Option RecoveryIntentAction) :
    Ends (do
        settleRespawn agentId agent stored intent now (.error e)
        applyRecoverySpawnResultWithAction agentId (.error e) now context action) db'
      (fun _ db'' => QueuedKept agentId db db'') ↔ ∀ jobId job, ¬db.Queued agentId jobId job := by
  have keeps := Keeps.bind (keeps_settleRespawn_error agentId agent stored intent now e) fun _ =>
    (aside_jobs agentId).applyResult (.error e) now context action
  rw [keeps.ends_iff fun _ => queuedKept_congr, queuedKept_cascadeAgent jobs]

theorem ends_settle_ok (jobs : db'.jobs = (db.cascadeAgent agentId).jobs)
    (row : (db'.agents.get? agentId).isSome) (agent : Agent) (stored : StoredAgentSpawnSpec)
    (intent : Option (CapturedIntent agentId)) (now : Int) (context : Option CrashContext)
    (action : Option RecoveryIntentAction) :
    Ends (do
        settleRespawn agentId agent stored (intent.map Subtype.val) now (.ok ())
        applyRecoverySpawnResultWithAction agentId (.ok ()) now context action) db'
      (fun _ db'' => QueuedKept agentId db db'') ↔
        ∀ jobId job, db.Queued agentId jobId job → Restores intent jobId job := by
  have row' : ((setRecoveryBackoff db' agentId agent.backoff).agents.get? agentId).isSome := by
    obtain ⟨found, h⟩ := Option.isSome_iff_exists.mp row
    simp [setRecoveryBackoff, h]
  have jobs' : (setRecoveryBackoff db' agentId agent.backoff).jobs =
      (db.cascadeAgent agentId).jobs := jobs
  rw [← queuedKept_requeue jobs' row' intent now]
  simp only [settleRespawn, ends_bind, ends_modify, ends_atomic]
  cases requeueCapturedIntent (setRecoveryBackoff db' agentId agent.backoff) now
      (intent.map Subtype.val) with
  | error => rfl
  | ok r =>
    exact ((aside_jobs agentId).applyResult (.ok ()) now context action).ends_iff
      fun _ => queuedKept_congr

theorem respawnReturns_iff (snapshot : recoverySnapshot db agentId = .ok (agent, stored))
    (respawn : RecoveryRespawn) :
    RespawnReturns respawn db agentId ↔
      Ends (respawn.run agent.sessionId stored.respawnParams stored.configHash)
        (db.cascadeAgent agentId) fun r _ => r = .ok () := by
  constructor
  · intro h
    exact h agent stored snapshot
  · intro h agent' stored' snapshot'
    rw [snapshot] at snapshot'
    cases snapshot'
    exact h

theorem ends_respawn_iff (snapshot : recoverySnapshot db agentId = .ok (agent, stored))
    (respawn : RecoveryRespawn) (intent : Option (CapturedIntent agentId)) (now : Int)
    (context : Option CrashContext) (action : Option RecoveryIntentAction) :
    Ends (do
        let spawnResult ← attempt (respawn.run agent.sessionId stored.respawnParams
          stored.configHash)
        settleRespawn agentId agent stored (intent.map Subtype.val) now spawnResult
        applyRecoverySpawnResultWithAction agentId spawnResult now context action)
      (db.cascadeAgent agentId) (fun _ db' => QueuedKept agentId db db') ↔
        ∀ jobId job, db.Queued agentId jobId job →
          RespawnReturns respawn db agentId ∧ Restores intent jobId job := by
  obtain ⟨-, -, own⟩ := recoverySnapshot_ok snapshot
  have spawns := respawn.spawns agent.sessionId stored.respawnParams stored.configHash
    (db.cascadeAgent agentId)
    (by simp [Db.get?_cascadeAgent_agents, StoredAgentSpawnSpec.respawnParams, own])
  rw [respawnReturns_iff snapshot, ends_bind, ends_attempt]
  unfold Ends at spawns ⊢
  cases hrun : respawn.run agent.sessionId stored.respawnParams stored.configHash
      (db.cascadeAgent agentId) with
  | ok u db' =>
    rw [hrun] at spawns
    have row : (db'.agents.get? agentId).isSome := own ▸ spawns.2 rfl
    exact (ends_settle_ok spawns.1 row agent stored intent now context action).trans (by simp)
  | error e db' =>
    rw [hrun] at spawns
    exact (ends_settle_error spawns.1 agent stored _ now e context action).trans (by simp)

/-- Recovery of an agent keeps its queued work exactly if it fails before the row is
deleted, or every QUEUED job is the captured one and the respawn returns. -/
theorem queuedKept_recover_iff (respawn : RecoveryRespawn)
    (intent : Option (CapturedIntent agentId)) (now : Int) :
    Ends (recoverCrashedAgentFromSnapshotWithRespawnAndIntent respawn agentId
        (intent.map Subtype.val) now) db (fun _ db' => QueuedKept agentId db db') ↔
      db.agents.get? agentId = none ∨ db.agentSpawnSpecs.get? agentId = none ∨
        db.cascadeBlocked agentId = true ∨
        ∀ jobId job, db.Queued agentId jobId job →
          RespawnReturns respawn db agentId ∧ Restores intent jobId job := by
  rw [recoverCrashedAgentFromSnapshotWithRespawnAndIntent, ends_bind, ends_atomic]
  cases snapshot : recoverySnapshot db agentId with
  | error =>
    refine iff_of_true queuedKept_refl ?_
    rcases recoverySnapshot_error snapshot with h | h
    · exact .inl h
    · exact .inr (.inl h)
  | ok r =>
    obtain ⟨found, spec, -⟩ := recoverySnapshot_ok snapshot
    rw [or_iff_right (by simp [found]), or_iff_right (Option.isSome_iff_ne_none.mp spec)]
    refine ends_bind.trans (ends_atomically.trans ?_)
    simp only [deleteAgentSync, Db.deleteAgent, found]
    by_cases blocked : db.cascadeBlocked agentId = true
    · rw [if_pos blocked]
      exact iff_of_true queuedKept_refl (.inl blocked)
    · rw [if_neg blocked, or_iff_right blocked]
      exact ends_respawn_iff snapshot respawn intent now _ _

/-! ## Replacement of a killed agent -/

theorem queuedKept_replace_iff {intent : Option (CapturedIntent spec.agentId)}
    (h : replaceKilledAgentAndRequeueJobSync db sessionId spec configHash pid
      (intent.map Subtype.val) now = .ok (n, db')) :
    QueuedKept spec.agentId db db' ↔
      ∀ jobId job, db.Queued spec.agentId jobId job → Restores intent jobId job := by
  obtain ⟨db₁, spawned, requeued⟩ := spawned_of_replaceKilledAgent h
  have jobs : db₁.jobs = (db.cascadeAgent spec.agentId).jobs := by
    rw [spawned.jobs, Db.get?_cascadeAgent_agents]
    simp
  have kept := queuedKept_requeue jobs spawned.isSome intent now
  rwa [requeued] at kept

end Recovery

/-! ## Both paths -/

/-- No QUEUED job is lost when a CRASHED agent is recovered, whatever its respawn answers,
nor when a KILLED one is replaced. -/
def RecoveryKeepsQueued : Prop :=
  (∀ (respawn : RecoveryRespawn) (db : Db) (agentId : String)
      (intent : Option (CapturedIntent agentId)) (now : Int),
    db.stateOf agentId = some .crashed →
      Ends (recoverCrashedAgentFromSnapshotWithRespawnAndIntent respawn agentId
        (intent.map Subtype.val) now) db fun _ db' => QueuedKept agentId db db') ∧
  ∀ (db db' : Db) (sessionId configHash : String) (spec : AgentSpawnSpec) (pid now : Int)
      (intent : Option (CapturedIntent spec.agentId)) (n : Nat),
    replaceKilledAgentAndRequeueJobSync db sessionId spec configHash pid
        (intent.map Subtype.val) now = .ok (n, db') → QueuedKept spec.agentId db db'

/-- Recovery keeps the QUEUED jobs of the agent exactly if it stops before the row is
deleted, or the respawn returns and the only QUEUED job is the captured one; a replacement
that goes through keeps them exactly if the only one is the captured one. -/
theorem queuedKept_iff (db : Db) (now : Int) :
    (∀ (respawn : RecoveryRespawn) (agentId : String) (intent : Option (CapturedIntent agentId)),
      Ends (recoverCrashedAgentFromSnapshotWithRespawnAndIntent respawn agentId
          (intent.map Subtype.val) now) db (fun _ db' => QueuedKept agentId db db') ↔
        db.agents.get? agentId = none ∨ db.agentSpawnSpecs.get? agentId = none ∨
          db.cascadeBlocked agentId = true ∨
          ∀ jobId job, db.Queued agentId jobId job →
            RespawnReturns respawn db agentId ∧ Restores intent jobId job) ∧
    ∀ (db' : Db) (sessionId configHash : String) (spec : AgentSpawnSpec) (pid : Int)
        (intent : Option (CapturedIntent spec.agentId)) (n : Nat),
      replaceKilledAgentAndRequeueJobSync db sessionId spec configHash pid
          (intent.map Subtype.val) now = .ok (n, db') →
        (QueuedKept spec.agentId db db' ↔
          ∀ jobId job, db.Queued spec.agentId jobId job → Restores intent jobId job) :=
  ⟨fun respawn _ intent => queuedKept_recover_iff respawn intent now,
    fun _ _ _ _ _ _ _ h => queuedKept_replace_iff h⟩

/-- The operations on the idle agent with a stored spec. -/
def specAgentDb (ops : List DbOp) : Db :=
  ops.foldl DbOp.apply { idleAgentDb with
    agentSpawnSpecs := Table.empty.insert "a1"
      { provider := "claude", configHash := "h1", spec := { provider := "claude" }
        updatedAt := 0 } }

/-- The agent is killed with its master while it runs its only job, and the job is put back into
the queue. -/
def killedDb : Db :=
  let killed := specAgentDb [.dispatchQueuedJob "a1" 1, .markKilled "a1" "MASTER_DEATH" true 2]
  commit (requeueCapturedIntent killed 3 ((capturedIntent killed "a1").map Subtype.val)) killed

/-- The agent crashes on its first job while a second one is queued. -/
def crashedDb : Db :=
  specAgentDb [.dispatchQueuedJob "a1" 1, .insertJob "j2" "a1" none "next" 2,
    .markCrashed "a1" none "AGENT_UNEXPECTED_EXIT" 3]

/-- The only job in the queue is the captured one, and it is there after the replacement. -/
theorem queuedKept_killed :
    killedDb.statusOf "j1" = some .queued ∧
      QueuedKept "a1" killedDb (commit (replaceKilledAgentAndRequeueJobSync killedDb "s1"
        { provider := "claude", agentId := "a1" } "h1" 20
        ((capturedIntent killedDb "a1").map Subtype.val) 4) killedDb) := by
  have only : ∀ row ∈ killedDb.jobs.rows, row.1 = "j1" ∧ row.2.promptText = "task" := by decide
  refine ⟨by decide, ((queuedKept_iff killedDb 4).2 _ "s1" "h1"
    { provider := "claude", agentId := "a1" } 20 (capturedIntent killedDb "a1") 1 rfl).mpr ?_⟩
  intro jobId job queued
  obtain ⟨rfl, prompt⟩ := only (jobId, job) (Table.get?_eq_some_iff.mp queued.1)
  exact ⟨_, _, rfl, rfl, rfl, rfl, rfl, prompt.symm⟩

/-- The second job goes with the row of the crashed agent; only the first comes back. -/
theorem not_recoveryKeepsQueued : ¬RecoveryKeepsQueued := by
  rintro ⟨kept, -⟩
  let respawn := spawnRealignAgentForRecovery (.plain fun _ => "h1") { process := .ok 20, now := 4 }
  have recovered := kept respawn crashedDb "a1" (capturedIntent crashedDb "a1") 4 (by decide)
  rcases (queuedKept_recover_iff respawn _ 4).mp recovered with row | spec | blocked | restored
  · exact absurd row (by decide)
  · exact absurd (congrArg Option.isSome spec) (by decide)
  · exact absurd blocked (by decide)
  · obtain ⟨-, i, captured, e, -, -, hc, hid, -⟩ := restored "j2" _ ⟨rfl, rfl, rfl⟩
    have first : ((capturedIntent crashedDb "a1").bind (·.1.interruptedJob)).map (·.id) =
      some "j1" := by decide
    rw [e, Option.bind_some, hc, Option.map_some, hid] at first
    exact absurd first (by decide)

end Ccbd
