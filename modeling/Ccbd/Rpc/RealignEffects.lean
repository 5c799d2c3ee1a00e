import Ccbd.Rpc.Realign

/-!
# What a turn of the realign loop does

A turn changes the row and the jobs of its own agent only, and no job in any way but to
fail or delete it. The two respawns leave no job of the agent; the other turns change a job
only when a KILLED row is replaced.
-/

namespace Ccbd

open Lib

/-! ## Decisions and digests -/

theorem lookup_runningAgentHashes :
    (runningAgentHashes db sessionId).lookup agentId = some row ↔
      db.agents.get? agentId = some row ∧ row.sessionId = sessionId ∧ row.state ≠ .killed := by
  simp [runningAgentHashes, Table.lookup_selectOrderBy]

variable {force : Bool} {running : Option Agent} {hash : String}

theorem realignDecision_eq_spawnNew :
    realignDecision running hash force = .spawnNew ↔ running = none := by
  cases running with
  | none => simp [realignDecision]
  | some row =>
    simp only [realignDecision]
    split_ifs <;> simp

theorem realignDecision_eq_respawnCrashed :
    realignDecision running hash force = .respawnCrashed ↔
      ∃ row, running = some row ∧ row.state = .crashed := by
  cases running with
  | none => simp [realignDecision]
  | some row =>
    simp only [realignDecision]
    split_ifs with crashed <;> simp [crashed]

theorem realignDecision_eq_upToDate :
    realignDecision running hash force = .upToDate ↔
      ∃ row, running = some row ∧ row.state ≠ .crashed ∧ row.configHash = some hash := by
  cases running with
  | none => simp [realignDecision]
  | some row =>
    simp only [realignDecision]
    split_ifs with crashed same <;> simp [*]

/-- The declared agent `agent`, with the digest the call computes for its bundles. -/
def Populated (env : SpawnEnv) (session : Session) (agent agent' : RealignAgentParams) : Prop :=
  ∃ digest, populateBundleDigest (env.files session.absolutePath) .worker agent.bundle
    agent.bundleDigest = .ok digest ∧ agent' = { agent with bundleDigest := digest }

theorem openRealign_ok (h : openRealign env req db = .ok (session, req')) :
    db.sessions.get? req.sessionId = some session ∧
      (req'.force = req.force ∧ req'.sessionId = req.sessionId ∧ req'.configEnv = req.configEnv) ∧
      req'.agents.length = req.agents.length ∧
      ∀ (i : Nat) (entry : RealignAgentParams × SpawnAnswers), req.agents[i]? = some entry →
        ∃ agent', req'.agents[i]? = some (agent', entry.2) ∧
          Populated env session entry.1 agent' := by
  unfold openRealign at h
  split at h
  · cases h
  rename_i session' hs
  obtain ⟨req₁, hreq, h⟩ := bind_eq_ok.mp h
  cases h
  obtain ⟨digest, -, hreq⟩ := bind_eq_ok.mp hreq
  obtain ⟨agents, hagents, hreq⟩ := bind_eq_ok.mp hreq
  cases hreq
  have each := mapM_eq_ok.mp hagents
  refine ⟨hs, ⟨rfl, rfl, rfl⟩, each.length_eq.symm, fun i entry hentry => ?_⟩
  obtain ⟨hi, rfl⟩ := List.getElem?_eq_some_iff.mp hentry
  have hi' : i < agents.length := each.length_eq ▸ hi
  obtain ⟨d, hd, populated⟩ := bind_eq_ok.mp (each.get hi hi')
  exact ⟨_, List.getElem?_eq_some_iff.mpr ⟨hi', (Except.ok.inj populated).symm⟩, d, hd, rfl⟩

theorem realignMaster_unforced (env : SpawnEnv) (force : req.force = false) (session : Session)
    (respawnMaster : EStateM CcbdError Db Bool) :
    ∃ status, realignMaster env req session respawnMaster = pure (status, true) := by
  unfold realignMaster
  simp only [force, Bool.false_eq_true, ↓reduceIte]
  split_ifs
  · exact ⟨_, rfl⟩
  · exact ⟨_, rfl⟩
  · exact ⟨_, rfl⟩

theorem keeps_realignMaster (env : SpawnEnv) (req : RealignRequest) (session : Session)
    (keeps : Keeps Db.agents respawnMaster) :
    Keeps Db.agents (realignMaster env req session respawnMaster) := by
  unfold realignMaster
  split_ifs
  · exact .pure _
  · exact .pure _
  · exact keeps.bind fun _ => .pure _
  · exact .pure _

theorem forEach_realignOrphan_unforced (now : Int) (orphans : List (String × Agent)) :
    forEach (realignOrphan false now) orphans =
      pure (orphans.map fun row => .agent row.1 (.orphan false)) :=
  forEach_pure _ orphans

/-! ## Effects -/

/-- From `db` to `db'` only the agent's own row and jobs changed, and a job that is still
there is as it was, or FAILED. -/
structure OnlyAgent (agentId : String) (db db' : Db) : Prop where
  agents : ∀ b, b ≠ agentId → db'.agents.get? b = db.agents.get? b
  spares : ∀ j job, db.jobs.get? j = some job → job.agentId ≠ agentId →
    db'.jobs.get? j = some job
  kept : ∀ j job, db'.jobs.get? j = some job → job.status = .failed ∨ db.jobs.get? j = some job

namespace OnlyAgent

theorem of_eq (agents : db'.agents = db.agents) (jobs : db'.jobs = db.jobs) :
    OnlyAgent agentId db db' where
  agents b _ := by rw [agents]
  spares j job h _ := by rw [jobs, h]
  kept j job h := .inr (jobs ▸ h)

theorem refl (agentId : String) (db : Db) : OnlyAgent agentId db db := of_eq rfl rfl

theorem trans (h : OnlyAgent agentId db db') (h' : OnlyAgent agentId db' db'') :
    OnlyAgent agentId db db'' where
  agents b hb := (h'.agents b hb).trans (h.agents b hb)
  spares j job hj hne := h'.spares j job (h.spares j job hj hne) hne
  kept j job hj := by
    rcases h'.kept j job hj with failed | hj
    · exact .inl failed
    · exact h.kept j job hj

theorem cascadeAgent (agentId : String) (db : Db) :
    OnlyAgent agentId db (db.cascadeAgent agentId) where
  agents b hb := by simp [Db.get?_cascadeAgent_agents, hb]
  spares j job hj hne := by simp [Db.get?_cascadeAgent_jobs, hj, hne]
  kept j job hj := by
    rw [Db.get?_cascadeAgent_jobs] at hj
    exact .inr (Option.eq_some_of_filter_eq_some hj)

theorem goesDown (h : GoesDown db agentId reason now f db') : OnlyAgent agentId db db' where
  agents b hb := by rw [h.agents, Table.get?_modify_of_ne _ _ hb]
  spares j job hj hne := by simp [h.jobs, hj, hne]
  kept j job hj := by
    rw [h.jobs] at hj
    obtain ⟨old, hold, rfl⟩ := Option.map_eq_some_iff.mp hj
    split_ifs
    · exact .inl rfl
    · exact .inr hold

theorem spawned {P : Agent → Prop} (h : Spawned db agentId P db') : OnlyAgent agentId db db' := by
  by_cases row : (db.agents.get? agentId).isSome = true
  · have jobs : db'.jobs = (db.cascadeAgent agentId).jobs := h.jobs.trans (if_pos row)
    have cascade := cascadeAgent agentId db
    exact ⟨h.others, jobs ▸ cascade.spares, jobs ▸ cascade.kept⟩
  · have jobs : db'.jobs = db.jobs := h.jobs.trans (if_neg row)
    exact ⟨h.others, fun j job hj _ => jobs ▸ hj, fun j job hj => .inr (jobs ▸ hj)⟩

end OnlyAgent

/-- No job of the agent is left. -/
def Db.NoJobs (db : Db) (agentId : String) : Prop :=
  ∀ j job, db.jobs.get? j = some job → job.agentId ≠ agentId

theorem noJobs_cascadeAgent (db : Db) (agentId : String) :
    (db.cascadeAgent agentId).NoJobs agentId := by
  intro j job hj
  rw [Db.get?_cascadeAgent_jobs, Option.filter_eq_some_iff] at hj
  simpa using hj.2

theorem Spawned.noJobs {P : Agent → Prop}
    (h : Spawned db agentId P db') (none : db.NoJobs agentId) : db'.NoJobs agentId := by
  intro j job hj
  rw [h.jobs] at hj
  split_ifs at hj
  · exact noJobs_cascadeAgent db agentId j job hj
  · exact none j job hj

/-- The effect of deleting and respawning an agent that has a row. -/
structure Respawned (agentId : String) (db : Db) (r : Except CcbdError AgentStatus) (db' : Db) :
    Prop where
  only : OnlyAgent agentId db db'
  replaced : ∀ status, r = .ok status → (db.agents.get? agentId).isSome →
    (db'.agents.get? agentId).isSome ∧ db'.NoJobs agentId

/-- `db'` has the agents and the jobs of `db`. -/
def SameWork (db db' : Db) : Prop :=
  db'.agents = db.agents ∧ db'.jobs = db.jobs

theorem ends_insertEvent_sameWork (agentId eventType : String) (payload : Json) (now : Int)
    (db : Db) :
    Ends (insertEvent agentId eventType payload now) db fun _ db' => SameWork db db' := by
  refine ends_bind.mpr (ends_atomic.mpr ?_)
  cases h : insertEventSync db agentId none eventType payload now with
  | error => exact ⟨rfl, rfl⟩
  | ok r =>
    obtain ⟨n, db'⟩ := r
    obtain ⟨events, rfl⟩ := insertEventSync_ok h
    exact ⟨rfl, rfl⟩

theorem ends_realigned (agentId reason : String) (now : Int) (db : Db) :
    Ends (realigned agentId reason now) db fun _ db' => SameWork db db' := by
  refine ends_bind.mpr ((ends_insertEvent_sameWork ..).mono fun r db' same => ?_)
  cases r <;> exact same

/-- The turn of an agent whose row is replaced. -/
def deleteAndRespawn (env : SpawnEnv) (sessionId : String) (agent : RealignAgentParams)
    (hash reason : String) (isRecovery : Bool) (configEnv : Table String String)
    (ans : SpawnAnswers) : EStateM CcbdError Db AgentStatus := do
  atomically fun db => deleteAgentSync db agent.agentId
  spawnRealignAgent env sessionId agent hash true isRecovery configEnv none ans
  realigned agent.agentId reason ans.now

theorem ends_deleteAndRespawn (env : SpawnEnv) (sessionId : String) (agent : RealignAgentParams)
    (hash reason : String) (isRecovery : Bool) (configEnv : Table String String)
    (ans : SpawnAnswers) (db : Db) :
    Ends (deleteAndRespawn env sessionId agent hash reason isRecovery configEnv ans) db
      (Respawned agent.agentId db) := by
  refine ends_bind.mpr (ends_atomically.mpr ?_)
  cases hd : deleteAgentSync db agent.agentId with
  | error => exact ⟨.refl .., nofun⟩
  | ok db₁ =>
    have deleted : OnlyAgent agent.agentId db db₁ ∧
        ((db.agents.get? agent.agentId).isSome → db₁.NoJobs agent.agentId) := by
      obtain ⟨absent, rfl⟩ | rfl := Db.deleteAgent_ok hd
      · exact ⟨.refl .., fun h => by simp [absent] at h⟩
      · exact ⟨.cascadeAgent .., fun _ => noJobs_cascadeAgent _ _⟩
    refine ends_bind.mpr ((ends_spawnRealignAgent ..).mono fun r db₂ spawned => ?_)
    cases r with
    | error =>
      obtain rfl : db₂ = db₁ := spawned
      exact ⟨deleted.1, nofun⟩
    | ok =>
      have respawned : Spawned db₁ agent.agentId _ db₂ := spawned
      refine (ends_realigned ..).mono fun r db₃ same => ?_
      refine ⟨deleted.1.trans ((OnlyAgent.spawned respawned).trans (.of_eq same.1 same.2)), ?_⟩
      intro status _ row
      refine ⟨same.1 ▸ respawned.isSome, ?_⟩
      have none := respawned.noJobs (deleted.2 row)
      rw [Db.NoJobs] at none ⊢
      rwa [same.2]

theorem markAgentKilledSync_only (h : markAgentKilledSync db agentId reason now = .ok (n, db')) :
    OnlyAgent agentId db db' ∧
      ((db.agents.get? agentId).isSome → (db'.agents.get? agentId).isSome) := by
  rcases markAgentKilledSyncInner_ok h with ⟨-, rfl, -⟩ | ⟨-, agent, hagent, -, -, down⟩
  · exact ⟨.refl .., id⟩
  · refine ⟨.goesDown down, fun _ => ?_⟩
    simp [down.agents, hagent]

theorem ends_killAndRespawn (env : SpawnEnv) (sessionId : String) (agent : RealignAgentParams)
    (hash destructiveReason reason : String) (isRecovery : Bool)
    (configEnv : Table String String) (ans : SpawnAnswers) (db : Db) :
    Ends (do
        let _ ← atomic fun db => markAgentKilledSync db agent.agentId destructiveReason ans.now
        deleteAndRespawn env sessionId agent hash reason isRecovery configEnv ans) db
      (Respawned agent.agentId db) := by
  refine ends_bind.mpr (ends_atomic.mpr ?_)
  obtain ⟨⟨n, db₁⟩, killed⟩ :=
    markAgentKilledSync_succeeds db agent.agentId destructiveReason ans.now
  have ⟨only, row⟩ := markAgentKilledSync_only killed
  simp only [killed]
  refine (ends_deleteAndRespawn ..).mono fun r db₂ respawned => ?_
  exact ⟨only.trans respawned.only, fun status hr h => respawned.replaced status hr (row h)⟩

/-- The effect of a turn, by what was decided for the agent. -/
def TurnEffect (agentId : String) (decision : RealignDecision) (db : Db)
    (r : Except CcbdError AgentStatus) (db' : Db) : Prop :=
  match decision with
  | .spawnNew => SpawnEnds db agentId (·.state = .spawning) r db'
  | .upToDate | .skipBusy => SameWork db db'
  | .respawnCrashed | .respawnDrifted => Respawned agentId db r db'

theorem TurnEffect.only (h : TurnEffect agentId decision db r db') : OnlyAgent agentId db db' := by
  cases decision with
  | spawnNew =>
    cases r with
    | ok => exact .spawned h
    | error =>
      obtain rfl : db' = db := h
      exact .refl ..
  | upToDate | skipBusy => exact .of_eq h.1 h.2
  | respawnCrashed | respawnDrifted => exact Respawned.only h

theorem ends_realignAgent (env : SpawnEnv) (req : RealignRequest) (running : List (String × Agent))
    (entry : RealignAgentParams × SpawnAnswers) (db : Db) :
    Ends (realignAgent env req running entry) db (TurnEffect entry.1.agentId
      (realignDecision (running.lookup entry.1.agentId)
        (expectedConfigHash env req.configEnv entry.1) req.force) db) := by
  simp only [realignAgent]
  cases realignDecision (running.lookup entry.1.agentId)
    (expectedConfigHash env req.configEnv entry.1) req.force with
  | spawnNew =>
    refine ends_bind.mpr ((ends_spawnRealignAgent ..).mono fun r db' spawned => ?_)
    cases r with
    | error => exact spawned
    | ok =>
      obtain ⟨before, ⟨agent, hagent, as⟩, others, jobs⟩ := spawned
      obtain ⟨_, _, _, _, _, _, row⟩ := as
      exact ⟨before, ⟨agent, hagent, row.1⟩, others, jobs⟩
  | respawnCrashed => exact ends_deleteAndRespawn ..
  | upToDate => exact ⟨rfl, rfl⟩
  | skipBusy =>
    refine ends_bind.mpr ((ends_insertEvent_sameWork ..).mono fun r db' same => ?_)
    cases r <;> exact same
  | respawnDrifted => exact ends_killAndRespawn ..

end Ccbd
