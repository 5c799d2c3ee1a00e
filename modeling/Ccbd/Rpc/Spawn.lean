import Ccbd.Db.Recovery
import Ccbd.Lib.Procedure
import Ccbd.Provider.Bundles
import Ccbd.Provider.Fingerprint

/-!
# Spawning an agent

`handle_agent_spawn_with_db_action` checks the request, resolves the bundles, starts the
process and records the agent. Everything it asks of the machine (credentials, sandbox,
fifo, tmux, pidfd) is answered by `SpawnAnswers`; the database is not touched before the
process runs.
-/

namespace Ccbd

open Lib

/-- What a spawn reads besides the database: the manifest name of a provider, the bundle
files of a project and the digest of a fingerprint. -/
structure SpawnEnv where
  manifest : String → Except CcbdError String
  files : String → BundleFiles
  digest : Json → String

/-- Every provider is known under its name, no project has a bundle. -/
def SpawnEnv.plain (digest : Json → String) : SpawnEnv where
  manifest := .ok
  files _ name _ := bundleErr ("bundle " ++ quoted name ++ " not found")
  digest := digest

/-- How the machine answers one spawn: the shared credentials are read, the process gets
a pid. -/
structure SpawnAnswers where
  credentials : Except CcbdError Unit := .ok ()
  process : Except CcbdError Int
  now : Int

/-- The declared environment is sent as `extra_env_vars`. -/
structure AgentSpawnParams extends AgentDeclaration where
  sessionId : String
  agentId : String
  configEnv : Table String String := .empty
  mcp : List McpServerConfig := []

inductive AgentSpawnDbAction where
  | insertDefault
  | replaceKilledAndRequeue (expectedHash : String) (capturedIntent : Option AgentRecoveryIntent)

structure RealignAgentParams extends AgentDeclaration where
  agentId : String

/-- The project's environment with the agent's own on top. -/
def bareConfigEnv (configEnv agentEnv : Table String String) : Table String String :=
  agentEnv.rows.foldl (fun t r => t.upsert r.1 r.2) configEnv

/-- The extensions of the request; a digest that came with it is ignored. -/
def extensionConfigFromParams (p : AgentSpawnParams) : ExtensionConfig where
  hooks := p.hooks
  plugins := p.plugins
  skills := p.skills
  bundle := p.bundle
  settings := p.settings
  mcp := p.mcp

/-- Only Claude agents read the shared credentials. -/
def loadSharedCredentials (manifest : String) (ans : SpawnAnswers) : Except CcbdError Unit :=
  if manifest = "claude" then ans.credentials else .ok ()

/-- The checks before anything is created. -/
def spawnChecks (env : SpawnEnv) (p : AgentSpawnParams) (ans : SpawnAnswers) (db : Db) :
    Except CcbdError (String × ExtensionConfig) :=
  if "master:".toList.isPrefixOf p.agentId.toList then
    .error (.ipcInvalidRequest "agent_id prefix 'master:' is reserved for master hook sentinels")
  else do
    let manifest ← env.manifest p.provider
    if (db.agents.get? p.agentId).any (·.state ≠ .killed) then
      .error (.agentAlreadyExists p.agentId)
    else match db.sessions.get? p.sessionId with
    | none => .error (.dbConstraintViolation ("session not found: " ++ p.sessionId))
    | some session => do
      loadSharedCredentials manifest ans
      let extensions ← resolveBundlesForProvider (env.files session.absolutePath) manifest .worker
        (extensionConfigFromParams p)
      return (manifest, extensions)

/-- The checks before the process is started, and its start. -/
def prepareSpawn (env : SpawnEnv) (p : AgentSpawnParams) (ans : SpawnAnswers) (db : Db) :
    Except CcbdError (ExtensionConfig × Int) := do
  let (_, extensions) ← spawnChecks env p ans db
  let pid ← ans.process
  return (extensions, pid)

/-- The fingerprint of the resolved extensions. -/
def spawnConfigHash (env : SpawnEnv) (p : AgentSpawnParams) (extensions : ExtensionConfig) :
    String :=
  computeConfigHash env.digest
    { role := .agent p.provider (bareConfigEnv p.configEnv p.env)
      hooks := extensions.hooks, plugins := extensions.plugins, skills := extensions.skills
      settings := extensions.settings, bundle := extensions.bundleDigest }

def spawnSpec (p : AgentSpawnParams) (extensions : ExtensionConfig) : AgentSpawnSpec where
  agentId := p.agentId
  provider := p.provider
  env := bareConfigEnv p.configEnv p.env
  hooks := extensions.hooks
  plugins := extensions.plugins
  skills := extensions.skills
  bundle := extensions.bundle
  settings := extensions.settings
  bundleDigest := extensions.bundleDigest
  sandboxOverrides := p.sandboxOverrides
  hookPushEnabled := p.hookPushEnabled

/-- A transaction that returns nothing. -/
def atomically (t : Db → Except CcbdError Db) : EStateM CcbdError Db Unit :=
  atomic fun db => (t db).map ((), ·)

/-- The database part of a spawn. A snapshot that cannot be written is only logged. -/
def recordSpawn (sessionId : String) (spec : AgentSpawnSpec) (configHash : String) (pid : Int)
    (now : Int) : AgentSpawnDbAction → EStateM CcbdError Db Unit
  | .insertDefault => do
    ofStep fun db =>
      insertAgentSync db spec.agentId sessionId spec.provider .spawning (some pid) now
    modify (updateAgentConfigHashSync · spec.agentId configHash now)
    let _ ← attempt (atomically fun db => persistAgentSpawnSpecSync db spec configHash now)
  | .replaceKilledAndRequeue expectedHash capturedIntent => do
    let _ ← atomic fun db =>
      replaceKilledAgentAndRequeueJobSync db sessionId spec expectedHash pid capturedIntent now

def handleAgentSpawnWithDbAction (env : SpawnEnv) (p : AgentSpawnParams)
    (action : AgentSpawnDbAction) (ans : SpawnAnswers) : EStateM CcbdError Db Int := do
  let (extensions, pid) ← atomic fun db => (prepareSpawn env p ans db).map (·, db)
  recordSpawn p.sessionId (spawnSpec p extensions) (spawnConfigHash env p extensions) pid ans.now
    action
  return pid

/-! ## Respawning for realign and recovery -/

def RealignAgentParams.spawnParams (agent : RealignAgentParams) (sessionId : String)
    (configEnv : Table String String) : AgentSpawnParams :=
  { agent.toAgentDeclaration with
    sessionId := sessionId, agentId := agent.agentId, configEnv := configEnv }

def insertEvent (agentId eventType : String) (payload : Json) (now : Int) :
    EStateM CcbdError Db Unit := do
  let _ ← atomic fun db => insertEventSync db agentId none eventType payload now

def persistRealignSnapshotAfterSuccess (agent : RealignAgentParams) (expectedHash : String)
    (configEnv : Table String String) (now : Int) : EStateM CcbdError Db Unit := do
  atomically fun db => persistAgentSpawnSpecSync db
    { agent.toAgentDeclaration with
      agentId := agent.agentId, env := bareConfigEnv configEnv agent.env } expectedHash now
  modify (clearRecoveryBackoffSync · agent.agentId now)

def spawnRealignAgent (env : SpawnEnv) (sessionId : String) (agent : RealignAgentParams)
    (expectedHash : String) (killedBeforeSpawn isRecovery : Bool)
    (configEnv : Table String String) (capturedIntent : Option AgentRecoveryIntent)
    (ans : SpawnAnswers) : EStateM CcbdError Db Unit := do
  let action := match capturedIntent with
    | some intent => .replaceKilledAndRequeue expectedHash (some intent)
    | none => .insertDefault
  let _ ← handleAgentSpawnWithDbAction env (agent.spawnParams sessionId configEnv) action ans
  if capturedIntent.isNone then
    persistRealignSnapshotAfterSuccess agent expectedHash configEnv ans.now
  if killedBeforeSpawn then
    insertEvent agent.agentId "agent_killed" (.obj [("reason", .str "DRIFT_REALIGN")]) ans.now
  insertEvent agent.agentId "agent_spawned" (.obj [("is_recovery", .bool isRecovery),
    ("reason", .str (if killedBeforeSpawn then "DRIFT_REALIGN" else "NEW"))]) ans.now

/-! ## What a spawn does to the database -/

/-- From `db` to `db'` the agent was inserted, in place of a KILLED one if there was one,
whose jobs went with it. -/
structure Spawned (db : Db) (agentId : String) (P : Agent → Prop) (db' : Db) : Prop where
  before : ∀ agent, db.agents.get? agentId = some agent → agent.state = .killed
  row : ∃ agent, db'.agents.get? agentId = some agent ∧ P agent
  others : ∀ b, b ≠ agentId → db'.agents.get? b = db.agents.get? b
  jobs : db'.jobs =
    if (db.agents.get? agentId).isSome then (db.cascadeAgent agentId).jobs else db.jobs

variable {ans : SpawnAnswers} {sessionId : String}

namespace Spawned

theorem isSome (h : Spawned db agentId P db') : (db'.agents.get? agentId).isSome := by
  obtain ⟨agent, hagent, -⟩ := h.row
  simp [hagent]

theorem of_eq (h : Spawned db agentId P db') (agents : db''.agents = db'.agents)
    (jobs : db''.jobs = db'.jobs) : Spawned db agentId P db'' where
  before := h.before
  row := agents ▸ h.row
  others := agents ▸ h.others
  jobs := jobs.trans h.jobs

theorem modifyAgent (h : Spawned db agentId P db')
    (hf : ∀ agent, P agent → Q (f agent)) : Spawned db agentId Q (db'.modifyAgent agentId f) where
  before := h.before
  row := by
    obtain ⟨agent, hagent, hP⟩ := h.row
    exact ⟨f agent, by simp [hagent], hf agent hP⟩
  others b hb := by simp [Table.get?_modify_of_ne _ _ hb, h.others b hb]
  jobs := h.jobs

theorem clearRecoveryBackoff (h : Spawned db agentId P db')
    (reset : ∀ agent, P agent → P { agent with
      retryCount := 0, nextRetryAt := none, retryExhausted := false })
    (touch : ∀ agent, P agent → P { agent with updatedAt := now }) :
    Spawned db agentId P (clearRecoveryBackoffSync db' agentId now) :=
  (h.modifyAgent reset).modifyAgent touch

end Spawned

/-- A spawn that returns has inserted the agent; one that fails has changed nothing. -/
def SpawnEnds {α : Type} (db : Db) (agentId : String) (P : Agent → Prop) (r : Except CcbdError α)
    (db' : Db) : Prop :=
  match r with
  | .ok _ => Spawned db agentId P db'
  | .error _ => db' = db

theorem spawned_insertAgentRow (base_eq : db.agents.get? agentId = none ∧ base = db ∨
      (∃ agent, db.agents.get? agentId = some agent ∧ agent.state = .killed) ∧
        base = db.cascadeAgent agentId) :
    Spawned db agentId (fun agent => agent.state = .spawning ∧ agent.sessionId = sessionId)
      (insertAgentRow base agentId sessionId provider .spawning (some pid) now) := by
  have absent : base.agents.get? agentId = none := by
    rcases base_eq with ⟨h, rfl⟩ | ⟨-, rfl⟩
    · exact h
    · simp [Db.get?_cascadeAgent_agents]
  have get (b : String) (row : Agent) := Table.get?_insert absent row b
  refine ⟨?_, ⟨_, (get agentId _).trans (if_pos rfl), rfl, rfl⟩, fun b hb => ?_, ?_⟩
  · intro agent hagent
    rcases base_eq with ⟨h, -⟩ | ⟨⟨agent', h, killed⟩, -⟩ <;> rw [h] at hagent <;> cases hagent
    exact killed
  · refine ((get b _).trans (if_neg hb)).trans ?_
    rcases base_eq with ⟨-, rfl⟩ | ⟨-, rfl⟩
    · rfl
    · simp [Db.get?_cascadeAgent_agents, hb]
  · rcases base_eq with ⟨h, rfl⟩ | ⟨⟨agent, h, -⟩, rfl⟩ <;> simp [h, insertAgentRow]

theorem spawnEnds_insertAgentSync (session : (db.sessions.get? sessionId).isSome)
    (agentId provider : String) (pid now : Int) :
    SpawnEnds db agentId (fun agent => agent.state = .spawning ∧ agent.sessionId = sessionId)
      (insertAgentSync db agentId sessionId provider .spawning (some pid) now).1
      (insertAgentSync db agentId sessionId provider .spawning (some pid) now).2 := by
  unfold insertAgentSync
  split_ifs
  · exact rfl
  simp only [session]
  cases hagent : db.agents.get? agentId with
  | none => exact spawned_insertAgentRow (.inl ⟨hagent, rfl⟩)
  | some agent =>
    simp only
    split_ifs with killed
    · exact rfl
    unfold Db.deleteAgent
    simp only [hagent, Option.isNone_some, Bool.false_eq_true, ↓reduceIte]
    split_ifs
    · exact rfl
    · exact spawned_insertAgentRow (.inr ⟨⟨agent, hagent, not_not.mp killed⟩, rfl⟩)

theorem ends_atomically {Q : Except CcbdError Unit → Db → Prop} :
    Ends (atomically t) db Q ↔
      match t db with
      | .ok db' => Q (.ok ()) db'
      | .error e => Q (.error e) db := by
  rw [atomically, ends_atomic]
  cases t db <;> rfl

theorem keeps_atomically {τ : Type} {obs : Db → τ}
    (h : ∀ db db', t db = .ok db' → obs db' = obs db) : Keeps obs (atomically t) := by
  refine Keeps.atomic fun db _ db' done => ?_
  obtain ⟨db₁, h₁, same⟩ := map_eq_ok.mp done
  cases same
  exact h db db' h₁

theorem keeps_insertEvent {τ : Type} {obs : Db → τ}
    (same : ∀ (db : Db) events, obs { db with events := events } = obs db)
    (agentId eventType : String) (payload : Json) (now : Int) :
    Keeps obs (insertEvent agentId eventType payload now) := by
  refine .bind (.atomic fun db n db' h => ?_) fun _ => .pure _
  obtain ⟨_, rfl⟩ := insertEventSync_ok h
  exact same db _

theorem keeps_persistSpec {τ : Type} {obs : Db → τ}
    (same : ∀ (db : Db) specs, obs { db with agentSpawnSpecs := specs } = obs db)
    (spec : AgentSpawnSpec) (configHash : String) (now : Int) :
    Keeps obs (atomically fun db => persistAgentSpawnSpecSync db spec configHash now) := by
  refine keeps_atomically fun db db' h => ?_
  obtain ⟨_, rfl⟩ := persistAgentSpawnSpecSync_ok h
  exact same db _

theorem persistAgentSpawnSpecSync_succeeds (h : (db.agents.get? spec.agentId).isSome)
    (configHash : String) (now : Int) :
    ∃ db', persistAgentSpawnSpecSync db spec configHash now = .ok db' := by
  unfold persistAgentSpawnSpecSync
  simp [Option.isSome_iff_ne_none.mp h]

/-- The row a spawn leaves. -/
def SpawnedRow (sessionId configHash : String) (agent : Agent) : Prop :=
  agent.state = .spawning ∧ agent.sessionId = sessionId ∧ agent.configHash = some configHash

theorem ends_recordSpawn_insertDefault (session : (db.sessions.get? sessionId).isSome)
    (spec : AgentSpawnSpec) (configHash : String) (pid now : Int) :
    Ends (recordSpawn sessionId spec configHash pid now .insertDefault) db fun r db' =>
      SpawnEnds db spec.agentId (SpawnedRow sessionId configHash) r db' ∧
        (r.isOk = true → ∃ stored, queryAgentSpawnSpecSync db' spec.agentId = some stored ∧
          stored.spec = spec ∧ stored.configHash = configHash) := by
  rw [recordSpawn, ends_bind, ends_ofStep]
  have inserted := spawnEnds_insertAgentSync session spec.agentId spec.provider pid now
  revert inserted
  generalize insertAgentSync db spec.agentId sessionId spec.provider .spawning (some pid) now = x
  obtain ⟨r, db₁⟩ := x
  intro inserted
  cases r with
  | error => exact ⟨inserted, nofun⟩
  | ok =>
    have hashed : Spawned db spec.agentId (SpawnedRow sessionId configHash)
        (updateAgentConfigHashSync db₁ spec.agentId configHash now) :=
      Spawned.modifyAgent inserted fun agent h => ⟨h.1, h.2, rfl⟩
    obtain ⟨agent, found, -⟩ := hashed.row
    obtain ⟨db₂, persisted⟩ :=
      persistAgentSpawnSpecSync_succeeds (Option.isSome_of_eq_some found) configHash now
    simp only [ends_bind, ends_modify, ends_attempt, ends_atomically, persisted]
    obtain ⟨version, rfl⟩ := persistAgentSpawnSpecSync_ok persisted
    refine ⟨hashed.of_eq rfl rfl, fun _ => ?_⟩
    simp only [queryAgentSpawnSpecSync, Table.get?_upsert]
    exact ⟨_, rfl, rfl, rfl⟩

theorem spawned_of_replaceKilledAgent
    (h : replaceKilledAgentAndRequeueJobSync db sessionId spec configHash pid intent now =
      .ok (n, db')) :
    ∃ db₁, Spawned (db.cascadeAgent spec.agentId) spec.agentId (SpawnedRow sessionId configHash)
      db₁ ∧ requeueCapturedIntent db₁ now intent = .ok (n, db') := by
  obtain ⟨dbc, db₁, killed, deleted, new, requeued⟩ := replaceKilledAgentAndRequeueJobSync_ok h
  obtain ⟨agent, found, -⟩ := Option.map_eq_some_iff.mp killed
  rw [Db.deleteAgent, found] at deleted
  simp only [Option.isNone_some, Bool.false_eq_true, ↓reduceIte] at deleted
  split_ifs at deleted
  cases deleted
  obtain ⟨row, written, state, session, hash, -⟩ := new.row
  refine ⟨db₁, ⟨?_, ⟨row, written, state, session, hash⟩, new.others, ?_⟩, requeued⟩
  · intro agent found
    rw [new.absent] at found
    cases found
  · rw [new.absent]
    exact new.jobs

theorem spawnChecks_ok (h : spawnChecks env p ans db = .ok (manifest, ext)) :
    "master:".toList.isPrefixOf p.agentId.toList = false ∧ env.manifest p.provider = .ok manifest ∧
      ∃ session, db.sessions.get? p.sessionId = some session ∧
        resolveBundlesForProvider (env.files session.absolutePath) manifest .worker
          (extensionConfigFromParams p) = .ok ext := by
  unfold spawnChecks at h
  split at h
  · cases h
  rename_i unreserved
  obtain ⟨manifest', hm, h⟩ := bind_eq_ok.mp h
  split at h
  · cases h
  split at h
  · cases h
  rename_i session hs
  obtain ⟨-, -, h⟩ := bind_eq_ok.mp h
  obtain ⟨ext', he, h⟩ := bind_eq_ok.mp h
  cases h
  exact ⟨Bool.not_eq_true _ ▸ unreserved, hm, session, hs, he⟩

theorem prepareSpawn_ok (h : prepareSpawn env p ans db = .ok (ext, pid)) :
    ∃ manifest session, env.manifest p.provider = .ok manifest ∧
      db.sessions.get? p.sessionId = some session ∧
      resolveBundlesForProvider (env.files session.absolutePath) manifest .worker
        (extensionConfigFromParams p) = .ok ext := by
  obtain ⟨⟨manifest, ext'⟩, checked, h⟩ := bind_eq_ok.mp h
  obtain ⟨pid', -, h⟩ := bind_eq_ok.mp h
  cases h
  obtain ⟨-, hm, session, hs, he⟩ := spawnChecks_ok checked
  exact ⟨manifest, session, hm, hs, he⟩

/-- The row that a spawn of `p` leaves: its hash is that of the resolved extensions. -/
def SpawnedAs (env : SpawnEnv) (p : AgentSpawnParams) (db : Db) (agent : Agent) : Prop :=
  ∃ manifest session ext, env.manifest p.provider = .ok manifest ∧
    db.sessions.get? p.sessionId = some session ∧
    resolveBundlesForProvider (env.files session.absolutePath) manifest .worker
      (extensionConfigFromParams p) = .ok ext ∧
    SpawnedRow p.sessionId (spawnConfigHash env p ext) agent

theorem ends_handleAgentSpawn (env : SpawnEnv) (p : AgentSpawnParams) (ans : SpawnAnswers)
    (db : Db) :
    Ends (handleAgentSpawnWithDbAction env p .insertDefault ans) db
      (SpawnEnds db p.agentId (SpawnedAs env p db)) := by
  rw [handleAgentSpawnWithDbAction, ends_bind, ends_atomic]
  cases h : prepareSpawn env p ans db with
  | error => exact rfl
  | ok r =>
    obtain ⟨ext, pid⟩ := r
    obtain ⟨manifest, session, hm, hs, he⟩ := prepareSpawn_ok h
    have record := ends_recordSpawn_insertDefault (Option.isSome_of_eq_some hs) (spawnSpec p ext)
      (spawnConfigHash env p ext) pid ans.now
    refine ends_bind.mpr (record.mono fun r db' ⟨ends, _⟩ => ?_)
    cases r with
    | error => exact ends
    | ok =>
      obtain ⟨agent, hagent, row⟩ := ends.row
      exact { ends with row := ⟨agent, hagent, manifest, session, ext, hm, hs, he, row⟩ }

/-- The hash a spawn records: a replacement takes it from its caller. -/
def recordedHash (env : SpawnEnv) (p : AgentSpawnParams) (ext : ExtensionConfig) :
    AgentSpawnDbAction → String
  | .insertDefault => spawnConfigHash env p ext
  | .replaceKilledAndRequeue expectedHash _ => expectedHash

theorem requeueCapturedIntent_agents
    (h : requeueCapturedIntent db now intent = .ok (n, db')) : db'.agents = db.agents := by
  cases intent with
  | none =>
    cases h
    rfl
  | some intent =>
    rcases requeueInterruptedJobFromCapturedIntentSync_ok h with
      rfl | ⟨_, _, _, rfl⟩ | ⟨_, _, _, _, _, rfl⟩ <;> rfl

theorem handleAgentSpawnWithDbAction_parts
    (h : handleAgentSpawnWithDbAction env p action ans db = .ok pid db') :
    ∃ manifest session ext, env.manifest p.provider = .ok manifest ∧
      db.sessions.get? p.sessionId = some session ∧
      resolveBundlesForProvider (env.files session.absolutePath) manifest .worker
        (extensionConfigFromParams p) = .ok ext ∧
      recordSpawn p.sessionId (spawnSpec p ext) (spawnConfigHash env p ext) pid ans.now action db =
        .ok () db' := by
  obtain ⟨⟨ext, pid'⟩, db₁, hprepared, h⟩ := bind_eq_ok_iff.mp h
  obtain ⟨⟨⟩, db₂, hrecord, h⟩ := bind_eq_ok_iff.mp h
  cases h
  rw [atomic_eq_ok_iff, map_eq_ok] at hprepared
  obtain ⟨⟨ext', pid'⟩, prepared, same⟩ := hprepared
  cases same
  obtain ⟨manifest, session, hm, hs, he⟩ := prepareSpawn_ok prepared
  exact ⟨manifest, session, ext, hm, hs, he, hrecord⟩

theorem handleAgentSpawnWithDbAction_ok
    (h : handleAgentSpawnWithDbAction env p action ans db = .ok pid db') :
    ∃ manifest session ext row, db.sessions.get? p.sessionId = some session ∧
      resolveBundlesForProvider (env.files session.absolutePath) manifest .worker
        (extensionConfigFromParams p) = .ok ext ∧
      db'.agents.get? p.agentId = some row ∧
      SpawnedRow p.sessionId (recordedHash env p ext action) row := by
  obtain ⟨manifest, session, ext, -, hs, he, hrecord⟩ := handleAgentSpawnWithDbAction_parts h
  cases action with
  | insertDefault =>
    obtain ⟨spawned, -⟩ := (ends_recordSpawn_insertDefault (Option.isSome_of_eq_some hs) _ _ _
      _).of_eq_ok hrecord
    obtain ⟨row, hrow, spawnedRow⟩ := spawned.row
    exact ⟨manifest, session, ext, row, hs, he, hrow, spawnedRow⟩
  | replaceKilledAndRequeue expectedHash intent =>
    obtain ⟨n, db₃, replaced, h⟩ := bind_eq_ok_iff.mp hrecord
    cases h
    obtain ⟨db₄, spawned, requeued⟩ :=
      spawned_of_replaceKilledAgent (atomic_eq_ok_iff.mp replaced)
    obtain ⟨row, hrow, spawnedRow⟩ := spawned.row
    rw [← requeueCapturedIntent_agents requeued] at hrow
    exact ⟨manifest, session, ext, row, hs, he, hrow, spawnedRow⟩

theorem ends_insertEvent (h : (db.agents.get? agentId).isSome)
    (eventType : String) (payload : Json) (now : Int) :
    Ends (insertEvent agentId eventType payload now) db fun r db' =>
      r = .ok () ∧ ∃ e, db' = { db with events := db.events.append e } := by
  rw [insertEvent, ends_bind, ends_atomic]
  obtain ⟨⟨n, db'⟩, e⟩ := insertEventSync_succeeds eventType payload now h
  rw [e]
  exact ⟨rfl, insertEventSync_ok e⟩

theorem ends_persistRealignSnapshot (h : Spawned db agent.agentId (SpawnedAs env p db₀) db')
    (expectedHash : String) (configEnv : Table String String) (now : Int) :
    Ends (persistRealignSnapshotAfterSuccess agent expectedHash configEnv now) db' fun r db'' =>
      r = .ok () ∧ Spawned db agent.agentId (SpawnedAs env p db₀) db'' := by
  rw [persistRealignSnapshotAfterSuccess, ends_bind, ends_atomically]
  let spec : AgentSpawnSpec := { agent.toAgentDeclaration with
    agentId := agent.agentId, env := bareConfigEnv configEnv agent.env }
  have row : (db'.agents.get? spec.agentId).isSome := h.isSome
  obtain ⟨db₁, e⟩ := persistAgentSpawnSpecSync_succeeds row expectedHash now
  rw [e]
  have stored : Spawned db agent.agentId (SpawnedAs env p db₀) db₁ := by
    obtain ⟨version, rfl⟩ := persistAgentSpawnSpecSync_ok e
    exact h.of_eq rfl rfl
  exact ⟨rfl, stored.clearRecoveryBackoff (fun _ row => row) (fun _ row => row)⟩

theorem ends_insertEvent_spawned {P : Agent → Prop}
    (h : Spawned db agentId P db') (eventType : String) (payload : Json) (now : Int) :
    Ends (insertEvent agentId eventType payload now) db' fun r db'' =>
      r = .ok () ∧ Spawned db agentId P db'' := by
  refine (ends_insertEvent h.isSome eventType payload now).mono ?_
  rintro r db'' ⟨hr, events, rfl⟩
  exact ⟨hr, h.of_eq rfl rfl⟩

theorem ends_spawnRealignAgent_of_spawn (env : SpawnEnv) (sessionId : String)
    (agent : RealignAgentParams) (expectedHash : String) (killedBeforeSpawn isRecovery : Bool)
    (configEnv : Table String String) (ans : SpawnAnswers) (db : Db) {started : Prop}
    (spawn : Ends (handleAgentSpawnWithDbAction env (agent.spawnParams sessionId configEnv)
      .insertDefault ans) db fun r _ => r.isOk = true ↔ started) :
    Ends (spawnRealignAgent env sessionId agent expectedHash killedBeforeSpawn isRecovery configEnv
        none ans) db fun r db' =>
      SpawnEnds db agent.agentId (SpawnedAs env (agent.spawnParams sessionId configEnv) db) r db' ∧
        (r.isOk = true ↔ started) := by
  rw [spawnRealignAgent, ends_bind]
  refine ((ends_handleAgentSpawn env (agent.spawnParams sessionId configEnv) ans db).and
    spawn).mono fun r db₁ h => ?_
  obtain ⟨spawned, ok⟩ := h
  cases r with
  | error => exact ⟨spawned, ok⟩
  | ok pid =>
    refine ends_bind.mpr ((ends_persistRealignSnapshot spawned ..).mono ?_)
    rintro _ db₂ ⟨rfl, spawned⟩
    have announced : ∀ db₂, Spawned db agent.agentId
        (SpawnedAs env (agent.spawnParams sessionId configEnv) db) db₂ →
        Ends (insertEvent agent.agentId "agent_spawned" (.obj [("is_recovery", .bool isRecovery),
          ("reason", .str (if killedBeforeSpawn then "DRIFT_REALIGN" else "NEW"))]) ans.now) db₂
          fun r db' => SpawnEnds db agent.agentId
            (SpawnedAs env (agent.spawnParams sessionId configEnv) db) r db' ∧
              (r.isOk = true ↔ started) := by
      intro db₂ spawned
      refine (ends_insertEvent_spawned spawned ..).mono ?_
      rintro _ db₃ ⟨rfl, spawned⟩
      exact ⟨spawned, ok⟩
    cases killedBeforeSpawn with
    | false => exact announced db₂ spawned
    | true =>
      refine ends_bind.mpr ((ends_insertEvent_spawned spawned ..).mono ?_)
      rintro _ db₃ ⟨rfl, spawned⟩
      exact announced db₃ spawned

/-- A respawn that returns has inserted the agent; one that fails has changed nothing. -/
theorem ends_spawnRealignAgent (env : SpawnEnv) (sessionId : String) (agent : RealignAgentParams)
    (expectedHash : String) (killedBeforeSpawn isRecovery : Bool)
    (configEnv : Table String String) (ans : SpawnAnswers) (db : Db) :
    Ends (spawnRealignAgent env sessionId agent expectedHash killedBeforeSpawn isRecovery configEnv
        none ans) db
      (SpawnEnds db agent.agentId (SpawnedAs env (agent.spawnParams sessionId configEnv) db)) := by
  obtain ⟨r, db', ends, -⟩ := (ends_handleAgentSpawn env (agent.spawnParams sessionId configEnv) ans
    db).exists_eq
  have spawn : Ends (handleAgentSpawnWithDbAction env (agent.spawnParams sessionId configEnv)
      .insertDefault ans) db fun r' _ => r'.isOk = true ↔ r.isOk = true := by
    refine ends.mono ?_
    rintro _ _ ⟨rfl, -⟩
    rfl
  exact (ends_spawnRealignAgent_of_spawn env sessionId agent expectedHash killedBeforeSpawn
    isRecovery configEnv ans db spawn).mono fun _ _ h => h.1

/-! ## When a spawn starts -/

/-- The machine starts the process of `p`: its id is not reserved, its provider is known, its
session is there, and the credentials, the bundles and the process are answered. -/
def Startable (env : SpawnEnv) (p : AgentSpawnParams) (ans : SpawnAnswers) (db : Db) : Prop :=
  "master:".toList.isPrefixOf p.agentId.toList = false ∧
    ∃ manifest session, env.manifest p.provider = .ok manifest ∧
      db.sessions.get? p.sessionId = some session ∧
      (loadSharedCredentials manifest ans).isOk = true ∧
      (resolveBundlesForProvider (env.files session.absolutePath) manifest .worker
        (extensionConfigFromParams p)).isOk = true ∧
      ans.process.isOk = true

theorem prepareSpawn_isOk_iff (absent : db.agents.get? p.agentId = none) :
    (prepareSpawn env p ans db).isOk = true ↔ Startable env p ans db := by
  unfold prepareSpawn spawnChecks Startable
  cases reserved : "master:".toList.isPrefixOf p.agentId.toList with
  | true => simp [bind, Except.bind, Except.toBool]
  | false =>
    cases env.manifest p.provider with
    | error => simp [bind, Except.bind, Except.toBool]
    | ok manifest =>
      cases db.sessions.get? p.sessionId with
      | none => simp [bind, Except.bind, Except.toBool, absent]
      | some session =>
        simp only [bind, Except.bind, absent, Except.ok.injEq, Option.some.injEq, exists_and_left,
          exists_eq_left']
        cases loadSharedCredentials manifest ans with
        | error => simp [Except.toBool]
        | ok =>
          cases resolveBundlesForProvider (env.files session.absolutePath) manifest .worker
            (extensionConfigFromParams p) with
          | error => simp [Except.toBool]
          | ok ext => cases ans.process <;> simp [pure, Except.pure, Except.toBool]

theorem ends_recordSpawn_absent (spec : AgentSpawnSpec)
    (unreserved : "master:".toList.isPrefixOf spec.agentId.toList = false)
    (session : (db.sessions.get? sessionId).isSome) (absent : db.agents.get? spec.agentId = none)
    (configHash : String) (pid now : Int) :
    Ends (recordSpawn sessionId spec configHash pid now .insertDefault) db
      fun r _ => r.isOk = true := by
  have inserted : insertAgentSync db spec.agentId sessionId spec.provider .spawning (some pid) now =
      (.ok (), insertAgentRow db spec.agentId sessionId spec.provider .spawning (some pid) now) := by
    rw [insertAgentSync, unreserved, absent, session]
    rfl
  rw [recordSpawn, ends_bind, ends_ofStep, inserted]
  simp only [ends_bind, ends_modify, ends_attempt, ends_atomically]
  cases persistAgentSpawnSpecSync _ spec configHash now <;> rfl

/-- Where the agent has no row, a spawn returns just if the machine starts the process. -/
theorem ends_handleAgentSpawn_absent
    (absent : db.agents.get? p.agentId = none) (ans : SpawnAnswers) :
    Ends (handleAgentSpawnWithDbAction env p .insertDefault ans) db fun r _ =>
      r.isOk = true ↔ Startable env p ans db := by
  rw [← prepareSpawn_isOk_iff absent, handleAgentSpawnWithDbAction, ends_bind, ends_atomic]
  cases prepared : prepareSpawn env p ans db with
  | error => exact Iff.rfl
  | ok x =>
    obtain ⟨ext, pid⟩ := x
    have startable : Startable env p ans db :=
      (prepareSpawn_isOk_iff absent).mp (by rw [prepared]; rfl)
    obtain ⟨unreserved, manifest, session, -, found, -⟩ := startable
    refine ends_bind.mpr ((ends_recordSpawn_absent (spawnSpec p ext) unreserved
      (Option.isSome_of_eq_some found) absent _ pid ans.now).mono fun r _ recorded => ?_)
    cases r with
    | error => cases recorded
    | ok => exact Iff.rfl

end Ccbd
