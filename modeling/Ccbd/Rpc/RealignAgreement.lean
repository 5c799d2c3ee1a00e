import Ccbd.Dispatch.Operations
import Ccbd.Rpc.RealignEffects

/-!
# Spawn and realign on one configuration

A spawn records the fingerprint of the extensions with the bundles' hooks merged in. A
realign compares it with the fingerprint of the declared extensions, to which only the
digest of the bundles is added. The two agree just if the declared hooks already cover the
hooks of every bundle; otherwise each realign of the unchanged configuration respawns the
agent, or reports drift while it is BUSY.
-/

namespace Ccbd

open Lib

/-- The declared hooks of the agent cover those of the bundles it names. -/
def BundlesCovered (env : SpawnEnv) (root : String) (agent : RealignAgentParams) : Prop :=
  ∀ name ∈ agent.bundle, ∀ c, env.files root name .worker = .ok c →
    ∀ event ∈ c.hooks.rows, agent.hooks.Covers event

/-- What a realign hashes for the agent. -/
def declaredFingerprint (configEnv : Table String String) (agent : RealignAgentParams) :
    ConfigFingerprintInput where
  role := .agent agent.provider (bareConfigEnv configEnv agent.env)
  hooks := agent.hooks
  plugins := agent.plugins
  skills := agent.skills
  settings := agent.settings
  bundle := agent.bundleDigest

/-- The digest does not collide on the declared fingerprint and the one with the bundles'
hooks. -/
def DigestSeparates (env : SpawnEnv) (root : String) (configEnv : Table String String)
    (agent : RealignAgentParams) : Prop :=
  ∀ cs digest, agent.bundle.mapM (env.files root · .worker) = .ok cs →
    digestForBundles (env.files root) .worker agent.bundle = .ok digest →
    let declared := declaredFingerprint configEnv { agent with bundleDigest := digest }
    let merged := { declared with hooks := mergedHooks agent.hooks cs }
    env.digest merged.json = env.digest declared.json → merged.json = declared.json

/-- The recorded fingerprint is the expected one: for a plain spawn the hooks are covered,
for a replacement the caller has passed it. -/
def SpawnAgrees (env : SpawnEnv) (root : String) (configEnv : Table String String)
    (agent : RealignAgentParams) : AgentSpawnDbAction → Prop
  | .insertDefault => BundlesCovered env root agent
  | .replaceKilledAndRequeue expectedHash _ =>
    ∀ digest, digestForBundles (env.files root) .worker agent.bundle = .ok digest →
      expectedHash = expectedConfigHash env configEnv { agent with bundleDigest := digest }

/-! ## The two fingerprints -/

section Fingerprint

variable {env : SpawnEnv} {root manifest sessionId : String} {configEnv : Table String String}
  {agent : RealignAgentParams} {ext : ExtensionConfig}

theorem spawnConfigHash_eq (h : resolveBundlesForProvider (env.files root) manifest .worker
      (extensionConfigFromParams (agent.spawnParams sessionId configEnv)) = .ok ext) :
    ∃ cs digest, agent.bundle.mapM (env.files root · .worker) = .ok cs ∧
      digestForBundles (env.files root) .worker agent.bundle = .ok digest ∧
      spawnConfigHash env (agent.spawnParams sessionId configEnv) ext =
        env.digest { declaredFingerprint configEnv { agent with bundleDigest := digest } with
          hooks := mergedHooks agent.hooks cs }.json := by
  obtain ⟨cs, rules, mcp, resolved, hcs, hdigest, e⟩ := resolveBundlesForProvider_ok rfl h
  refine ⟨cs, ext.bundleDigest, hcs, hdigest, ?_⟩
  rw [e]
  rfl

theorem bundlesCovered_iff (hcs : agent.bundle.mapM (env.files root · .worker) = .ok cs) :
    BundlesCovered env root agent ↔ ∀ c ∈ cs, ∀ event ∈ c.hooks.rows, agent.hooks.Covers event := by
  constructor
  · intro covered c hc event
    obtain ⟨name, hname, file⟩ := (mem_of_mapM_ok hcs).mp hc
    exact covered name hname c file event
  · intro covered name hname c file event
    exact covered c ((mem_of_mapM_ok hcs).mpr ⟨name, hname, file⟩) event

/-- The recorded hash is the expected one if the spawn agrees with the declaration, and only
then unless the digest collides. -/
theorem recordedHash_eq_iff (action : AgentSpawnDbAction)
    (h : resolveBundlesForProvider (env.files root) manifest .worker
      (extensionConfigFromParams (agent.spawnParams sessionId configEnv)) = .ok ext)
    (hdigest : digestForBundles (env.files root) .worker agent.bundle = .ok digest) :
    let recorded := recordedHash env (agent.spawnParams sessionId configEnv) ext action
    let expected := expectedConfigHash env configEnv { agent with bundleDigest := digest }
    (SpawnAgrees env root configEnv agent action → recorded = expected) ∧
      (DigestSeparates env root configEnv agent → recorded = expected →
        SpawnAgrees env root configEnv agent action) := by
  cases action with
  | replaceKilledAndRequeue expectedHash intent =>
    refine ⟨fun agrees => agrees digest hdigest, fun _ same digest' hdigest' => ?_⟩
    rw [hdigest] at hdigest'
    cases hdigest'
    exact same
  | insertDefault =>
    obtain ⟨cs, digest', hcs, hdigest', hash⟩ := spawnConfigHash_eq h
    rw [hdigest] at hdigest'
    cases hdigest'
    constructor
    · intro covered
      have same : mergedHooks agent.hooks cs = agent.hooks :=
        mergedHooks_of_covers ((bundlesCovered_iff hcs).mp covered)
      exact hash.trans (by rw [same]; rfl)
    · intro separates same
      have json := separates cs digest hcs hdigest (hash.symm.trans same)
      have hooks := mergedHooks_same_iff.mp (ConfigFingerprintInput.hooks_of_json_eq json)
      exact (bundlesCovered_iff hcs).mpr hooks

end Fingerprint

/-! ## The result of the call -/

/-- The agent was spawned with this configuration, and since then its row has kept its
session and its hash (only a spawn writes them) and the session its project root. -/
structure SpawnedEarlier (env : SpawnEnv) (action : AgentSpawnDbAction)
    (agent : RealignAgentParams) (sessionId : String) (configEnv : Table String String)
    (root : String) (db : Db) : Prop where
  spawn : ∃ ans db₀ pid db₁ old row,
    handleAgentSpawnWithDbAction env (agent.spawnParams sessionId configEnv) action ans db₀ =
      .ok pid db₁ ∧
    (db₀.sessions.get? sessionId).map (·.absolutePath) = some root ∧
    db₁.agents.get? agent.agentId = some old ∧ db.agents.get? agent.agentId = some row ∧
    row.sessionId = old.sessionId ∧ row.configHash = old.configHash
  project : (db.sessions.get? sessionId).map (·.absolutePath) = some root

variable {respawnMaster : EStateM CcbdError Db Bool} {req : RealignRequest} {ans : SpawnAnswers}

section Call

variable {env : SpawnEnv} {action : AgentSpawnDbAction} {agent : RealignAgentParams}
  {sessionId root : String} {configEnv : Table String String}

theorem SpawnedEarlier.row (h : SpawnedEarlier env action agent sessionId configEnv root db) :
    ∃ row manifest ext, db.agents.get? agent.agentId = some row ∧ row.sessionId = sessionId ∧
      row.configHash =
        some (recordedHash env (agent.spawnParams sessionId configEnv) ext action) ∧
      resolveBundlesForProvider (env.files root) manifest .worker
        (extensionConfigFromParams (agent.spawnParams sessionId configEnv)) = .ok ext := by
  obtain ⟨ans, db₀, pid, db₁, old, row, spawn, hroot, hold, hrow, session, hash⟩ := h.spawn
  obtain ⟨manifest, s, ext, spawned, hs, resolved, hspawned, -, hsession, hhash⟩ :=
    handleAgentSpawnWithDbAction_ok spawn
  obtain rfl : old = spawned := Option.some.inj (hold.symm.trans hspawned)
  have root_eq : s.absolutePath = root := by
    have hs' : db₀.sessions.get? sessionId = some s := hs
    simpa [hs'] using hroot
  exact ⟨row, manifest, ext, hrow, session.trans hsession, hash.trans hhash, root_eq ▸ resolved⟩

theorem SpawnedEarlier.upToDate_iff
    (h : SpawnedEarlier env action agent sessionId configEnv root db)
    (alive : db.stateOf agent.agentId ≠ some .crashed)
    (hdigest : digestForBundles (env.files root) .worker agent.bundle = .ok digest) :
    let upToDate := realignDecision ((runningAgentHashes db sessionId).lookup agent.agentId)
      (expectedConfigHash env configEnv { agent with bundleDigest := digest }) force = .upToDate
    let agrees := SpawnAgrees env root configEnv agent action ∧
      db.stateOf agent.agentId ≠ some .killed
    (agrees → upToDate) ∧ (DigestSeparates env root configEnv agent → upToDate → agrees) := by
  obtain ⟨row, manifest, ext, hrow, session, hash, resolved⟩ := h.row
  have state : db.stateOf agent.agentId = some row.state := by simp [Db.stateOf, hrow]
  have ⟨sound, exact⟩ := recordedHash_eq_iff action resolved hdigest
  simp only [realignDecision_eq_upToDate, lookup_runningAgentHashes, state, ne_eq,
    Option.some.injEq] at alive ⊢
  constructor
  · rintro ⟨agrees, killed⟩
    exact ⟨row, ⟨hrow, session, killed⟩, alive, hash.trans (congrArg some (sound agrees))⟩
  · rintro separates ⟨row', ⟨hrow', -, killed⟩, -, hash'⟩
    obtain rfl : row = row' := Option.some.inj (hrow.symm.trans hrow')
    exact ⟨exact separates (Option.some.inj (hash.symm.trans hash')), killed⟩

theorem realignTurn_noChange_iff (h : realignTurn env req running entry db = .ok result db') :
    result = .agent entry.1.agentId .noChange ↔ realignDecision (running.lookup entry.1.agentId)
        (expectedConfigHash env req.configEnv entry.1) req.force = .upToDate := by
  obtain ⟨status, db₁, hstatus, h⟩ := bind_eq_ok_iff.mp h
  cases h
  simp only [realignAgent] at hstatus
  cases decision : realignDecision (running.lookup entry.1.agentId)
      (expectedConfigHash env req.configEnv entry.1) req.force <;>
    simp only [decision] at hstatus
  case upToDate =>
    cases hstatus
    simp
  case spawnNew | skipBusy =>
    obtain ⟨_, _, -, h⟩ := bind_eq_ok_iff.mp hstatus
    cases h
    simp
  case respawnCrashed =>
    obtain ⟨_, _, -, h⟩ := bind_eq_ok_iff.mp hstatus
    obtain ⟨_, _, -, h⟩ := bind_eq_ok_iff.mp h
    obtain ⟨_, _, -, h⟩ := bind_eq_ok_iff.mp h
    cases h
    simp
  case respawnDrifted =>
    obtain ⟨_, _, -, h⟩ := bind_eq_ok_iff.mp hstatus
    obtain ⟨_, _, -, h⟩ := bind_eq_ok_iff.mp h
    obtain ⟨_, _, -, h⟩ := bind_eq_ok_iff.mp h
    obtain ⟨_, _, -, h⟩ := bind_eq_ok_iff.mp h
    cases h
    simp

theorem realignTurn_upToDate (h : realignDecision (running.lookup entry.1.agentId)
      (expectedConfigHash env req.configEnv entry.1) req.force = .upToDate) :
    realignTurn env req running entry = pure (.agent entry.1.agentId .noChange) := by
  simp [realignTurn, realignAgent, h]

/-- A call that returned has answered for the master, and unless it stopped there for each
declared agent in turn. -/
theorem handleSessionRealign_ok (keeps : Keeps Db.agents respawnMaster)
    (h : handleSessionRealign env respawnMaster req now db = .ok results db') :
    ∃ session req' status, openRealign env req db = .ok (session, req') ∧
      (results = [.master status] ∨ ∃ db₁ turns db₂ orphans, db₁.agents = db.agents ∧
        forEach (realignTurn env req' (runningAgentHashes db₁ req'.sessionId)) req'.agents db₁ =
          .ok turns db₂ ∧
        results = .master status :: (turns ++ orphans)) := by
  obtain ⟨⟨session, req'⟩, db₀, hopen, h⟩ := bind_eq_ok_iff.mp h
  rw [atomic_eq_ok_iff, map_eq_ok] at hopen
  obtain ⟨_, opened, same⟩ := hopen
  cases same
  obtain ⟨⟨status, goesOn⟩, db₁, hmaster, h⟩ := bind_eq_ok_iff.mp h
  refine ⟨session, req', status, opened, ?_⟩
  cases goesOn with
  | false =>
    cases h
    exact .inl rfl
  | true =>
    right
    obtain ⟨results', db₂, hagents, h⟩ := bind_eq_ok_iff.mp h
    cases h
    obtain ⟨_, _, hget, h⟩ := bind_eq_ok_iff.mp hagents
    cases hget
    obtain ⟨turns, db₃, hturns, h⟩ := bind_eq_ok_iff.mp h
    obtain ⟨orphans, db₄, -, h⟩ := bind_eq_ok_iff.mp h
    cases h
    exact ⟨db₁, turns, db₃, orphans,
      (keeps_realignMaster env req' session keeps db).of_eq_ok hmaster, hturns, rfl⟩

theorem opened_entry {i : Nat} (opened : openRealign env req db = .ok (session, req'))
    (project : (db.sessions.get? req.sessionId).map (·.absolutePath) = some root)
    (bare : agent.bundleDigest = none) (declared : req.agents[i]? = some (agent, ans)) :
    ∃ digest, digestForBundles (env.files root) .worker agent.bundle = .ok digest ∧
      req'.agents[i]? = some ({ agent with bundleDigest := digest }, ans) := by
  obtain ⟨hs, -, -, entries⟩ := openRealign_ok opened
  obtain ⟨agent', hagent', digest, hdigest, rfl⟩ := entries i _ declared
  have root_eq : session.absolutePath = root := by simpa [hs] using project
  simp only [bare, root_eq] at hdigest
  exact ⟨digest, hdigest, hagent'⟩

theorem handleSessionRealign_single (respawnMaster : EStateM CcbdError Db Bool) (now : Int)
    (opened : openRealign env req db = .ok (session, req')) (force : req'.force = false)
    (single : req'.agents = [entry]) (upToDate : realignDecision
      ((runningAgentHashes db req'.sessionId).lookup entry.1.agentId)
      (expectedConfigHash env req'.configEnv entry.1) req'.force = .upToDate) :
    ∃ status orphans, handleSessionRealign env respawnMaster req now db =
      .ok (.master status :: .agent entry.1.agentId .noChange :: orphans) db := by
  obtain ⟨status, master⟩ := realignMaster_unforced env force session respawnMaster
  let orphans := (runningAgentHashes db req'.sessionId).filter fun row =>
    ([entry].map (·.1.agentId)).contains row.1 = false
  refine ⟨status, orphans.map fun row => .agent row.1 (.orphan false),
    bind_eq_ok_iff.mpr ⟨(session, req'), db, ?_, ?_⟩⟩
  · rw [atomic_eq_ok_iff, opened]
    rfl
  · simp only [master, pure_bind]
    refine bind_eq_ok_iff.mpr ⟨_, db, ?_, rfl⟩
    refine bind_eq_ok_iff.mpr ⟨db, db, rfl, ?_⟩
    simp only [single, forEach, realignTurn_upToDate upToDate, force,
      forEach_realignOrphan_unforced]
    rfl

theorem result_noChange_iff (keeps : Keeps Db.agents respawnMaster)
    (project : (db.sessions.get? req.sessionId).map (·.absolutePath) = some root)
    (bare : agent.bundleDigest = none) (declared : req.agents[i]? = some (agent, ans))
    (call : handleSessionRealign env respawnMaster req now db = .ok results db')
    (hresult : results[i + 1]? = some result) :
    ∃ digest force, digestForBundles (env.files root) .worker agent.bundle = .ok digest ∧
      (result = .agent agent.agentId .noChange ↔
        realignDecision ((runningAgentHashes db req.sessionId).lookup agent.agentId)
          (expectedConfigHash env req.configEnv { agent with bundleDigest := digest }) force =
            .upToDate) := by
  obtain ⟨session, req', status, opened, stopped | ⟨db₁, turns, db₂, orphans, same, loop, e⟩⟩ :=
    handleSessionRealign_ok keeps call
  · rw [stopped] at hresult
    cases hresult
  · obtain ⟨-, ⟨-, sid, config⟩, -⟩ := openRealign_ok opened
    obtain ⟨digest, hdigest, hentry⟩ := opened_entry opened project bare declared
    obtain ⟨turn, s₁, s₂, hturn, ran⟩ := forEach_getElem? loop hentry
    have inTurns : (turns ++ orphans)[i]? = some turn := by
      rw [List.getElem?_append_left (List.getElem?_eq_some_iff.mp hturn).1, hturn]
    rw [e, List.getElem?_cons_succ, inTurns] at hresult
    obtain rfl := Option.some.inj hresult
    have running : runningAgentHashes db₁ req'.sessionId = runningAgentHashes db req.sessionId := by
      unfold runningAgentHashes
      rw [same, sid]
    have answer := realignTurn_noChange_iff ran
    rw [running, config] at answer
    exact ⟨digest, req'.force, hdigest, answer⟩

theorem opened_single (opened : openRealign env req db = .ok (session, req'))
    (project : (db.sessions.get? req.sessionId).map (·.absolutePath) = some root)
    (bare : agent.bundleDigest = none) (single : req.agents = [(agent, ans)]) :
    ∃ digest, digestForBundles (env.files root) .worker agent.bundle = .ok digest ∧
      req'.agents = [({ agent with bundleDigest := digest }, ans)] := by
  have declared : req.agents[0]? = some (agent, ans) := by rw [single]; rfl
  obtain ⟨digest, hdigest, hentry⟩ := opened_entry opened project bare declared
  have len := (openRealign_ok opened).2.2.1
  rw [single, List.length_singleton, List.length_eq_one_iff] at len
  obtain ⟨only, e⟩ := len
  rw [e] at hentry ⊢
  exact ⟨digest, hdigest, congrArg (fun a => [a]) (Option.some.inj hentry)⟩

end Call

/-- A realign with the configuration of the last spawn answers NO_CHANGE for the agent. -/
def SpawnRealignAgree : Prop :=
  ∀ (env : SpawnEnv) (action : AgentSpawnDbAction) (agent : RealignAgentParams)
    (root : String) (db : Db) (req : RealignRequest) (i : Nat) (ans : SpawnAnswers)
    (respawnMaster : EStateM CcbdError Db Bool) (now : Int),
    SpawnedEarlier env action agent req.sessionId req.configEnv root db →
    db.stateOf agent.agentId ≠ some .crashed → agent.bundleDigest = none →
    req.agents[i]? = some (agent, ans) → Keeps Db.agents respawnMaster →
    Ends (handleSessionRealign env respawnMaster req now) db fun r _ =>
      ∀ results result, r = .ok results → results[i + 1]? = some result →
        result = .agent agent.agentId .noChange

/-- A realign with the configuration of the last spawn answers NO_CHANGE for the agent if
the spawn agrees with the declaration and the agent is not KILLED, and only then unless the
digest collides; an unforced one of this agent alone then returns and changes nothing. -/
theorem noChange_iff {env : SpawnEnv} {action : AgentSpawnDbAction} {agent : RealignAgentParams}
    {root : String} {db : Db} (req : RealignRequest) {i : Nat} {ans : SpawnAnswers}
    (respawnMaster : EStateM CcbdError Db Bool) (now : Int)
    (spawned : SpawnedEarlier env action agent req.sessionId req.configEnv root db)
    (alive : db.stateOf agent.agentId ≠ some .crashed) (bare : agent.bundleDigest = none)
    (declared : req.agents[i]? = some (agent, ans)) (keeps : Keeps Db.agents respawnMaster) :
    let agrees := SpawnAgrees env root req.configEnv agent action ∧
      db.stateOf agent.agentId ≠ some .killed
    (Ends (handleSessionRealign env respawnMaster req now) db fun r _ =>
      ∀ results result, r = .ok results → results[i + 1]? = some result →
        (agrees → result = .agent agent.agentId .noChange) ∧
        (DigestSeparates env root req.configEnv agent →
          result = .agent agent.agentId .noChange → agrees)) ∧
    (agrees → req.agents = [(agent, ans)] → req.force = false →
      ∀ opened, openRealign env req db = .ok opened →
        ∃ status orphans, handleSessionRealign env respawnMaster req now db =
          .ok (.master status :: .agent agent.agentId .noChange :: orphans) db) := by
  constructor
  · unfold Ends
    cases call : handleSessionRealign env respawnMaster req now db with
    | error => exact fun _ _ h => nomatch h
    | ok results db' =>
      rintro _ result ⟨⟩ hresult
      obtain ⟨digest, force, hdigest, answer⟩ :=
        result_noChange_iff keeps spawned.project bare declared call hresult
      rw [answer]
      exact spawned.upToDate_iff alive hdigest
  · rintro agrees single force ⟨session, req'⟩ opened
    obtain ⟨-, ⟨force', sid, config⟩, -⟩ := openRealign_ok opened
    obtain ⟨digest, hdigest, single'⟩ := opened_single opened spawned.project bare single
    refine handleSessionRealign_single respawnMaster now opened (force'.trans force) single' ?_
    rw [sid, config]
    exact (spawned.upToDate_iff alive hdigest).1 agrees

/-! ## A bundle with a hook -/

def stopHook : Hooks := Table.empty.insert "Stop" [{ hooks := [{ command := "notify" }] }]

/-- The project has one bundle, which contributes a hook; the digest tells whether there are
hooks. -/
def hookedEnv : SpawnEnv where
  manifest := .ok
  files _ name _ :=
    if name = "b" then .ok { name := "b", hooks := stopHook, digest := "d" }
    else bundleErr ("bundle " ++ quoted name ++ " not found")
  digest
    | .obj fields =>
      match fields.lookup "hooks" with
      | some (.obj []) => "bare"
      | _ => "hooked"
    | _ => "hooked"

def bundledAgent (hooks : Hooks) : RealignAgentParams where
  agentId := "a1"
  provider := "claude"
  bundle := ["b"]
  hooks := hooks

def realignBundled (hooks : Hooks) : RealignRequest where
  sessionId := "s1"
  agents := [(bundledAgent hooks, { process := .ok 30, now := 5 })]

/-- Spawns the agent in an empty session. -/
def spawnBundled (hooks : Hooks) : EStateM CcbdError Db Int :=
  handleAgentSpawnWithDbAction hookedEnv ((bundledAgent hooks).spawnParams "s1" .empty)
    .insertDefault { process := .ok 20, now := 1 }

theorem spawnedEarlier_bundled (spawn : spawnBundled hooks Db.oneSession = .ok pid db)
    (project : (db.sessions.get? "s1").map (·.absolutePath) = some "/p1") :
    SpawnedEarlier hookedEnv .insertDefault (bundledAgent hooks) "s1" .empty "/p1" db := by
  obtain ⟨_, _, _, row, -, -, hrow, -⟩ := handleAgentSpawnWithDbAction_ok spawn
  exact ⟨⟨_, Db.oneSession, pid, db, row, row, spawn, rfl, hrow, hrow, rfl, rfl⟩, project⟩

/-- The agent declares the hook that its bundle brings. -/
theorem noChange_iff_declared :
    ∃ pid db status orphans, spawnBundled stopHook Db.oneSession = .ok pid db ∧
      handleSessionRealign hookedEnv (pure true) (realignBundled stopHook) 5 db =
        .ok (.master status :: .agent "a1" .noChange :: orphans) db := by
  obtain ⟨pid, db, spawn, project, state, opens⟩ :
      ∃ pid db, spawnBundled stopHook Db.oneSession = .ok pid db ∧
        (db.sessions.get? "s1").map (·.absolutePath) = some "/p1" ∧
        db.stateOf "a1" = some .spawning ∧
        (openRealign hookedEnv (realignBundled stopHook) db).isOk = true :=
    Ends.exists_ok (by decide +kernel)
  have covered : BundlesCovered hookedEnv "/p1" (bundledAgent stopHook) := by
    intro name hname c file event hevent
    obtain rfl := List.mem_singleton.mp hname
    cases file
    obtain rfl := List.mem_singleton.mp hevent
    exact ⟨_, rfl, List.Subset.refl _⟩
  cases opened : openRealign hookedEnv (realignBundled stopHook) db with
  | error => simp [opened, Except.toBool] at opens
  | ok r =>
    have alive : db.stateOf (bundledAgent stopHook).agentId = some .spawning := state
    obtain ⟨_, returns⟩ := noChange_iff (i := 0) (realignBundled stopHook) (pure true) 5
      (spawnedEarlier_bundled spawn project) (by simp [alive]) rfl rfl (.pure true)
    obtain ⟨status, orphans, call⟩ := returns ⟨covered, by simp [alive]⟩ rfl rfl r opened
    exact ⟨pid, db, status, orphans, spawn, call⟩

/-- The agent does not declare the hook its bundle brings: it has just been spawned, and a
realign with the same configuration respawns it. -/
theorem not_spawnRealignAgree : ¬SpawnRealignAgree := by
  intro agree
  obtain ⟨pid, db, spawn, project, state, respawns⟩ :
      ∃ pid db, spawnBundled .empty Db.oneSession = .ok pid db ∧
        (db.sessions.get? "s1").map (·.absolutePath) = some "/p1" ∧
        db.stateOf "a1" = some .spawning ∧
        Ends (handleSessionRealign hookedEnv (pure true) (realignBundled .empty) 5) db fun r _ =>
          r.toOption = some [.master .drift, .agent "a1" (.realigned "bundle changed")] :=
    Ends.exists_ok (by decide +kernel)
  have alive : db.stateOf (bundledAgent .empty).agentId = some .spawning := state
  have noChange := agree hookedEnv .insertDefault (bundledAgent .empty) "/p1" db
    (realignBundled .empty) 0 _ (pure true) 5 (spawnedEarlier_bundled spawn project)
    (by simp [alive]) rfl rfl (.pure true)
  refine ends_const.mp ((noChange.and respawns).mono fun r _ ⟨noChange, results⟩ => ?_)
  cases r with
  | error => cases results
  | ok answers =>
    cases results
    exact nomatch noChange _ _ rfl rfl

end Ccbd
