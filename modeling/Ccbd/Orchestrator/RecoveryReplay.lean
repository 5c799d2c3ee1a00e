import Ccbd.Orchestrator.Recovery

/-!
# Replaying a spawn spec

A spawn stores the merged hooks of its agent, the names of its bundles and the bare
environment. Recovery sends them through the spawn again, where the same bundles are merged
in once more. Merging twice changes nothing, but the spec has no place for the MCP servers
of the request: after recovery the agent has those of its bundles only.
-/

namespace Ccbd

open Lib

/-! ## Merging the servers again -/

section Servers

variable {base acc acc' mcp mcp' servers : List McpServerConfig}

/-- A merge that started with `base` has come to `acc`, the same merge started with nothing to
`acc'`. -/
structure SameServers (base acc acc' : List McpServerConfig) : Prop where
  split : acc = base ++ acc'.filter fun s => !(base.map (·.name)).contains s.name
  found : ∀ name s, acc'.find? (·.name = name) = some s → acc.find? (·.name = name) = some s
  names : (acc'.map (·.name)).Nodup

theorem SameServers.start (base : List McpServerConfig) : SameServers base base [] where
  split := by simp
  found := by simp
  names := by simp

theorem SameServers.append (h : SameServers base acc acc')
    (new : acc'.find? (·.name = server.name) = none) (rest : mcp = base ++ (acc' ++ [server]).filter
      fun s => !(base.map (·.name)).contains s.name)
    (keeps : ∀ name s, acc.find? (·.name = name) = some s → mcp.find? (·.name = name) = some s)
    (here : mcp.find? (·.name = server.name) = some server) :
    SameServers base mcp (acc' ++ [server]) where
  split := rest
  found name s found := by
    rw [List.find?_append] at found
    cases before : acc'.find? (·.name = name) with
    | some s' =>
      rw [before] at found
      cases found
      exact keeps name _ (h.found name _ before)
    | none =>
      rw [before, Option.none_or, List.find?_singleton] at found
      split_ifs at found with same
      cases found
      rw [← of_decide_eq_true same]
      exact here
  names := by
    rw [List.map_append, List.nodup_append]
    refine ⟨h.names, by simp, ?_⟩
    rintro name known name' last rfl
    obtain ⟨s, hs, rfl⟩ := List.mem_map.mp known
    simp_all

theorem SameServers.mergeMcpServer (h : SameServers base acc acc')
    (merged : mergeMcpServer acc server = .ok mcp) :
    ∃ mcp', mergeMcpServer acc' server = .ok mcp' ∧ SameServers base mcp mcp' := by
  unfold Ccbd.mergeMcpServer at merged ⊢
  cases known : acc.find? (·.name = server.name) with
  | none =>
    rw [known] at merged
    cases merged
    have new : acc'.find? (·.name = server.name) = none := by
      by_contra other
      obtain ⟨s, hs⟩ := Option.ne_none_iff_exists'.mp other
      rw [h.found _ s hs] at known
      cases known
    rw [new]
    refine ⟨_, rfl, h.append new ?_ ?_ ?_⟩
    · have fresh : server.name ∉ base.map (·.name) := by
        intro there
        obtain ⟨s, hs, same⟩ := List.mem_map.mp there
        have hs : s ∈ acc := h.split ▸ List.mem_append_left _ hs
        exact List.find?_eq_none.mp known s hs (decide_eq_true same)
      have kept : [server].filter (fun s => !(base.map (·.name)).contains s.name) = [server] := by
        refine List.filter_eq_self.mpr fun s hs => ?_
        rw [List.mem_singleton.mp hs]
        simpa using fresh
      rw [List.filter_append, kept, ← List.append_assoc, ← h.split]
    · intro name s found
      rw [List.find?_append, found]
      rfl
    · rw [List.find?_append, known]
      simp
  | some existing =>
    rw [known] at merged
    simp only at merged
    split_ifs at merged with same
    swap
    · cases merged
    cases merged
    subst same
    cases again : acc'.find? (·.name = existing.name) with
    | some s =>
      have same := h.found _ s again
      rw [known] at same
      cases same
      exact ⟨acc', by simp, h⟩
    | none =>
      refine ⟨_, rfl, h.append again ?_ (fun _ _ found => found) known⟩
      have there : existing.name ∈ base.map (·.name) := by
        have hs := List.mem_of_find?_eq_some known
        rw [h.split, List.mem_append] at hs
        rcases hs with hs | hs
        · exact List.mem_map_of_mem hs
        · have absent := List.find?_eq_none.mp again existing (List.mem_filter.mp hs).1
          simp at absent
      have dropped : [existing].filter (fun s => !(base.map (·.name)).contains s.name) = [] := by
        refine List.filter_eq_nil_iff.mpr fun s hs => ?_
        rw [List.mem_singleton.mp hs]
        simpa using there
      rw [List.filter_append, dropped, List.append_nil, ← h.split]

/-- Both merges come to the same servers just if those it started with come first anyway. -/
theorem SameServers.eq_iff (h : SameServers base mcp mcp') : mcp = mcp' ↔ base <+: mcp' := by
  constructor
  · intro same
    exact ⟨_, (h.split.symm.trans same)⟩
  · rintro ⟨rest, rfl⟩
    rw [h.split]
    have names := h.names
    rw [List.map_append, List.nodup_append] at names
    have dropped : base.filter (fun s => !(base.map (·.name)).contains s.name) = [] := by
      refine List.filter_eq_nil_iff.mpr fun s hs => ?_
      simp only [Bool.not_eq_true', Bool.not_eq_false]
      exact List.contains_iff_mem.mpr (List.mem_map_of_mem hs)
    have kept : rest.filter (fun s => !(base.map (·.name)).contains s.name) = rest := by
      refine List.filter_eq_self.mpr fun s hs => ?_
      have fresh := fun there => names.2.2 _ there _ (List.mem_map_of_mem hs) rfl
      simpa using fresh
    rw [List.filter_append, dropped, kept, List.nil_append]

end Servers

/-! ## Merging the bundles again -/

section Bundles

variable {base mcp : List McpServerConfig} {st st₁ st' st₁' : MergeState} {c : BundleContribution}
  {cs : List BundleContribution} {skills : List ResolvedSkill}

/-- Two merges know the same skills and have resolved the same. -/
structure SameSkills (st st' : MergeState) : Prop where
  known : st'.skillsByName = st.skillsByName
  resolved : st'.extensions.resolvedSkills = st.extensions.resolvedSkills

/-- Skills are merged by what is known of their names alone. -/
theorem SameSkills.mergeSkill (same : SameSkills st st') (merged : mergeSkill st skill = .ok st₁) :
    ∃ st₁', mergeSkill st' skill = .ok st₁' ∧ SameSkills st₁ st₁' := by
  unfold Ccbd.mergeSkill at merged ⊢
  rw [same.known]
  split at merged
  · cases merged
  · split_ifs at merged with known
    · cases merged
      exact ⟨st', by simp [known], same⟩
    · cases merged
  · cases merged
    exact ⟨_, rfl, rfl, congrArg (· ++ [skill]) same.resolved⟩

/-- Two merges of the same contributions, where the first started with the servers `base`. -/
structure SameMerge (base : List McpServerConfig) (st st' : MergeState) : Prop where
  skills : SameSkills st st'
  servers : SameServers base st.extensions.mcp st'.extensions.mcp

theorem SameMerge.mergeContribution (h : SameMerge base st st')
    (merged : mergeContribution st c = .ok st₁) :
    ∃ st₁', mergeContribution st' c = .ok st₁' ∧ SameMerge base st₁ st₁' := by
  obtain ⟨st₂, hskills, merged⟩ := bind_eq_ok.mp merged
  obtain ⟨mcp, hmcp, merged⟩ := bind_eq_ok.mp merged
  cases merged
  obtain ⟨resolved, e⟩ := foldlM_mergeSkill_ok hskills
  obtain ⟨st₂', hskills', skills⟩ := foldlM_simulates h.skills hskills SameSkills.mergeSkill
  obtain ⟨resolved', e'⟩ := foldlM_mergeSkill_ok hskills'
  have servers : SameServers base st₂.extensions.mcp st₂'.extensions.mcp := by
    rw [e, e']
    exact h.servers
  obtain ⟨mcp', hmcp', servers'⟩ := foldlM_simulates servers hmcp SameServers.mergeMcpServer
  exact ⟨_, bind_eq_ok.mpr ⟨st₂', hskills', bind_eq_ok.mpr ⟨mcp', hmcp', rfl⟩⟩, ⟨skills.known, skills.resolved⟩,
    servers'⟩

/-- Resolving what a resolution has stored: the bundles are merged into the hooks they are in
already, and the servers of the declaration are gone. -/
theorem resolveBundles_again
    (h : resolveBundlesForProvider files provider role declared = .ok ext) :
    ∃ ext', resolveBundlesForProvider files provider role
        { declared with hooks := ext.hooks, mcp := [] } = .ok ext' ∧
      ext'.hooks = ext.hooks ∧ ext'.plugins = ext.plugins ∧ ext'.skills = ext.skills ∧
      ext'.resolvedSkills = ext.resolvedSkills ∧ ext'.settings = ext.settings ∧
      ext'.bundleDigest = ext.bundleDigest ∧
      SameServers declared.mcp ext.mcp ext'.mcp := by
  simp only [resolveBundlesForProvider_eq_ok] at h ⊢
  obtain ⟨empty, rfl⟩ | ⟨empty, cs, st, hcs, capable, hst, rfl⟩ := h
  · exact ⟨_, .inl ⟨empty, rfl⟩, rfl, rfl, rfl, rfl, rfl, rfl, .start _⟩
  · obtain ⟨rules, mcp, resolved, e⟩ := foldlM_mergeContribution_ok hst
    have start : SameMerge declared.mcp (.start declared)
        (.start { declared with hooks := st.extensions.hooks, mcp := [] }) := ⟨⟨rfl, rfl⟩, .start _⟩
    obtain ⟨st', hst', same⟩ := foldlM_simulates start hst SameMerge.mergeContribution
    obtain ⟨rules', mcp', resolved', e'⟩ := foldlM_mergeContribution_ok hst'
    have hooks : st.extensions.hooks = mergedHooks declared.hooks cs := by rw [e]; rfl
    have again : mergedHooks st.extensions.hooks cs = st.extensions.hooks := by
      rw [hooks]
      exact mergedHooks_of_covers fun c hc event he => covers_mergedHooks _ hc he
    refine ⟨_, .inr ⟨empty, cs, st', hcs, capable, hst', rfl⟩, ?_, ?_, ?_,
      same.skills.resolved, ?_, rfl, same.servers⟩
    · rw [e']
      exact again
    · rw [e', e]; rfl
    · rw [e', e]; rfl
    · rw [e', e]; rfl

/-- The servers that bundles contribute, merged into none. -/
def bundleServers (files : BundleFiles) (role : BundleRole) (names : List String) :
    Except CcbdError (List McpServerConfig) := do
  let contributions ← names.mapM (files · role)
  (contributions.flatMap (·.mcp)).foldlM mergeMcpServer []

theorem foldlM_mergeContribution_mcp (merged : cs.foldlM mergeContribution st = .ok st₁) :
    (cs.flatMap (·.mcp)).foldlM mergeMcpServer st.extensions.mcp = .ok st₁.extensions.mcp := by
  induction cs generalizing st with
  | nil =>
    cases merged
    rfl
  | cons c cs ih =>
    obtain ⟨st₂, first, rest⟩ := bind_eq_ok.mp merged
    obtain ⟨st₃, hskills, first⟩ := bind_eq_ok.mp first
    obtain ⟨mcp, hmcp, first⟩ := bind_eq_ok.mp first
    cases first
    obtain ⟨resolved, e⟩ := foldlM_mergeSkill_ok hskills
    rw [e] at hmcp
    rw [List.flatMap_cons, List.foldlM_append]
    exact bind_eq_ok.mpr ⟨mcp, hmcp, ih rest⟩

theorem bundleServers_of_resolve (none : declared.mcp = [])
    (h : resolveBundlesForProvider files provider role declared = .ok ext) :
    bundleServers files role declared.bundle = .ok ext.mcp := by
  obtain ⟨empty, rfl⟩ | ⟨empty, cs, st, hcs, -, hst, rfl⟩ := resolveBundlesForProvider_eq_ok.mp h
  · rw [empty, none]
    rfl
  · have servers := foldlM_mergeContribution_mcp hst
    have start : (MergeState.start declared).extensions.mcp = [] := none
    rw [start] at servers
    exact bind_eq_ok.mpr ⟨cs, hcs, servers⟩

end Bundles

/-! ## The replay -/

/-- What a spawn starts its agent with. Its home has the declared `skills` of the project and those
its bundles resolve to. -/
structure LaunchConfig where
  hooks : Hooks
  plugins : List String
  skills : List String
  resolvedSkills : List ResolvedSkill
  mcp : List McpServerConfig
  settings : Table String Json
  env : Table String String
  sandboxOverrides : SandboxOverrides

/-- The configuration of a spawn of `p` whose bundles resolve to `ext`. -/
def launchConfig (p : AgentSpawnParams) (ext : ExtensionConfig) : LaunchConfig where
  hooks := ext.hooks
  plugins := ext.plugins
  skills := ext.skills
  resolvedSkills := ext.resolvedSkills
  mcp := ext.mcp
  settings := ext.settings
  env := bareConfigEnv p.configEnv p.env
  sandboxOverrides := p.sandboxOverrides

/-- In a project at `root`, a spawn of `p` resolves its bundles to `ext`. -/
def Resolves (env : SpawnEnv) (root : String) (p : AgentSpawnParams) (ext : ExtensionConfig) :
    Prop :=
  ∃ manifest, env.manifest p.provider = .ok manifest ∧
    resolveBundlesForProvider (env.files root) manifest .worker (extensionConfigFromParams p) =
      .ok ext

theorem Resolves.unique (h : Resolves env root p ext) (h' : Resolves env root p ext') :
    ext = ext' := by
  obtain ⟨manifest, named, resolved⟩ := h
  obtain ⟨manifest', named', resolved'⟩ := h'
  rw [named] at named'
  cases named'
  rw [resolved] at resolved'
  cases resolved'
  rfl

/-- The spawn that recovery makes of a stored spec. -/
def StoredAgentSpawnSpec.replayParams (stored : StoredAgentSpawnSpec) (sessionId : String) :
    AgentSpawnParams :=
  stored.respawnParams.spawnParams sessionId .empty

/-- The servers of the request come first among those of its bundles. -/
def BundlesServe (env : SpawnEnv) (root : String) (p : AgentSpawnParams) : Prop :=
  ∃ servers, bundleServers (env.files root) .worker p.bundle = .ok servers ∧ p.mcp <+: servers

theorem rows_foldl_upsert {t : Table String String} (new : ((t.rows ++ rows).map Prod.fst).Nodup) :
    (rows.foldl (fun t r => t.upsert r.1 r.2) t).rows = t.rows ++ rows := by
  induction rows generalizing t with
  | nil => simp
  | cons row rows ih =>
    have absent : t.get? row.1 = none := by
      rw [Table.get?_eq_none]
      rw [List.map_append, List.nodup_append] at new
      exact fun there => new.2.2 _ there _ (by simp) rfl
    have appended : (t.upsert row.1 row.2).rows = t.rows ++ [row] := by
      rw [Table.upsert, absent]
      exact Table.rows_insert absent row.2
    rw [List.foldl_cons, ih (by simpa [appended] using new), appended]
    simp

theorem bareConfigEnv_empty (t : Table String String) : bareConfigEnv .empty t = t := by
  have rows : (bareConfigEnv .empty t).rows = t.rows := rows_foldl_upsert t.nodup
  revert rows
  generalize bareConfigEnv .empty t = t'
  intro rows
  cases t'
  cases rows
  rfl

section Replay

variable {env : SpawnEnv} {root : String} {p : AgentSpawnParams} {ext : ExtensionConfig}
  {stored : StoredAgentSpawnSpec}

theorem replay_of_resolves (resolves : Resolves env root p ext)
    (spec : stored.spec = spawnSpec p ext) :
    ∃ ext', Resolves env root (stored.replayParams p.sessionId) ext' ∧
      spawnConfigHash env (stored.replayParams p.sessionId) ext' = spawnConfigHash env p ext ∧
      (launchConfig (stored.replayParams p.sessionId) ext' = launchConfig p ext ↔
        BundlesServe env root p) := by
  obtain ⟨manifest, named, resolved⟩ := resolves
  obtain ⟨ext', again, hooks, plugins, skills, resolvedSkills, settings, digest, servers⟩ :=
    resolveBundles_again resolved
  obtain ⟨cs, rules, mcp, resolved', -, -, e⟩ := resolveBundlesForProvider_ok rfl resolved
  have declared : ext.plugins = p.plugins ∧ ext.skills = p.skills ∧ ext.bundle = p.bundle ∧
      ext.settings = p.settings := by
    rw [e]
    exact ⟨rfl, rfl, rfl, rfl⟩
  obtain ⟨_, hash, version, updated⟩ := stored
  subst spec
  have stored_ext : extensionConfigFromParams (StoredAgentSpawnSpec.replayParams
      ⟨spawnSpec p ext, hash, version, updated⟩ p.sessionId) =
      { extensionConfigFromParams p with hooks := ext.hooks, mcp := [] } := by
    simp [StoredAgentSpawnSpec.replayParams, StoredAgentSpawnSpec.respawnParams,
      RealignAgentParams.spawnParams, extensionConfigFromParams, spawnSpec, declared]
  have stored_env : bareConfigEnv .empty (bareConfigEnv p.configEnv p.env) =
      bareConfigEnv p.configEnv p.env := bareConfigEnv_empty _
  refine ⟨ext', ⟨manifest, named, ?_⟩, ?_, ?_⟩
  · rw [stored_ext]
    exact again
  · simp [spawnConfigHash, StoredAgentSpawnSpec.replayParams, StoredAgentSpawnSpec.respawnParams,
      RealignAgentParams.spawnParams, spawnSpec, stored_env, hooks, plugins, skills, settings,
      digest]
  · have served := bundleServers_of_resolve (by rfl) again
    have same : launchConfig (StoredAgentSpawnSpec.replayParams
        ⟨spawnSpec p ext, hash, version, updated⟩ p.sessionId) ext' = launchConfig p ext ↔
        ext.mcp = ext'.mcp := by
      simp [launchConfig, StoredAgentSpawnSpec.replayParams, StoredAgentSpawnSpec.respawnParams,
        RealignAgentParams.spawnParams, spawnSpec, stored_env, hooks, plugins, skills,
        resolvedSkills, settings, LaunchConfig.mk.injEq, eq_comm]
    rw [same, servers.eq_iff]
    constructor
    · exact fun first => ⟨ext'.mcp, served, first⟩
    · rintro ⟨servers', served', first⟩
      have served : bundleServers (env.files root) .worker p.bundle = .ok ext'.mcp := served
      rw [served] at served'
      cases served'
      exact first

theorem spawn_stores
    (spawned : handleAgentSpawnWithDbAction env p .insertDefault ans db = .ok pid db') :
    ∃ root ext stored, (db.sessions.get? p.sessionId).map (·.absolutePath) = some root ∧
      Resolves env root p ext ∧ queryAgentSpawnSpecSync db' p.agentId = some stored ∧
      stored.spec = spawnSpec p ext ∧ stored.configHash = spawnConfigHash env p ext ∧
      (db'.agents.get? p.agentId).map (·.configHash) = some (some stored.configHash) := by
  obtain ⟨manifest, session, ext, named, hs, resolved, hrecord⟩ :=
    handleAgentSpawnWithDbAction_parts spawned
  obtain ⟨row, stores⟩ := (ends_recordSpawn_insertDefault (Option.isSome_of_eq_some hs) _ _ _
    _).of_eq_ok hrecord
  obtain ⟨stored, query, spec, hash⟩ := stores rfl
  obtain ⟨row, found, -, -, rowHash⟩ := row.row
  refine ⟨session.absolutePath, ext, stored, by rw [hs]; rfl, ⟨manifest, named, resolved⟩, query,
    spec, hash, ?_⟩
  rw [hash, ← rowHash]
  exact congrArg (Option.map (·.configHash)) found

end Replay

/-! ## The hash after recovery -/

/-- The hash in the agent's row. -/
def Db.hashOf (db : Db) (agentId : String) : Option (Option String) :=
  (db.agents.get? agentId).map (·.configHash)

section Hash

variable {db db' : Db} {agentId : String}

theorem Db.hashOf_modifyAgent (db : Db) (same : ∀ agent, (f agent).configHash = agent.configHash)
    (agentId : String) : (db.modifyAgent agentId f).hashOf agentId = db.hashOf agentId := by
  simp [hashOf, Function.comp_def, same]

theorem Db.hashOf_of_agents (same : db'.agents = db.agents) (agentId : String) :
    db'.hashOf agentId = db.hashOf agentId := by
  rw [hashOf, hashOf, same]

theorem aside_hash (agentId : String) : Aside agentId (Db.hashOf · agentId) :=
  ⟨fun _ _ => rfl, fun _ _ => rfl, fun _ _ => rfl, fun db _ hash => db.hashOf_modifyAgent hash _⟩

theorem ends_hash_bind {α β : Type} {m : EStateM CcbdError Db α} {f : α → EStateM CcbdError Db β}
    {hash : Option (Option String)}
    (h : Ends m db fun r db' => r.isOk = true → db'.hashOf agentId = hash)
    (keeps : ∀ a, Keeps (Db.hashOf · agentId) (f a)) :
    Ends (m >>= f) db fun r db' => r.isOk = true → db'.hashOf agentId = hash := by
  refine ends_bind.mpr (h.mono fun r db₁ set => ?_)
  cases r with
  | error => exact nofun
  | ok a => exact (keeps a db₁).mono fun _ _ kept _ => kept.trans (set rfl)

/-- After the respawn the row has the stored hash: a failed one is restored with it. -/
theorem ends_settleRespawn_hash (agent : Agent) (stored : StoredAgentSpawnSpec)
    (intent : Option AgentRecoveryIntent) (now : Int)
    (respawned : result.isOk = true → db.hashOf agentId = some (some stored.configHash))
    (failed : result.isOk = false → db.agents.get? agentId = none) :
    Ends (settleRespawn agentId agent stored intent now result) db fun r db' =>
      r.isOk = true → db'.hashOf agentId = some (some stored.configHash) := by
  cases result with
  | ok =>
    have keeps : Keeps (Db.hashOf · agentId)
        (settleRespawn agentId agent stored intent now (.ok ())) := by
      refine ((aside_hash agentId).setBackoff _).bind fun _ => Keeps.bind ?_ fun _ => .pure _
      exact Keeps.atomic fun db n db' h =>
        Db.hashOf_of_agents (requeueCapturedIntent_agents h) agentId
    exact (keeps db).mono fun _ _ same _ => same.trans (respawned rfl)
  | error e =>
    have absent := failed rfl
    have restored : Ends (ofStep (restoreCrashedRow agentId agent stored.configHash now)) db
        fun r db' => r.isOk = true → db'.hashOf agentId = some (some stored.configHash) := by
      rw [ends_ofStep, restoreCrashedRow, absent]
      rcases insertAgentSync_of_absent absent agent.sessionId agent.provider .crashed none now
        with ⟨e, refused⟩ | inserted
      · simp only [refused]
        exact nofun
      · simp only [inserted]
        have row := Table.get?_insert absent
        simp [Db.hashOf, insertAgentRow, row]
    refine ends_hash_bind (ends_hash_bind restored fun _ => keeps_persistSpec (fun _ _ => rfl) _ _ _)
      fun _ => ((aside_hash agentId).setBackoff _).bind fun _ => ?_
    cases intent with
    | none => exact .pure _
    | some intent => exact (aside_hash agentId).storeIntent intent now

end Hash

/-! ## Recovery -/

/-- The agent's spec and session are still what they were. -/
structure StillStored (p : AgentSpawnParams) (root : String) (stored : StoredAgentSpawnSpec)
    (db : Db) : Prop where
  spec : queryAgentSpawnSpecSync db p.agentId = some stored
  session : (db.agents.get? p.agentId).map (·.sessionId) = some p.sessionId
  project : (db.sessions.get? p.sessionId).map (·.absolutePath) = some root

section Recovery

variable {env : SpawnEnv} {p : AgentSpawnParams} {root : String} {stored : StoredAgentSpawnSpec}
  {ext : ExtensionConfig} {db : Db}

/-- A respawn of the stored spec writes its hash: it computes the same one, or is given it. -/
theorem ends_spawnRealignAgent_hash
    (resolves : Resolves env root (stored.replayParams p.sessionId) ext)
    (hash : spawnConfigHash env (stored.replayParams p.sessionId) ext = stored.configHash)
    (project : (db.sessions.get? p.sessionId).map (·.absolutePath) = some root)
    (ans : SpawnAnswers) (intent : Option AgentRecoveryIntent) :
    Ends (spawnRealignAgent env p.sessionId stored.respawnParams stored.configHash true true .empty
        intent ans) db fun r db' =>
      r.isOk = true → db'.hashOf stored.spec.agentId = some (some stored.configHash) := by
  cases intent with
  | none =>
    refine (ends_spawnRealignAgent ..).mono fun r db' spawned ok => ?_
    cases r with
    | error => cases ok
    | ok =>
      have spawned : Spawned db stored.spec.agentId _ db' := spawned
      obtain ⟨row, found, manifest, session, ext', named, hs, resolved, -, -, recorded⟩ :=
        spawned.row
      have hs : db.sessions.get? p.sessionId = some session := hs
      have here : session.absolutePath = root := by simpa [hs] using project
      have again : Resolves env root (stored.replayParams p.sessionId) ext' :=
        ⟨manifest, named, here ▸ resolved⟩
      obtain rfl := resolves.unique again
      rw [Db.hashOf, found, ← hash]
      exact congrArg some recorded
  | some intent =>
    refine ends_hash_bind ?_ fun _ => ?_
    · unfold Ends
      cases spawned : handleAgentSpawnWithDbAction env
        (stored.respawnParams.spawnParams p.sessionId .empty)
        (.replaceKilledAndRequeue stored.configHash (some intent)) ans db with
      | error => exact nofun
      | ok pid db' =>
        obtain ⟨_, _, _, row, -, -, found, -, -, recorded⟩ :=
          handleAgentSpawnWithDbAction_ok spawned
        have found : db'.agents.get? stored.spec.agentId = some row := found
        intro _
        simp only [Db.hashOf, found]
        exact congrArg some recorded
    · exact Keeps.bind (keeps_insertEvent (fun _ _ => rfl) _ _ _ _) fun _ =>
        keeps_insertEvent (fun _ _ => rfl) _ _ _ _

theorem deleteAgentSync_sessions
    (h : deleteAgentSync db agentId = .ok db') : db'.sessions = db.sessions := by
  obtain ⟨-, rfl⟩ | rfl := Db.deleteAgent_ok h <;> rfl

theorem ends_recover_hash (resolves : Resolves env root (stored.replayParams p.sessionId) ext)
    (hash : spawnConfigHash env (stored.replayParams p.sessionId) ext = stored.configHash)
    (still : StillStored p root stored db) (ans : SpawnAnswers)
    (intent : Option AgentRecoveryIntent) (now : Int) :
    Ends (recoverCrashedAgentFromSnapshotWithRespawnAndIntent
        (spawnRealignAgentForRecovery env ans) p.agentId intent now) db fun r db' =>
      r.isOk = true → db'.hashOf p.agentId = some (some stored.configHash) := by
  obtain ⟨agent, found, session⟩ := Option.map_eq_some_iff.mp still.session
  have snapshot : recoverySnapshot db p.agentId = .ok (agent, stored) := by
    simp [recoverySnapshot, found, still.spec]
  have own : stored.spec.agentId = p.agentId := (recoverySnapshot_ok snapshot).2.2
  rw [recoverCrashedAgentFromSnapshotWithRespawnAndIntent, ends_bind, ends_atomic, snapshot]
  refine ends_bind.mpr (ends_atomically.mpr ?_)
  cases deleted : deleteAgentSync db p.agentId with
  | error => exact nofun
  | ok db₁ =>
    have project : (db₁.sessions.get? p.sessionId).map (·.absolutePath) = some root := by
      rw [deleteAgentSync_sessions deleted]
      exact still.project
    have absent : db₁.agents.get? p.agentId = none := Db.absent_of_deleteAgent deleted
    have respawn := (ends_spawnRealignAgent_hash resolves hash project ans none).and
      (ends_spawnRealignAgent env p.sessionId stored.respawnParams stored.configHash true true .empty
        ans db₁)
    rw [session]
    refine ends_bind.mpr (ends_attempt.mpr (respawn.mono fun result db₂ h => ?_))
    obtain ⟨respawned, spawned⟩ := h
    rw [own] at respawned
    refine ends_hash_bind (ends_settleRespawn_hash agent stored intent now respawned ?_) fun _ =>
      (aside_hash p.agentId).applyResult _ _ _ _
    intro failed
    cases result with
    | ok => cases failed
    | error =>
      obtain rfl : db₂ = db₁ := spawned
      exact absent

end Recovery

/-- The spec that an accepted spawn stored is accepted again and gives the agent the same hash,
but the same configuration only if the bundles serve what the request did. -/
theorem recovery_replays_iff (env : SpawnEnv) (p : AgentSpawnParams) (ans : SpawnAnswers)
    (db db' : Db) (pid : Int)
    (spawned : handleAgentSpawnWithDbAction env p .insertDefault ans db = .ok pid db') :
    ∃ root ext stored ext', (db.sessions.get? p.sessionId).map (·.absolutePath) = some root ∧
      Resolves env root p ext ∧ queryAgentSpawnSpecSync db' p.agentId = some stored ∧
      db'.hashOf p.agentId = some (some stored.configHash) ∧
      Resolves env root (stored.replayParams p.sessionId) ext' ∧
      (launchConfig (stored.replayParams p.sessionId) ext' = launchConfig p ext ↔
        BundlesServe env root p) ∧
      ∀ db₁ ans' intent now, StillStored p root stored db₁ →
        (Ends (recoverCrashedAgentFromSnapshotWithRespawnAndIntent
            (spawnRealignAgentForRecovery env ans') p.agentId intent now) db₁ fun r db₂ =>
          r.isOk = true → db₂.hashOf p.agentId = some (some stored.configHash)) ∧
        Ends (spawnRealignAgent env p.sessionId stored.respawnParams stored.configHash true true
            .empty intent ans') db₁ fun r db₂ =>
          r.isOk = true → db₂.hashOf p.agentId = some (some stored.configHash) := by
  obtain ⟨root, ext, stored, project, resolves, query, spec, hash, row⟩ := spawn_stores spawned
  obtain ⟨ext', again, hash', same⟩ := replay_of_resolves resolves spec
  refine ⟨root, ext, stored, ext', project, resolves, query, row, again, same, ?_⟩
  intro db₁ ans' intent now still
  refine ⟨ends_recover_hash again (hash'.trans hash.symm) still ans' intent now, ?_⟩
  have own : stored.spec.agentId = p.agentId := by rw [spec]; rfl
  have respawn := ends_spawnRealignAgent_hash again (hash'.trans hash.symm) still.project ans' intent
  rwa [own] at respawn

/-- Recovery gives an agent the configuration it was spawned with. -/
def RecoveryKeepsConfig : Prop :=
  ∀ (env : SpawnEnv) (p : AgentSpawnParams) (ans : SpawnAnswers) (db db' : Db) (pid : Int),
    handleAgentSpawnWithDbAction env p .insertDefault ans db = .ok pid db' →
    ∀ root ext stored ext', (db.sessions.get? p.sessionId).map (·.absolutePath) = some root →
      Resolves env root p ext → queryAgentSpawnSpecSync db' p.agentId = some stored →
      Resolves env root (stored.replayParams p.sessionId) ext' →
      launchConfig (stored.replayParams p.sessionId) ext' = launchConfig p ext

def spawnA1 : AgentSpawnParams := { sessionId := "s1", agentId := "a1", provider := "claude" }

/-- The bundle `kit` brings a skill, a hook and a server; the request names the server, too. -/
def kitEnv : SpawnEnv where
  manifest := .ok
  files _ name _ := .ok
    { name := name, digest := "d", skills := [⟨"doc", "/p/kit/doc"⟩]
      hooks := Table.empty.insert "Stop" [{ hooks := [] }]
      mcp := [{ name := "docs", transport := .stdio }] }
  digest _ := "h"

def spawnKit : AgentSpawnParams :=
  { spawnA1 with bundle := ["kit"], mcp := [{ name := "docs", transport := .stdio }] }

/-- The agent is spawned, and recovery brings it back as it was. -/
theorem recovery_replays_kit :
    ∃ root ext ext' db' pid, ∃ stored : StoredAgentSpawnSpec,
      handleAgentSpawnWithDbAction kitEnv spawnKit .insertDefault { process := .ok 20, now := 5 }
        Db.oneSession = .ok pid db' ∧
      Resolves kitEnv root spawnKit ext ∧
      Resolves kitEnv root (stored.replayParams "s1") ext' ∧
      ext.resolvedSkills = [⟨"doc", "/p/kit/doc"⟩] ∧
      launchConfig (stored.replayParams "s1") ext' = launchConfig spawnKit ext ∧
      Ends (recoverCrashedAgentFromSnapshotWithRespawnAndIntent
          (spawnRealignAgentForRecovery kitEnv { process := .ok 21, now := 9 }) "a1" none 9) db'
        fun r db₂ => r.isOk = true ∧ db₂.hashOf "a1" = some (some stored.configHash) := by
  have returns : Ends (handleAgentSpawnWithDbAction kitEnv spawnKit .insertDefault
      { process := .ok 20, now := 5 }) Db.oneSession fun r db' => r.isOk = true ∧
        Ends (recoverCrashedAgentFromSnapshotWithRespawnAndIntent
          (spawnRealignAgentForRecovery kitEnv { process := .ok 21, now := 9 }) "a1" none 9) db'
          (fun r _ => r.isOk = true) ∧
        (db'.agents.get? "a1").map (·.sessionId) = some "s1" ∧
        (db'.sessions.get? "s1").map (·.absolutePath) = some "/p1" := by
    decide +kernel
  obtain ⟨pid, db', spawned, recovers, session, project⟩ := returns.exists_ok
  obtain ⟨root, ext, stored, ext', here, resolves, query, -, again, same, replays⟩ :=
    recovery_replays_iff _ spawnKit _ _ _ _ spawned
  obtain rfl : "/p1" = root := Option.some.inj here
  have skills : ext.resolvedSkills = [⟨"doc", "/p/kit/doc"⟩] := by
    rw [resolves.unique ⟨_, rfl, rfl⟩]
    rfl
  refine ⟨_, ext, ext', db', pid, stored, spawned, resolves, again, skills, same.mpr ?_, ?_⟩
  · exact ⟨[{ name := "docs", transport := .stdio }], by decide +kernel, List.prefix_rfl⟩
  · exact recovers.and (replays db' _ none 9 ⟨query, session, project⟩).1 |>.mono
      fun _ _ h => ⟨h.1, h.2 h.1⟩

/-- A server of the request is not in the stored spec. -/
theorem not_recoveryKeepsConfig : ¬RecoveryKeepsConfig := by
  intro keeps
  let p : AgentSpawnParams := { spawnA1 with mcp := [{ name := "docs", transport := .stdio }] }
  have returns : Ends (handleAgentSpawnWithDbAction (.plain fun _ => "h") p .insertDefault
      { process := .ok 20, now := 5 }) Db.oneSession fun r _ => r.isOk = true ∧ True := by
    decide +kernel
  obtain ⟨pid, db', spawned, -⟩ := returns.exists_ok
  obtain ⟨root, ext, stored, project, resolves, query, spec, -⟩ := spawn_stores spawned
  obtain ⟨ext', again, -, same⟩ := replay_of_resolves resolves spec
  obtain ⟨servers, served, first⟩ :=
    same.mp (keeps _ p _ _ _ _ spawned root ext stored ext' project resolves query again)
  have none : bundleServers ((SpawnEnv.plain fun _ => "h").files root) .worker p.bundle = .ok [] :=
    rfl
  cases served
  exact absurd first (by decide)

end Ccbd
