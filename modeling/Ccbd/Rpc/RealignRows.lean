import Ccbd.Rpc.RealignSafety

/-!
# What a realign that fails leaves of the agents

A crashed or drifted agent is deleted before its respawn is tried. Where the respawn is
refused nothing brings the row back, although the recovery of a crashed agent has a step
that does. A call that fails keeps the agents just if no turn that it came to deleted an
agent it could not start again.
-/

namespace Ccbd

open Lib

/-- Every agent of `db` that is not KILLED has a row in `db'`. -/
def AgentsKept (db db' : Db) : Prop :=
  ∀ id agent, db.agents.get? id = some agent → agent.state ≠ .killed →
    (db'.agents.get? id).isSome = true

/-- The database in which a respawn deletes the row: a drifted agent is killed first. -/
def respawnBase (decision : RealignDecision) (row : Option Agent) (db : Db) (agentId : String)
    (now : Int) : Db :=
  if decision = .respawnDrifted then
    match markAgentKilledSync db agentId
      (if row.any (·.state = .busy) then "DRIFT_FORCE_REALIGN" else "DRIFT_REALIGN") now with
    | .ok (_, db') => db'
    | .error _ => db
  else db

/-- A turn that starts in `db` and is to respawn its agent cannot delete it, or can start it
again. -/
def TurnKeeps (env : SpawnEnv) (req : RealignRequest) (running : List (String × Agent))
    (entry : RealignAgentParams × SpawnAnswers) (db : Db) : Prop :=
  let row := running.lookup entry.1.agentId
  let decision := realignDecision row (expectedConfigHash env req.configEnv entry.1) req.force
  let base := respawnBase decision row db entry.1.agentId entry.2.now
  decision = .respawnCrashed ∨ decision = .respawnDrifted →
    base.cascadeBlocked entry.1.agentId = true ∨
      Startable env (entry.1.spawnParams req.sessionId req.configEnv) entry.2 base

/-! ## The turn -/

section Turn

variable {env : SpawnEnv} {agent : RealignAgentParams} {db db' : Db}

/-- How a turn ends that is to respawn the agent. -/
def RespawnEnds (safe : Prop) (agentId : String) (r : Except CcbdError AgentStatus) (db' : Db) :
    Prop :=
  (r.isOk = true → safe) ∧ (r.isOk = false → ((db'.agents.get? agentId).isSome = true ↔ safe))

theorem ends_deleteAndRespawn_rows (row : (db.agents.get? agent.agentId).isSome = true)
    (hash reason : String) (isRecovery : Bool) :
    Ends (deleteAndRespawn env sessionId agent hash reason isRecovery configEnv ans) db
      (RespawnEnds (db.cascadeBlocked agent.agentId = true ∨
        Startable env (agent.spawnParams sessionId configEnv) ans db) agent.agentId) := by
  refine ends_bind.mpr (ends_atomically.mpr ?_)
  simp only [deleteAgentSync, Db.deleteAgent, Option.isNone_eq_false_iff.mpr row]
  cases blocked : db.cascadeBlocked agent.agentId with
  | true =>
    refine ⟨fun ok => ?_, fun _ => by simp [row]⟩
    cases ok
  | false =>
    have absent : (db.cascadeAgent agent.agentId).agents.get?
        (agent.spawnParams sessionId configEnv).agentId = none := by
      simp [Db.get?_cascadeAgent_agents, RealignAgentParams.spawnParams]
    simp only [Bool.false_eq_true, false_or]
    refine ends_bind.mpr ((ends_spawnRealignAgent_of_spawn env sessionId agent hash true isRecovery
      configEnv ans _ (ends_handleAgentSpawn_absent absent ans)).mono fun r db₂ h => ?_)
    obtain ⟨spawned, started⟩ := h
    cases r with
    | error =>
      obtain rfl : db₂ = db.cascadeAgent agent.agentId := spawned
      refine ⟨fun ok => ?_, fun _ => ?_⟩
      · cases ok
      · simp only [Db.get?_cascadeAgent_agents]
        exact started
    | ok =>
      have respawned : Spawned (db.cascadeAgent agent.agentId) agent.agentId _ db₂ := spawned
      have startable := started.mp rfl
      refine (ends_realigned ..).mono fun r db₃ same => ⟨fun _ => startable, fun _ => ?_⟩
      rw [same.1]
      exact iff_of_true respawned.isSome startable

theorem ends_killAndRespawn_rows
    (kill : markAgentKilledSync db agent.agentId destructiveReason ans.now = .ok (n, killed))
    (row : (db.agents.get? agent.agentId).isSome = true) (hash reason : String)
    (isRecovery : Bool) :
    Ends (do
        let _ ← atomic fun db => markAgentKilledSync db agent.agentId destructiveReason ans.now
        deleteAndRespawn env sessionId agent hash reason isRecovery configEnv ans) db
      (RespawnEnds (killed.cascadeBlocked agent.agentId = true ∨
        Startable env (agent.spawnParams sessionId configEnv) ans killed) agent.agentId) := by
  refine ends_bind.mpr (ends_atomic.mpr ?_)
  simp only [kill]
  exact ends_deleteAndRespawn_rows ((markAgentKilledSync_only kill).2 row) hash reason isRecovery

theorem TurnEffect.row (other : ¬(decision = .respawnCrashed ∨ decision = .respawnDrifted))
    (turn : TurnEffect agentId decision db (.error e) db') :
    db'.agents.get? agentId = db.agents.get? agentId := by
  cases decision with
  | spawnNew =>
    obtain rfl : db' = db := turn
    rfl
  | upToDate | skipBusy => rw [turn.1]
  | respawnCrashed => exact absurd (.inl rfl) other
  | respawnDrifted => exact absurd (.inr rfl) other

theorem ends_realignTurn_rows
    (rows : running.lookup entry.1.agentId ≠ none → (db.agents.get? entry.1.agentId).isSome = true) :
    Ends (realignAgent env req running entry) db fun r db' =>
      (r.isOk = true → TurnKeeps env req running entry db) ∧
        (r.isOk = false → (((db.agents.get? entry.1.agentId).isSome = true →
          (db'.agents.get? entry.1.agentId).isSome = true) ↔
            TurnKeeps env req running entry db)) := by
  by_cases respawns : realignDecision (running.lookup entry.1.agentId)
      (expectedConfigHash env req.configEnv entry.1) req.force = .respawnCrashed ∨
    realignDecision (running.lookup entry.1.agentId)
      (expectedConfigHash env req.configEnv entry.1) req.force = .respawnDrifted
  · have row := rows fun absent => by
      rw [realignDecision_eq_spawnNew.mpr absent] at respawns
      rcases respawns with h | h <;> cases h
    simp only [row, true_imp_iff, TurnKeeps, respawns, realignAgent]
    rcases respawns with decision | decision
    · simp only [decision]
      exact ends_deleteAndRespawn_rows row ..
    · obtain ⟨⟨n, killed⟩, kill⟩ := markAgentKilledSync_succeeds db entry.1.agentId
        (if (running.lookup entry.1.agentId).any (·.state = .busy) then "DRIFT_FORCE_REALIGN"
          else "DRIFT_REALIGN") entry.2.now
      simp only [decision, respawnBase, kill]
      exact ends_killAndRespawn_rows kill row ..
  · have keeps : TurnKeeps env req running entry db := fun h => absurd h respawns
    refine (ends_realignAgent env req running entry db).mono fun r db' turn => ?_
    refine ⟨fun _ => keeps, fun failed => iff_of_true (fun row => ?_) keeps⟩
    cases r with
    | ok => cases failed
    | error => rwa [TurnEffect.row respawns turn]

end Turn

/-! ## The loop -/

section Loop

variable {env : SpawnEnv} {req : RealignRequest} {db₀ db db' : Db}

theorem Returned.agentsKept (h : Returned req.sessionId db₀ db) : AgentsKept db₀ db := by
  intro id agent found alive
  by_cases running : (runningAgentHashes db₀ req.sessionId).lookup id = none
  · rcases h.stale id running with same | spawning
    · rw [same, found]
      rfl
    · exact Db.isSome_of_stateOf spawning
  · exact h.rows id running

theorem ends_loop_rows (env : SpawnEnv) (req : RealignRequest) (db₀ : Db) :
    Ends (forEach (realignTurn env req (runningAgentHashes db₀ req.sessionId)) req.agents) db₀
      fun r db' => (r.isOk = true → Returned req.sessionId db₀ db') ∧
        (AgentsKept db₀ db' ↔ ∀ entry db₁,
          Reached (realignTurn env req (runningAgentHashes db₀ req.sessionId)) req.agents db₀ entry
            db₁ → TurnKeeps env req (runningAgentHashes db₀ req.sessionId) entry db₁) := by
  refine ends_forEach_iff (I := Returned req.sessionId db₀) (fun _ h => h.agentsKept) ?_ (.refl ..)
  intro entry _ db at₁
  refine ends_bind.mpr (((ends_realignTurn_rows (at₁.rows entry.1.agentId)).and
    (ends_realignAgent ..)).mono fun r db' h => ?_)
  obtain ⟨⟨returned, failed⟩, turn⟩ := h
  cases r with
  | ok status => exact ⟨fun _ => ⟨returned rfl, at₁.stale.turn turn, at₁.rows.turn turn⟩, nofun⟩
  | error e =>
    refine ⟨nofun, fun _ => ⟨fun kept respawns => ?_, fun keeps id agent found alive => ?_⟩⟩
    · -- an agent that is to be respawned was running when the loop started
      obtain ⟨agent, running⟩ : ∃ agent, (runningAgentHashes db₀ req.sessionId).lookup
          entry.1.agentId = some agent := by
        refine Option.ne_none_iff_exists'.mp fun absent => ?_
        rw [realignDecision_eq_spawnNew.mpr absent] at respawns
        rcases respawns with h | h <;> cases h
      obtain ⟨found, -, alive⟩ := lookup_runningAgentHashes.mp running
      exact (failed rfl).mp (fun _ => kept entry.1.agentId agent found alive) respawns
    · have row := at₁.agentsKept id agent found alive
      by_cases e : id = entry.1.agentId
      · subst e
        exact (failed rfl).mpr keeps row
      · rwa [turn.only.agents id e]

end Loop

/-! ## The call -/

/-- A call that started on `db` comes to the turn of the declared agent `entry`, in `db₁`; `req'`
is the request with its digests, and `running` are the agents that were running when the loop
started. -/
def ReachesTurn (env : SpawnEnv) (respawnMaster : EStateM CcbdError Db Bool) (req : RealignRequest)
    (db : Db) (req' : RealignRequest) (running : List (String × Agent))
    (entry : RealignAgentParams × SpawnAnswers) (db₁ : Db) : Prop :=
  ∃ session status db₀, openRealign env req db = .ok (session, req') ∧
    realignMaster env req' session respawnMaster db = .ok (status, true) db₀ ∧
    running = runningAgentHashes db₀ req'.sessionId ∧
    Reached (realignTurn env req' running) req'.agents db₀ entry db₁

theorem ends_realignOrphan_rows (force : Bool) (now : Int) (orphan : String × Agent) (db₀ db : Db)
    (kept : AgentsKept db₀ db) :
    Ends (realignOrphan force now orphan) db fun _ db' => AgentsKept db₀ db' := by
  unfold realignOrphan
  split
  · refine ends_bind.mpr (ends_atomic.mpr ?_)
    obtain ⟨⟨n, killed⟩, kill⟩ :=
      markAgentKilledSync_succeeds db orphan.1 "ORPHAN_FORCE_CLEANUP" now
    have ⟨only, row⟩ := markAgentKilledSync_only kill
    simp only [kill]
    refine ends_bind.mpr ((ends_insertEvent_sameWork ..).mono fun r db' same => ?_)
    have kept' : AgentsKept db₀ db' := by
      intro id agent found alive
      rw [same.1]
      by_cases e : id = orphan.1
      · subst e
        exact row (kept _ agent found alive)
      · rw [only.agents id e]
        exact kept id agent found alive
    cases r <;> exact kept'
  · exact kept

theorem AgentsKept.congr (same : db₀.agents = db.agents) :
    AgentsKept db₀ db' ↔ AgentsKept db db' := by
  unfold AgentsKept
  rw [same]

/-- However a realign ends, it has kept the agents just if every respawn that it came to could
not delete its agent, or could start it again. The respawn of the master writes no agent. -/
theorem realign_agentsKept_iff (env : SpawnEnv) (respawnMaster : EStateM CcbdError Db Bool)
    (master : Keeps Db.agents respawnMaster) (req : RealignRequest) (now : Int) (db : Db) :
    Ends (handleSessionRealign env respawnMaster req now) db fun _ db' =>
      AgentsKept db db' ↔ ∀ req' running entry db₁,
        ReachesTurn env respawnMaster req db req' running entry db₁ →
          TurnKeeps env req' running entry db₁ := by
  have same : AgentsKept db db := fun id agent found _ => by simp [found]
  refine ends_bind.mpr (ends_atomic.mpr ?_)
  cases opened : openRealign env req db with
  | error =>
    refine iff_of_true same ?_
    rintro req' running entry db₁ ⟨session, _, _, opened', -⟩
    rw [opened] at opened'
    cases opened'
  | ok r =>
    obtain ⟨session, req'⟩ := r
    simp only [Except.map]
    have agents := keeps_realignMaster env req' session master db
    -- without the loop no turn is reached
    have stops (unreached : ∀ status db₀,
        realignMaster env req' session respawnMaster db ≠ .ok (status, true) db₀) {db' : Db}
        (same : db'.agents = db.agents) : AgentsKept db db' ↔ ∀ req' running entry db₁,
          ReachesTurn env respawnMaster req db req' running entry db₁ →
            TurnKeeps env req' running entry db₁ := by
      refine iff_of_true (fun id agent found _ => by simp [same, found]) ?_
      rintro _ running entry db₁ ⟨_, status, db₀, opened', reached, -⟩
      rw [opened] at opened'
      cases opened'
      exact absurd reached (unreached status db₀)
    rw [ends_bind]
    cases hm : realignMaster env req' session respawnMaster db with
    | error e db₀ =>
      unfold Ends at agents ⊢
      rw [hm] at agents ⊢
      exact stops (by simp [hm]) agents
    | ok x db₀ =>
      obtain ⟨status, goesOn⟩ := x
      rw [ends_iff_of_eq_ok hm] at agents ⊢
      cases goesOn with
      | false => exact stops (by simp [hm]) agents
      | true =>
        have turns : (∀ req' running entry db₁,
            ReachesTurn env respawnMaster req db req' running entry db₁ →
              TurnKeeps env req' running entry db₁) ↔ ∀ entry db₁,
            Reached (realignTurn env req' (runningAgentHashes db₀ req'.sessionId)) req'.agents db₀
              entry db₁ → TurnKeeps env req' (runningAgentHashes db₀ req'.sessionId) entry db₁ := by
          constructor
          · exact fun h entry db₁ reached =>
              h req' _ entry db₁ ⟨session, status, db₀, opened, hm, rfl, reached⟩
          · rintro h _ running entry db₁ ⟨_, _, _, opened', hm', rfl, reached⟩
            rw [opened] at opened'
            cases opened'
            rw [hm] at hm'
            cases hm'
            exact h entry db₁ reached
        simp only [turns, ← AgentsKept.congr agents]
        refine ends_bind.mpr (ends_bind.mpr (ends_get.mpr (ends_bind.mpr ?_)))
        refine (ends_loop_rows env req' db₀).mono fun r db' h => ?_
        cases r with
        | error => exact h.2
        | ok results =>
          have returned : Returned req'.sessionId db₀ db' := h.1 rfl
          have kept := returned.agentsKept
          refine ends_bind.mpr ((ends_forEach (fun orphan _ db kept =>
            ends_realignOrphan_rows req'.force now orphan db₀ db kept) kept).mono fun r db'' kept' => ?_)
          have done := iff_of_true kept' (h.2.mp kept)
          cases r <;> exact done

/-- A realign that fails keeps the agents. -/
def RealignKeepsAgents : Prop :=
  ∀ (env : SpawnEnv) (respawnMaster : EStateM CcbdError Db Bool) (req : RealignRequest)
    (now : Int) (db : Db), Keeps Db.agents respawnMaster →
    Ends (handleSessionRealign env respawnMaster req now) db fun r db' =>
      r.isOk = false → AgentsKept db db'

/-- An agent, and a second one whose process does not start. -/
def realignA1AndA2 : RealignRequest :=
  { realignA1 with agents := realignA1.agents ++ [({ agentId := "a2", provider := "claude" },
      { process := .error (.environmentNotSupported "no tmux"), now := 5 })] }

/-- The call respawns the first agent, which is CRASHED, and fails at the second. -/
theorem realign_agentsKept_secondFails :
    ∃ db : Db, db.stateOf "a1" = some .crashed ∧
      Ends (handleSessionRealign (.plain fun _ => "h1") (pure true) realignA1AndA2 5) db
        fun r db' => r.isOk = false ∧ AgentsKept db db' := by
  obtain ⟨db, state, session, crashed, new, fails⟩ : ∃ db : Db, db.stateOf "a1" = some .crashed ∧
      db.sessions.get? "s1" = Db.oneSession.sessions.get? "s1" ∧
      realignDecision ((runningAgentHashes db "s1").lookup "a1") "h1" false = .respawnCrashed ∧
      (runningAgentHashes db "s1").lookup "a2" = none ∧
      Ends (handleSessionRealign (.plain fun _ => "h1") (pure true) realignA1AndA2 5) db
        fun r _ => r.isOk = false :=
    ⟨(DbOp.markCrashed "a1" none "EXIT" 1).apply (hashedDb "h0"), by decide +kernel,
      by decide +kernel, by decide +kernel, by decide +kernel, by decide +kernel⟩
  refine ⟨db, state, (fails.and (realign_agentsKept_iff (.plain fun _ => "h1") (pure true)
    (.pure true) realignA1AndA2 5 db)).mono fun _ _ h => ⟨h.1, h.2.mpr ?_⟩⟩
  rintro req' running entry db₁ ⟨s, status, db₀, opened, master, rfl, reached⟩
  have e : openRealign (.plain fun _ => "h1") realignA1AndA2 db =
      .ok ((Db.oneSession.sessions.get? "s1").get rfl, realignA1AndA2) := by
    simp only [openRealign, realignA1AndA2, realignA1, session]
    rfl
  rw [e] at opened
  cases opened
  obtain ⟨status', unforced⟩ := realignMaster_unforced (.plain fun _ => "h1")
    (rfl : realignA1AndA2.force = false) _ (pure true)
  rw [unforced] at master
  cases master
  cases reached with
  | head =>
    refine fun _ => .inr ⟨rfl, _, (Db.oneSession.sessions.get? "s1").get rfl, rfl, ?_, rfl, rfl, rfl⟩
    have base : respawnBase (realignDecision ((runningAgentHashes db "s1").lookup "a1") "h1" false)
        ((runningAgentHashes db "s1").lookup "a1") db "a1" 5 = db := by simp [respawnBase, crashed]
    exact (congrArg (fun db : Db => db.sessions.get? "s1") base).trans session
  | tail _ rest =>
    cases rest with
    | head =>
      rintro (h | h) <;> cases (realignDecision_eq_spawnNew.mpr new).symm.trans h
    | tail _ rest => cases rest

/-- The agent has drifted and its process does not start: the row is gone. -/
theorem not_realignKeepsAgents : ¬RealignKeepsAgents := by
  intro keeps
  let req : RealignRequest :=
    { realignA1 with agents := [({ agentId := "a1", provider := "claude" },
        { process := .error (.environmentNotSupported "no tmux"), now := 5 })] }
  obtain ⟨db, there, gone⟩ : ∃ db : Db,
      (db.agents.get? "a1").any (·.state ≠ .killed) = true ∧
      Ends (handleSessionRealign (.plain fun _ => "h1") (pure true) req 5) db fun r db' =>
        r.isOk = false ∧ (db'.agents.get? "a1").isSome = false :=
    ⟨hashedDb "h0", by decide +kernel, by decide +kernel⟩
  obtain ⟨agent, found, alive⟩ := (Option.any_eq_true ..).mp there
  have kept := keeps (.plain fun _ => "h1") (pure true) req 5 db (.pure true)
  refine ends_const.mp ((kept.and gone).mono fun r db' h => ?_)
  have row := h.1 h.2.1 "a1" agent found (by simpa using alive)
  rw [h.2.2] at row
  cases row

end Ccbd
