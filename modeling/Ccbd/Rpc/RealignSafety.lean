import Ccbd.Dispatch.Operations
import Ccbd.Rpc.RealignEffects

/-!
# What an unforced realign does to work in flight

An unforced realign means to leave an agent that is at work alone: a BUSY agent is skipped.
But an agent has DISPATCHED or QUEUED jobs in other states too, and the respawn of a drifted
agent deletes its row, with which all of its jobs go. The same happens when a KILLED row is
replaced. The work of a session is kept just if no job in flight belongs to such an agent.
-/

namespace Ccbd

open Lib

/-- The job is QUEUED or DISPATCHED and its agent is not CRASHED. -/
def Db.InFlight (db : Db) (j : String) (job : Job) : Prop :=
  db.jobs.get? j = some job ∧ (job.status = .queued ∨ job.status = .dispatched) ∧
    db.stateOf job.agentId ≠ some .crashed

/-- Every job in flight in `db` is still there in `db'`, and not FAILED. -/
def WorkKept (db db' : Db) : Prop :=
  ∀ j job, db.InFlight j job → ∃ job', db'.jobs.get? j = some job' ∧ job'.status ≠ .failed

/-- No job in flight belongs to the agent. -/
def Db.NoWork (db : Db) (agentId : String) : Prop :=
  ∀ j job, db.InFlight j job → job.agentId ≠ agentId

/-- Carrying the decision out in `db` destroys no job in flight of the agent. -/
def RealignDecision.Spares (decision : RealignDecision) (db : Db) (agentId : String) : Prop :=
  match decision with
  | .spawnNew => db.stateOf agentId = some .killed → db.NoWork agentId
  | .respawnDrifted => db.NoWork agentId
  | .respawnCrashed | .upToDate | .skipBusy => True

/-- What the loop decides for a declared agent when it starts on `db`. -/
def decisionFor (env : SpawnEnv) (req : RealignRequest) (db : Db) (agent : RealignAgentParams) :
    RealignDecision :=
  realignDecision ((runningAgentHashes db req.sessionId).lookup agent.agentId)
    (expectedConfigHash env req.configEnv agent) req.force

/-- An unforced call replaces the row of a declared agent with all its jobs: it is KILLED, or it
is one of the session with another fingerprint, and neither CRASHED nor BUSY. -/
def Displaces (env : SpawnEnv) (req : RealignRequest) (agent : RealignAgentParams)
    (row : Agent) : Prop :=
  row.state = .killed ∨ row.sessionId = req.sessionId ∧ row.state ≠ .crashed ∧
    row.state ≠ .busy ∧ row.configHash ≠ some (expectedConfigHash env req.configEnv agent)

/-- No job in flight belongs to a declared agent whose row is replaced. -/
def SparesWork (env : SpawnEnv) (req : RealignRequest) (db : Db) : Prop :=
  ∀ session req', openRealign env req db = .ok (session, req') → ∀ entry ∈ req'.agents,
    ∀ row, db.agents.get? entry.1.agentId = some row → Displaces env req' entry.1 row →
      db.NoWork entry.1.agentId

theorem decisionFor_spares_iff {req : RealignRequest} (force : req.force = false) :
    (decisionFor env req db agent).Spares db agent.agentId ↔
      ∀ row, db.agents.get? agent.agentId = some row → Displaces env req agent row →
        db.NoWork agent.agentId := by
  have running : (runningAgentHashes db req.sessionId).lookup agent.agentId =
      (db.agents.get? agent.agentId).filter fun row =>
        row.sessionId = req.sessionId && row.state ≠ .killed := by
    ext row
    simp [lookup_runningAgentHashes, Option.filter_eq_some_iff]
  rw [decisionFor, running]
  cases found : db.agents.get? agent.agentId with
  | none => simp [realignDecision, RealignDecision.Spares, Db.stateOf, found]
  | some row =>
    by_cases own : row.sessionId = req.sessionId ∧ row.state ≠ .killed
    · simp only [Option.filter_some, own, realignDecision, force, Displaces, RealignDecision.Spares]
      grind
    · have out : (row.sessionId = req.sessionId && row.state ≠ .killed) = false := by simpa using own
      simp only [Option.filter_some, out, realignDecision, RealignDecision.Spares, Db.stateOf, found,
        Displaces]
      grind

/-! ## The loop -/

section Loop

variable {req : RealignRequest} {db₀ db : Db}

/-- An agent that was not running when the loop started has its row of then, or one that the
loop has inserted. -/
def Stale (sessionId : String) (db₀ db : Db) : Prop :=
  ∀ id, (runningAgentHashes db₀ sessionId).lookup id = none →
    db.agents.get? id = db₀.agents.get? id ∨ db.stateOf id = some .spawning

theorem Stale.turn (h : Stale req.sessionId db₀ db)
    (turn : TurnEffect agent.agentId (decisionFor env req db₀ agent) db r db') :
    Stale req.sessionId db₀ db' := by
  intro id absent
  by_cases e : id = agent.agentId
  · subst e
    have new : decisionFor env req db₀ agent = .spawnNew := realignDecision_eq_spawnNew.mpr absent
    rw [new] at turn
    cases r with
    | ok =>
      obtain ⟨row, hrow, spawning⟩ := Spawned.row turn
      exact .inr (by simp [Db.stateOf, hrow, spawning])
    | error =>
      obtain rfl : db' = db := turn
      exact h _ absent
  · have same := turn.only.agents id e
    simpa only [Db.stateOf, same] using h id absent

/-- A spawn in place of an old row replaces a row that was KILLED when the loop started. -/
theorem Stale.killed {P : Agent → Prop} {id : String} (h : Stale req.sessionId db₀ db)
    (absent : (runningAgentHashes db₀ req.sessionId).lookup id = none)
    (spawned : Spawned db id P db') (row : (db.agents.get? id).isSome) :
    db₀.stateOf id = some .killed := by
  obtain ⟨old, hold⟩ := Option.isSome_iff_exists.mp row
  have killed := spawned.before old hold
  rcases h id absent with same | spawning
  · simp [Db.stateOf, ← same, hold, killed]
  · simp [Db.stateOf, hold, killed] at spawning

/-- The jobs that were in flight when the loop started are as they were. -/
def Untouched (db₀ db : Db) : Prop :=
  ∀ j job, db₀.InFlight j job → db.jobs.get? j = some job

theorem Untouched.of_only (h : Untouched db₀ db) {id : String} (only : OnlyAgent id db db')
    (none : db₀.NoWork id) : Untouched db₀ db' := fun j job hj =>
  only.spares j job (h j job hj) (none j job hj)

theorem Untouched.turn (h : Untouched db₀ db) (stale : Stale req.sessionId db₀ db)
    (spares : (decisionFor env req db₀ agent).Spares db₀ agent.agentId)
    (turn : TurnEffect agent.agentId (decisionFor env req db₀ agent) db r db') :
    Untouched db₀ db' := by
  have only := turn.only
  cases decision : decisionFor env req db₀ agent with
  | spawnNew =>
    rw [decision] at turn spares
    have absent := realignDecision_eq_spawnNew.mp decision
    cases r with
    | error =>
      obtain rfl : db' = db := turn
      exact h
    | ok =>
      have spawned : Spawned db agent.agentId _ db' := turn
      by_cases row : (db.agents.get? agent.agentId).isSome
      · exact h.of_only only (spares (stale.killed absent spawned row))
      · intro j job hj
        rw [spawned.jobs, if_neg row]
        exact h j job hj
  | respawnCrashed =>
    obtain ⟨row, running, crashed⟩ := realignDecision_eq_respawnCrashed.mp decision
    have hrow := (lookup_runningAgentHashes.mp running).1
    refine h.of_only only fun j job hj e => hj.2.2 ?_
    simp [Db.stateOf, e, hrow, crashed]
  | upToDate | skipBusy =>
    rw [decision] at turn
    intro j job hj
    rw [turn.2]
    exact h j job hj
  | respawnDrifted =>
    rw [decision] at spares
    exact h.of_only only spares

/-- The agents that were running when the loop started have a row. -/
def RunningRows (sessionId : String) (db₀ db : Db) : Prop :=
  ∀ id, (runningAgentHashes db₀ sessionId).lookup id ≠ none → (db.agents.get? id).isSome

theorem RunningRows.turn (h : RunningRows req.sessionId db₀ db)
    (turn : TurnEffect agent.agentId (decisionFor env req db₀ agent) db (.ok status) db') :
    RunningRows req.sessionId db₀ db' := by
  intro id running
  by_cases e : id = agent.agentId
  · subst e
    cases decision : decisionFor env req db₀ agent <;> rw [decision] at turn
    case spawnNew => exact Spawned.isSome turn
    case upToDate | skipBusy =>
      rw [turn.1]
      exact h _ running
    case respawnCrashed | respawnDrifted =>
      exact (Respawned.replaced turn status rfl (h _ running)).1
  · rw [turn.only.agents id e]
    exact h id running

/-- A turn that returned and did not spare the agent's work has left it no job. -/
theorem noJobs_of_not_spares (stale : Stale req.sessionId db₀ db)
    (rows : RunningRows req.sessionId db₀ db)
    (destroys : ¬(decisionFor env req db₀ agent).Spares db₀ agent.agentId)
    (turn : TurnEffect agent.agentId (decisionFor env req db₀ agent) db (.ok status) db') :
    db'.NoJobs agent.agentId := by
  cases decision : decisionFor env req db₀ agent with
  | spawnNew =>
    rw [decision] at turn destroys
    have spawned : Spawned db agent.agentId _ db' := turn
    have absent := realignDecision_eq_spawnNew.mp decision
    have killed : db₀.stateOf agent.agentId = some .killed := by
      by_contra other
      exact destroys fun killed => absurd killed other
    have there : (db.agents.get? agent.agentId).isSome := by
      rcases stale _ absent with same | spawning
      · rw [same]
        exact Db.isSome_of_stateOf killed
      · exact Db.isSome_of_stateOf spawning
    intro j job hj
    rw [spawned.jobs, if_pos there] at hj
    exact noJobs_cascadeAgent db _ j job hj
  | respawnDrifted =>
    rw [decision] at turn
    have running : (runningAgentHashes db₀ req.sessionId).lookup agent.agentId ≠ none :=
      mt realignDecision_eq_spawnNew.mpr (by rw [← decisionFor, decision]; nofun)
    exact (Respawned.replaced turn status rfl (rows _ running)).2
  | respawnCrashed | upToDate | skipBusy =>
    rw [decision] at destroys
    exact absurd trivial destroys

theorem ends_realignTurn (env : SpawnEnv) (req : RealignRequest) (db₀ : Db)
    (entry : RealignAgentParams × SpawnAnswers) (db : Db) :
    Ends (realignTurn env req (runningAgentHashes db₀ req.sessionId) entry) db fun _ db' =>
      ∃ r, TurnEffect entry.1.agentId (decisionFor env req db₀ entry.1) db r db' := by
  refine ends_bind.mpr ((ends_realignAgent ..).mono fun r db' turn => ?_)
  cases r with
  | error e => exact ⟨.error e, turn⟩
  | ok status => exact ⟨.ok status, turn⟩

theorem realignTurn_ok
    (h : realignTurn env req (runningAgentHashes db₀ req.sessionId) entry db = .ok result db') :
    ∃ status, TurnEffect entry.1.agentId (decisionFor env req db₀ entry.1) db (.ok status) db' := by
  obtain ⟨status, db₁, hstatus, h⟩ := bind_eq_ok_iff.mp h
  cases h
  exact ⟨status, (ends_realignAgent ..).of_eq_ok hstatus⟩

/-- What the turns before a point of the loop keep if they all returned. -/
structure Returned (sessionId : String) (db₀ db : Db) : Prop where
  stale : Stale sessionId db₀ db
  rows : RunningRows sessionId db₀ db

theorem Returned.refl (sessionId : String) (db : Db) : Returned sessionId db db where
  stale _ _ := .inl rfl
  rows id running := by
    obtain ⟨row, hrow⟩ := Option.ne_none_iff_exists'.mp running
    exact Option.isSome_of_eq_some (lookup_runningAgentHashes.mp hrow).1

theorem Returned.turn (h : Returned req.sessionId db₀ db)
    (turn : realignTurn env req (runningAgentHashes db₀ req.sessionId) entry db = .ok result db') :
    Returned req.sessionId db₀ db' := by
  obtain ⟨status, effect⟩ := realignTurn_ok turn
  exact ⟨h.stale.turn effect, h.rows.turn effect⟩

theorem kept_forEach_realignTurn
    (h : forEach (realignTurn env req running) entries db = .ok results db') (j : String)
    (job : Job) (hj : db'.jobs.get? j = some job) :
    job.status = .failed ∨ db.jobs.get? j = some job := by
  refine forEach_invariant
    (I := fun s => ∀ job, s.jobs.get? j = some job →
      job.status = .failed ∨ db.jobs.get? j = some job)
    ?_ h (fun _ hj => .inr hj) job hj
  intro entry _ s result s' kept turn job hj
  obtain ⟨status, s₁, hstatus, rest⟩ := bind_eq_ok_iff.mp turn
  cases rest
  rcases ((ends_realignAgent ..).of_eq_ok hstatus).only.kept j job hj with failed | hj
  · exact .inl failed
  · exact kept job hj

theorem ends_loop (spares : ∀ entry ∈ req.agents,
      (decisionFor env req db₀ entry.1).Spares db₀ entry.1.agentId) :
    Ends (forEach (realignTurn env req (runningAgentHashes db₀ req.sessionId)) req.agents) db₀
      fun _ db' => Untouched db₀ db' := by
  have start : Stale req.sessionId db₀ db₀ ∧ Untouched db₀ db₀ :=
    ⟨(Returned.refl ..).stale, fun _ _ hj => hj.1⟩
  refine (ends_forEach (I := fun db => Stale req.sessionId db₀ db ∧ Untouched db₀ db) ?_ start).mono
    fun _ _ h => h.2
  rintro entry hentry db ⟨stale, untouched⟩
  refine (ends_realignTurn env req db₀ entry db).mono ?_
  rintro _ db' ⟨r, turn⟩
  exact ⟨stale.turn turn, untouched.turn stale (spares entry hentry) turn⟩

theorem Untouched.workKept (h : Untouched db₀ db) : WorkKept db₀ db := by
  rintro j job hj
  refine ⟨job, h j job hj, ?_⟩
  rcases hj.2.1 with e | e <;> simp [e]

theorem spares_of_workKept
    (loop : forEach (realignTurn env req (runningAgentHashes db₀ req.sessionId)) req.agents db₀ =
      .ok results db') (kept : WorkKept db₀ db') (hentry : entry ∈ req.agents) :
    (decisionFor env req db₀ entry.1).Spares db₀ entry.1.agentId := by
  by_contra destroys
  -- the entry's turn has left its agent no job, and no later turn brings one back
  obtain ⟨before, after, _, result, _, db₁, db₂, _, first, turn, last⟩ := forEach_eq_ok loop hentry
  have at₁ : Returned req.sessionId db₀ db₁ :=
    forEach_invariant (fun _ _ _ _ _ h turn => h.turn turn) first (.refl ..)
  obtain ⟨status, effect⟩ := realignTurn_ok turn
  have gone : db₂.NoJobs entry.1.agentId := noJobs_of_not_spares at₁.stale at₁.rows destroys effect
  have none : db₀.NoWork entry.1.agentId := by
    intro j job hj own
    obtain ⟨job', hj', alive⟩ := kept j job hj
    have in₂ := (kept_forEach_realignTurn last j job' hj').resolve_left alive
    have in₀ := (kept_forEach_realignTurn loop j job' hj').resolve_left alive
    rw [hj.1] at in₀
    cases in₀
    exact gone j job in₂ own
  cases decision : decisionFor env req db₀ entry.1 <;> rw [decision] at destroys
  case spawnNew => exact destroys fun _ => none
  case respawnDrifted => exact destroys none
  case respawnCrashed | upToDate | skipBusy => exact destroys trivial

end Loop

/-! ## The call -/

section Call

variable {req : RealignRequest}

/-- What holds when the loop ends holds when an unforced call does. -/
theorem ends_handleSessionRealign {I : Bool → Db → Prop} (force : req.force = false)
    (unopened : (∀ opened, openRealign env req db ≠ .ok opened) → I false db)
    (loop : ∀ session req', openRealign env req db = .ok (session, req') →
      Ends (forEach (realignTurn env req' (runningAgentHashes db req'.sessionId)) req'.agents) db
        fun r db' => I r.isOk db') (respawnMaster : EStateM CcbdError Db Bool) (now : Int) :
    Ends (handleSessionRealign env respawnMaster req now) db fun r db' => I r.isOk db' := by
  refine ends_bind.mpr (ends_atomic.mpr ?_)
  cases opened : openRealign env req db with
  | error => exact unopened (by simp [opened])
  | ok r =>
    obtain ⟨session, req'⟩ := r
    have force' : req'.force = false := (openRealign_ok opened).2.1.1.trans force
    obtain ⟨status, master⟩ := realignMaster_unforced env force' session respawnMaster
    simp only [Except.map, master, pure_bind]
    refine ends_bind.mpr (ends_bind.mpr (ends_get.mpr (ends_bind.mpr ?_)))
    refine (loop session req' opened).mono fun r db' h => ?_
    cases r with
    | error => exact h
    | ok results =>
      simp only [force', forEach_realignOrphan_unforced]
      exact h

end Call

/-- An unforced realign that returns keeps all work in flight. -/
def RealignKeepsWork : Prop :=
  ∀ (env : SpawnEnv) (respawnMaster : EStateM CcbdError Db Bool) (req : RealignRequest)
    (now : Int) (db : Db), req.force = false →
    Ends (handleSessionRealign env respawnMaster req now) db fun r db' =>
      r.isOk → WorkKept db db'

/-- An unforced realign keeps the work in flight if no declared agent with such work is one
it replaces, however the call ends; a call that returns keeps it only then. -/
theorem workKept_iff (env : SpawnEnv) (respawnMaster : EStateM CcbdError Db Bool)
    (req : RealignRequest) (now : Int) (db : Db) (force : req.force = false) :
    Ends (handleSessionRealign env respawnMaster req now) db fun r db' =>
      (SparesWork env req db → WorkKept db db') ∧
        (r.isOk → (WorkKept db db' ↔ SparesWork env req db)) := by
  let I (ok : Bool) (db' : Db) : Prop := (SparesWork env req db → WorkKept db db') ∧
    (ok = true → (WorkKept db db' ↔ SparesWork env req db))
  refine ends_handleSessionRealign (I := I) force (fun _ => ⟨fun _ => ?_, nofun⟩) ?_ _ _
  · exact Untouched.workKept fun _ _ hj => hj.1
  · intro session req' opened
    have force' : req'.force = false := (openRealign_ok opened).2.1.1.trans force
    have sound : SparesWork env req db →
        Ends (forEach (realignTurn env req' (runningAgentHashes db req'.sessionId)) req'.agents) db
          fun _ db' => WorkKept db db' := fun spares =>
      (ends_loop fun entry hentry => (decisionFor_spares_iff force').mpr
        (spares session req' opened entry hentry)).mono fun _ _ => Untouched.workKept
    unfold Ends at sound ⊢
    cases loop : forEach (realignTurn env req' (runningAgentHashes db req'.sessionId))
        req'.agents db with
    | error e db' =>
      rw [loop] at sound
      exact ⟨sound, nofun⟩
    | ok turns db' =>
      rw [loop] at sound
      refine ⟨sound, fun _ => ⟨fun kept => ?_, sound⟩⟩
      intro session₁ req₁ opened₁ entry hentry
      rw [opened] at opened₁
      cases opened₁
      exact (decisionFor_spares_iff force').mp (spares_of_workKept loop kept hentry)

/-- An agent with one job, spawned with the fingerprint. -/
def hashedDb (configHash : String) : Db :=
  { idleAgentDb with
    agents := idleAgentDb.agents.modify "a1" ({ · with configHash := some configHash }) }

def realignA1 : RealignRequest where
  sessionId := "s1"
  agents := [({ agentId := "a1", provider := "claude" }, { process := .ok 20, now := 5 })]

/-- The agent is up to date and keeps its queued job. -/
theorem workKept_iff_upToDate :
    Ends (handleSessionRealign (.plain fun _ => "h1") (pure true) realignA1 5) (hashedDb "h1")
      fun _ db' => WorkKept (hashedDb "h1") db' := by
  refine (workKept_iff (.plain fun _ => "h1") (pure true) realignA1 5 (hashedDb "h1") rfl).mono
    fun _ _ h => h.1 ?_
  intro session req' opened entry hentry
  have e : openRealign (.plain fun _ => "h1") realignA1 (hashedDb "h1") = .ok (_, realignA1) := rfl
  cases opened
  obtain rfl := List.mem_singleton.mp hentry
  rintro row ⟨⟩ (killed | ⟨-, -, -, drifted⟩)
  · cases killed
  · exact absurd rfl drifted

/-- The agent has been sent its job and not yet acknowledged it when the call finds that its
fingerprint has changed: the job goes with the row. -/
theorem not_realignKeepsWork : ¬RealignKeepsWork := by
  intro keeps
  -- the database stays abstract, so that only the two checks evaluate the call
  obtain ⟨db, sent, gone⟩ : ∃ db : Db,
      (db.jobs.get? "j1").any (fun job => job.status = .dispatched &&
        db.stateOf job.agentId ≠ some .crashed) = true ∧
      Ends (handleSessionRealign (.plain fun _ => "h1") (pure true) realignA1 5) db fun r db' =>
        r.isOk = true ∧ (db'.jobs.get? "j1").isSome = false :=
    ⟨(DbOp.dispatchQueuedJob "a1" 1).apply (hashedDb "h0"), by decide +kernel, by decide +kernel⟩
  obtain ⟨job, hjob, dispatched⟩ := (Option.any_eq_true ..).mp sent
  simp only [Bool.and_eq_true, decide_eq_true_eq] at dispatched
  have kept := keeps (.plain fun _ => "h1") (pure true) realignA1 5 db rfl
  refine ends_const.mp ((kept.and gone).mono fun r db' ⟨kept, ok, gone⟩ => ?_)
  obtain ⟨job', hjob', -⟩ := kept ok "j1" job ⟨hjob, .inr dispatched.1, dispatched.2⟩
  rw [hjob'] at gone
  cases gone

end Ccbd
