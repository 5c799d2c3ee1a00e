import Ccbd.Audit.Changes
import Ccbd.Dispatch.Refinement

/-!
# Dispatched jobs of dead agents

An agent that goes down has its dispatched jobs failed in the same transaction, so no
KILLED or CRASHED agent owns a DISPATCHED job. Two writers do not look at the jobs: the
shutdown of the daemon, and the recovery loop when it restores the state CRASHED.
-/

namespace Ccbd

open Lib

/-- No KILLED or CRASHED agent owns a DISPATCHED job. -/
def Db.NoneOnDead (d : Db) : Prop :=
  ∀ a agent, d.agents.get? a = some agent → agent.state.isUp = false → ∀ j, ¬d.Owns a j

/-- The foreign key `jobs.agent_id`, for the DISPATCHED jobs. -/
def Db.OwnersExist (d : Db) : Prop := ∀ a j, d.Owns a j → (d.agents.get? a).isSome

def Db.Up (d : Db) (a : String) : Prop :=
  ∃ agent, d.agents.get? a = some agent ∧ agent.state.isUp = true

/-- Both together: every DISPATCHED job belongs to an agent that is up. -/
def Db.HeldByUp (d : Db) : Prop := ∀ a j, d.Owns a j → d.Up a

theorem Db.heldByUp_iff {d : Db} : d.HeldByUp ↔ d.NoneOnDead ∧ d.OwnersExist := by
  constructor
  · intro held
    refine ⟨fun a agent found down j owns => ?_, fun a j owns => ?_⟩
    · obtain ⟨agent', found', up⟩ := held a j owns
      rw [found] at found'
      cases found'
      rw [down] at up
      cases up
    · obtain ⟨agent, found, -⟩ := held a j owns
      exact Option.isSome_of_eq_some found
  · rintro ⟨none, exist⟩ a j owns
    obtain ⟨agent, found⟩ := Option.isSome_iff_exists.mp (exist a j owns)
    refine ⟨agent, found, ?_⟩
    by_contra down
    exact none a agent found (by simpa using down) j owns

/-! ## What keeps a holder up -/

variable {now : Int} {targets : List AgentState} {n : Nat} {reason sessionId : String}

open Db

section Keeps

variable {d d₁ d' : Db} {a b j : String}

theorem Db.up_iff : d.Up a ↔ ∃ s v, (d.account a).row = some (s, v) ∧ s.isUp = true := by
  cases found : d.agents.get? a <;> simp [Up, account]

theorem Db.Up.of_row (up : d.Up a) (same : d'.agents.get? a = d.agents.get? a) : d'.Up a := by
  obtain ⟨agent, found, state⟩ := up
  exact ⟨agent, same.trans found, state⟩

theorem Db.Up.of_step (up : d.Up a) (step : Account.Step targets (d.account a) (d'.account a))
    (targetsUp : ∀ t ∈ targets, t.isUp = true) : d'.Up a := by
  rw [up_iff] at up ⊢
  obtain ⟨s, v, row, state⟩ := up
  revert row
  generalize d.account a = x at step
  generalize d'.account a = x' at step
  intro row
  cases step with
  | keep => exact ⟨s, v, row, state⟩
  | bump =>
    cases row
    exact ⟨_, _, rfl, state⟩
  | move v cs reached records => exact ⟨_, _, rfl, targetsUp _ reached⟩

theorem Db.owns_of_jobs (jobs : d'.jobs = d.jobs) (owns : d'.Owns a j) : d.Owns a j := by
  unfold Owns at *
  rwa [jobs] at owns

theorem Db.HeldByUp.of_steps (held : d.HeldByUp) (jobs : d'.jobs = d.jobs)
    (steps : ∀ a, Account.Step targets (d.account a) (d'.account a))
    (targetsUp : ∀ t ∈ targets, t.isUp = true) : d'.HeldByUp :=
  fun a j owns => (held a j (owns_of_jobs jobs owns)).of_step (steps a) targetsUp

theorem Db.owns_of_modify (jobs : d'.jobs = d.jobs.modify k f)
    (kept : ∀ job, (f job).agentId = a → (f job).status = .dispatched →
      job.agentId = a ∧ job.status = .dispatched) (owns : d'.Owns a j) : d.Owns a j := by
  obtain ⟨job', found', owner, dispatched⟩ := owns
  rw [jobs, Table.get?_modify] at found'
  split_ifs at found'
  · obtain ⟨job, found, rfl⟩ := Option.map_eq_some_iff.mp found'
    exact ⟨job, found, kept job owner dispatched⟩
  · exact ⟨job', found', owner, dispatched⟩

/-- Nothing but a dispatch gives an agent a job. -/
theorem SideWrite.owns (h : SideWrite S d d') (undispatched : ∀ e ∈ S.edges, e.2 ≠ .dispatched)
    (owns : d'.Owns a j) : d.Owns a j := by
  cases h with
  | @move k job row m now found edge =>
    refine owns_of_modify rfl (fun job _ dispatched => ?_) owns
    rw [m.apply_status] at dispatched
    exact absurd dispatched (undispatched _ edge)
  | create fresh new =>
    obtain ⟨job', found', owner, dispatched⟩ := owns
    rw [appendJobTransition_jobs, Table.get?_insert fresh] at found'
    split_ifs at found'
    · cases found'
      rw [new.1] at dispatched
      cases dispatched
    · exact ⟨job', found', owner, dispatched⟩
  | ask => exact owns_of_modify (f := Job.requestCancel) rfl (fun _ => .intro) owns
  | mark k marks =>
    exact owns_of_modify rfl (fun job owner dispatched =>
      ⟨(marks job).owner ▸ owner, (marks job).status ▸ dispatched⟩) owns
  | note | review | cite | intent => exact owns

theorem Turn.owns (h : Turn S c d d')
    (undispatched : ∀ e ∈ S.edges, e.2 ≠ .dispatched) (owns : d'.Owns a j) : d.Owns a j :=
  h.lift (R := fun d d' => d'.Owns a j → d.Owns a j) (fun _ => id)
    (fun _ _ _ first later => first ∘ later) (fun _ _ write => write.owns undispatched)
    (fun _ _ _ _ _ _ _ => id) (fun _ _ _ => id) (fun _ _ _ => id) owns

theorem SideWrites.owns (h : SideWrites S d d') (undispatched : ∀ e ∈ S.edges, e.2 ≠ .dispatched)
    (owns : d'.Owns a j) : d.Owns a j :=
  (Turn.side (a := a) h).owns undispatched owns

theorem Db.HeldByUp.of_tables (held : d.HeldByUp) (agents : d'.agents = d.agents)
    (jobs : d'.jobs = d.jobs) : d'.HeldByUp :=
  fun a j owns => (held a j (owns_of_jobs jobs owns)).of_row (by rw [agents])

/-! ## Agents that go down -/

theorem GoesDown.owns (down : GoesDown d a reason now f d')
    (owns : d'.Owns b j) : d.Owns b j ∧ b ≠ a := by
  obtain ⟨job', found', owner, dispatched⟩ := owns
  rw [down.jobs] at found'
  obtain ⟨job, found, rfl⟩ := Option.map_eq_some_iff.mp found'
  split_ifs at owner dispatched with fails
  · cases dispatched
  · refine ⟨⟨job, found, owner, dispatched⟩, ?_⟩
    rintro rfl
    exact fails ⟨owner, dispatched⟩

theorem Db.HeldByUp.goesDown (held : d.HeldByUp)
    (down : GoesDown d a reason now f d') : d'.HeldByUp := by
  intro b j owns
  obtain ⟨owns, other⟩ := down.owns owns
  exact (held b j owns).of_row (by rw [down.agents, Table.get?_modify_of_ne _ _ other])

theorem Db.HeldByUp.killTerminalAgents (held : d.HeldByUp)
    (h : Ccbd.killTerminalAgents sessionId reason now ids d = .ok (n, d')) : d'.HeldByUp := by
  refine killTerminalAgents_invariant (I := HeldByUp) ?_ held h
  intro a d n d' held turn
  rcases killTerminalAgent_ok turn with ⟨-, rfl⟩ | ⟨-, down⟩
  · exact held
  · exact held.goesDown down

theorem Db.HeldByUp.startupReconcile (held : d.HeldByUp)
    (h : startupReconcilePhaseCCrashDead now crashes d = .ok (n, d')) : d'.HeldByUp := by
  refine startupReconcilePhaseCCrashDead_invariant (I := HeldByUp) ?_ held h
  intro crash d n d' held turn
  rcases crashDeadAgent_ok turn with rfl | ⟨-, down⟩
  · exact held
  · exact held.goesDown down

/-! ## Rows that come and go -/

theorem Db.owns_cascadeAgent (owns : (d.cascadeAgent a).Owns b j) : d.Owns b j ∧ b ≠ a := by
  obtain ⟨job, found, owner, dispatched⟩ := owns
  rw [get?_cascadeAgent_jobs, Option.filter_eq_some_iff] at found
  refine ⟨⟨job, found.1, owner, dispatched⟩, ?_⟩
  rintro rfl
  simp [owner] at found

theorem Db.HeldByUp.deleteAgent (held : d.HeldByUp)
    (h : d.deleteAgent a context = .ok d') : d'.HeldByUp := by
  obtain ⟨-, rfl⟩ | rfl := Db.deleteAgent_ok h
  · exact held
  · intro b j owns
    obtain ⟨owns, other⟩ := Db.owns_cascadeAgent owns
    exact (held b j owns).of_row (by rw [Db.get?_cascadeAgent_agents, if_neg other])

/-- A missing agent owns nothing, so whatever row it gets holds no job. -/
theorem Db.HeldByUp.newRow {P : Agent → Prop} (held : d.HeldByUp) (new : NewRow d a P d') :
    d'.HeldByUp := by
  intro b j owns
  have up := held b j (owns_of_jobs new.jobs owns)
  refine up.of_row (new.others b ?_)
  rintro rfl
  obtain ⟨agent, found, -⟩ := up
  rw [new.absent] at found
  cases found

theorem Db.HeldByUp.insertAgentSync (held : d.HeldByUp) (a s p : String) (state : AgentState)
    (pid : Option Int) (now : Int) : (Ccbd.insertAgentSync d a s p state pid now).2.HeldByUp := by
  rcases insertAgentSync_cases d a s p state pid now with same | ⟨d₁, deleted, same | new⟩
  · rwa [same]
  · rw [same]
    exact held.deleteAgent deleted
  · exact (held.deleteAgent deleted).newRow new

theorem Db.HeldByUp.replaceKilledAgent {hash : String} (held : d.HeldByUp)
    (h : replaceKilledAgentAndRequeueJobSync d sessionId spec hash pid intent now = .ok (n, d')) :
    d'.HeldByUp := by
  obtain ⟨d₁, d₂, -, deleted, new, requeued⟩ := replaceKilledAgentAndRequeueJobSync_ok h
  have respawned := (held.deleteAgent deleted).newRow new
  have requeued : SideWrites { edges := [(.failed, .queued)] } d₂ d' :=
    requeueCapturedIntent_side (.head _) requeued
  intro b j owns
  have up := respawned b j (requeued.owns (by simp) owns)
  exact up.of_row (by rw [requeued.agents])

theorem Db.HeldByUp.restoreCrashedRow (held : d.HeldByUp) (a : String) (agent : Agent)
    (hash : String) (now : Int) : (Ccbd.restoreCrashedRow a agent hash now d).2.HeldByUp := by
  rcases restoreCrashedRow_cases a agent hash now d with same | new
  · rwa [same]
  · exact held.newRow new

end Keeps

/-! ## The operations on running agents -/

section Running

variable {d : Db} {op : DbOp} {a j : String}

theorem DbOp.up_apply (targetsUp : ∀ t ∈ op.targets, t.isUp = true) (up : d.Up a) :
    (op.apply d).Up a := by
  cases restores : op.restores? d with
  | none => exact up.of_step (Account.step_of_dbOp restores a) targetsUp
  | some b =>
    have account := Account.account_requeue restores a
    obtain ⟨agent, found, state⟩ := up
    rw [Db.up_iff, account]
    split_ifs
    · exact ⟨.idle, agent.stateVersion + 1, by simp [Db.account, Account.restored, found], rfl⟩
    · exact ⟨agent.state, agent.stateVersion, by simp [Db.account, found], state⟩

theorem DbOp.owns_of_owns (notDispatch : ∀ a now, op ≠ .dispatchQueuedJob a now)
    (owns : (op.apply d).Owns a j) : d.Owns a j := by
  by_cases asserts : ∃ a e now, op = .assertIdle a e now
  · obtain ⟨b, e, now, rfl⟩ := asserts
    refine owns_of_jobs ?_ owns
    refine commit_induction (P := fun d' => d'.jobs = d.jobs) rfl fun n d' h => ?_
    obtain ⟨_, _, -, -, -, -, -, jobs⟩ := assertStateToIdleSync_ok h
    exact jobs
  · exact Board.holds_board.mp ((Board.move_apply op notDispatch fun b e now h =>
      asserts ⟨b, e, now, h⟩).holds_of_holds (Board.holds_board.mpr owns))

theorem Db.HeldByUp.dispatch (held : d.HeldByUp) (b : String) (now : Int) :
    ((DbOp.dispatchQueuedJob b now).apply d).HeldByUp := by
  intro a j owns
  have targetsUp : ∀ t ∈ (DbOp.dispatchQueuedJob b now).targets, t.isUp = true := by
    simp [DbOp.targets, AgentState.isUp]
  have old : d.Owns a j → ((DbOp.dispatchQueuedJob b now).apply d).Up a :=
    fun owned => DbOp.up_apply targetsUp (held a j owned)
  cases h : dispatchQueuedJob d b now with
  | error e =>
    have same : (DbOp.dispatchQueuedJob b now).apply d = d := by simp [DbOp.apply, h, commit]
    rw [same] at owns
    exact old owns
  | ok r =>
    obtain ⟨r, d'⟩ := r
    have post : (DbOp.dispatchQueuedJob b now).apply d = d' := by simp [DbOp.apply, h, commit]
    rw [post] at owns
    rcases Board.dispatch_of_ok h with ⟨-, same⟩ | ⟨k, job, -, dispatch⟩
    · rw [same] at owns
      exact old owns
    · rcases dispatch.holds_iff.mp (Board.holds_board.mpr owns) with before | ⟨rfl, rfl⟩
      · exact old (Board.holds_board.mp before)
      · -- the agent that takes a job was IDLE
        obtain ⟨agent, found, idle⟩ := Option.map_eq_some_iff.mp dispatch.idle
        exact DbOp.up_apply targetsUp ⟨agent, found, by rw [idle]; rfl⟩

theorem Db.HeldByUp.markAgentCrashed (held : d.HeldByUp)
    (h : markAgentCrashedSync d a exit code now = .ok (n, d')) : d'.HeldByUp := by
  rcases markAgentCrashedSync_ok h with ⟨-, rfl, -⟩ | ⟨-, agent, reason, -, -, -, -, down⟩
  · exact held
  · exact held.goesDown down

theorem Db.HeldByUp.apply_dbOp (held : d.HeldByUp) (op : DbOp) : (op.apply d).HeldByUp := by
  cases op with
  | dispatchQueuedJob b now => exact held.dispatch b now
  | ackFallbackCrashed b reason now =>
    refine commit_induction held fun n d' h => ?_
    unfold fallbackAckToCrashed at h
    split at h
    · exact held.markAgentCrashed h
    · cases h
      exact held
  | markCrashed =>
    exact commit_induction held fun n d' h => held.markAgentCrashed h
  | markKilled =>
    refine commit_induction held fun n d' h => ?_
    rcases markAgentKilledSyncInner_ok h with ⟨-, rfl, -⟩ | ⟨-, agent, -, -, -, down⟩
    · exact held
    · exact held.goesDown down
  | _ =>
    intro a j owns
    refine DbOp.up_apply ?_ (held a j (DbOp.owns_of_owns (by simp) owns))
    simp [DbOp.targets, AgentState.isUp]

end Running

/-! ## Every operation -/

/-- The operation puts no agent down that owns a DISPATCHED job without failing the job. -/
def DaemonOp.StrandsNone (d : Db) : DaemonOp → Prop
  | shutdown _ => ∀ a agent, d.agents.get? a = some agent → d.shutsDown agent = true →
      ∀ j, ¬d.Owns a j
  | restoreCrashedState a _ => (d.agents.get? a).isSome = true → ∀ j, ¬d.Owns a j
  | _ => True

section Daemon

variable {d d' : Db}

theorem Db.owns_shutdown :
    ((DaemonOp.shutdown now).apply d).Owns a j ↔ d.Owns a j := by
  obtain ⟨sessions, agents, same⟩ := shutdown_tables d now
  rw [same]
  rfl

theorem Db.HeldByUp.apply (held : d.HeldByUp) {op : DaemonOp} (h : op.StrandsNone d) :
    (op.apply d).HeldByUp := by
  have committed : ∀ {α : Type} {r : Except CcbdError (α × Db)},
      (∀ x d', r = .ok (x, d') → d'.HeldByUp) → (commit r d).HeldByUp :=
    fun success => commit_induction held success
  have turn {S : Scope} (h : op.scope? = some S) (told : S.restores = false) (idle : S.edges = [])
      (up : ∀ t ∈ S.targets, t.isUp = true) : (op.apply d).HeldByUp := by
    obtain ⟨c, turn⟩ := DaemonOp.turn h d
    intro a j owns
    exact (held a j (turn.owns (by simp [idle]) owns)).of_step (turn.step told a) up
  cases op with
  | db op => exact held.apply_dbOp op
  | seedProbe | learnedReadiness | spawningIntervention | resolvePrompt | unparkPrompt
  | promptPendingEmitUnknown | recordEvidence | discardEvidence =>
    exact turn rfl rfl rfl (by simp [AgentState.isUp])
  | shutdown now =>
    intro a j owns
    have owns := owns_shutdown.mp owns
    obtain ⟨agent, found, up⟩ := held a j owns
    refine ⟨agent, (get?_shutdown d now a).trans ?_, up⟩
    rw [found, Option.map_some, if_neg fun reached => h a agent found reached j owns]
  | cleanTerminalSession => exact committed fun _ _ => held.killTerminalAgents
  | reconcileStartup => exact committed fun _ _ => held.startupReconcile
  | claimRecovery a v nowTs now =>
    refine held.of_steps ?_ (Account.tryClaimAgentRecoverySync_step d a v nowTs now) (by simp)
    simp only [DaemonOp.apply, tryClaimAgentRecoverySync]
    split_ifs <;> rfl
  | restoreCrashedRow => exact held.restoreCrashedRow _ _ _ _
  | restoreCrashedState a now =>
    intro b j owns
    have up := held b j (owns_of_jobs rfl owns)
    refine up.of_row (Table.get?_modify_of_ne _ _ ?_)
    rintro rfl
    obtain ⟨agent, found, -⟩ := up
    exact h (Option.isSome_of_eq_some found) j (owns_of_jobs rfl owns)
  | insertAgent => exact held.insertAgentSync _ _ _ _ _ _
  | deleteAgent a =>
    refine committed fun _ d' hr => ?_
    obtain ⟨d₁, deleted, same⟩ := map_eq_ok.mp hr
    cases same
    exact held.deleteAgent deleted
  | replaceKilledAgent => exact committed fun _ _ => held.replaceKilledAgent
  | stoppedUndeclaredAlert | healthStuckReport | queuedStarvationAlert | suppressionEscalated
  | paneDiffStuckAlert | uiRecaptureAlert =>
    refine commit_induction held fun n d' h => ?_
    obtain ⟨events, rfl⟩ := insertEventSync_ok h
    exact held.of_tables rfl rfl
  | writeSession => exact held.of_tables rfl rfl

/-- The two operations that leave a job behind when they do not meet the condition. -/
theorem DaemonOp.strandsNone_of_noneOnDead {op : DaemonOp} (h : (op.apply d).NoneOnDead) :
    op.StrandsNone d := by
  cases op with
  | shutdown now =>
    intro a agent found reached j owns
    have killed : ((shutdown now).apply d).agents.get? a = some (agent.enter .killed now) :=
      (get?_shutdown d now a).trans (by rw [found, Option.map_some, if_pos reached])
    exact h a _ killed rfl j (owns_shutdown.mpr owns)
  | restoreCrashedState a now =>
    intro known j owns
    obtain ⟨agent, found⟩ := Option.isSome_iff_exists.mp known
    have crashed : ((restoreCrashedState a now).apply d).agents.get? a =
        some (agent.enter .crashed now) := by
      simp [apply, restoreCrashedRecoveryState, found]
    exact h a _ crashed rfl j (owns_of_jobs rfl owns)
  | _ => trivial

end Daemon

/-- Along a run no dead agent owns a dispatched job exactly if no operation strands one. -/
theorem noneOnDead_run {d₀ d : Db} {ts : List (Transition Db DaemonOp)} (start : d₀.NoneOnDead)
    (exist : d₀.OwnersExist) (run : Run DaemonOp.Step d₀ ts d) :
    (∀ t ∈ ts, t.post.NoneOnDead) ↔ ∀ t ∈ ts, t.act.StrandsNone t.pre := by
  refine Run.forall_iff_of_keeps (I := HeldByUp) ?_ ?_ run (heldByUp_iff.mpr ⟨start, exist⟩)
  · rintro d op d' held rfl none
    exact held.apply (DaemonOp.strandsNone_of_noneOnDead none)
  · rintro d op d' held rfl
    exact ⟨DaemonOp.strandsNone_of_noneOnDead,
      fun spares => (heldByUp_iff.mp (held.apply spares)).1⟩

theorem Db.oneSession_noneOnDead : oneSession.NoneOnDead := by
  intro a agent found
  cases found

theorem Db.oneSession_ownersExist : oneSession.OwnersExist :=
  fun a j owns => absurd owns (not_owns (by decide) a j)

/-- The agent with the dispatched job is killed before the daemon is shut down. -/
def orderlyShutdown : List (Transition Db DaemonOp) :=
  trace DaemonOp.apply oneSession
    (firstDispatch ++ [.db (.markKilled "a1" "SIGKILL_BY_DAEMON" false 5), .shutdown 6])

theorem noneOnDead_run_orderly :
    (∀ t ∈ orderlyShutdown, t.act.StrandsNone t.pre) ∧
      ∀ t ∈ orderlyShutdown, t.post.NoneOnDead := by
  rw [orderlyShutdown, noneOnDead_run oneSession_noneOnDead oneSession_ownersExist
    (Run.of_list _ _), and_self]
  simp only [firstDispatch, trace, List.cons_append, List.nil_append, List.forall_mem_cons,
    List.not_mem_nil, false_implies, implies_true, and_true, DaemonOp.StrandsNone, true_and]
  intro a agent _ _ j
  exact not_owns (by decide +kernel) a j

/-- The shutdown of the daemon strands the job an agent works on. -/
theorem not_noneOnDead_shutdown :
    ¬∀ (d₀ d : Db) (ts : List (Transition Db DaemonOp)), d₀.NoneOnDead → d₀.OwnersExist →
      Run DaemonOp.Step d₀ ts d → ∀ t ∈ ts, t.post.NoneOnDead := by
  intro h
  have none := h _ _ _ oneSession_noneOnDead oneSession_ownersExist
    (Run.of_list oneSession (firstDispatch ++ [.shutdown 5]))
  simp only [firstDispatch, trace, List.cons_append, List.nil_append, List.forall_mem_cons] at none
  exact none.2.2.2.2.1 "a1" _ rfl rfl "j1" ⟨_, rfl, rfl, rfl⟩

end Ccbd
