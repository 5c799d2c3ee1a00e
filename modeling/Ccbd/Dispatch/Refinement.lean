import Ccbd.Dispatch.Board
import Ccbd.Dispatch.Operations

/-!
# The operations refine the board

`Db.board` forgets everything but states, owners, statuses and cancel flags. Every
operation is a move of the board or its dispatch, with one exception:
`assertStateToIdleSync` puts an agent to IDLE whatever it holds.
-/

namespace Ccbd

open Lib

def Job.slot (job : Job) : Slot String := ⟨job.agentId, job.status, job.cancelRequested⟩

/-- The board of a database. -/
def Db.board (db : Db) : Board String String where
  agent a := (db.agents.get? a).map (·.state)
  job j := (db.jobs.get? j).map Job.slot

variable {st : AgentState} {now : Int} {job : Job} {next : JobStatus} {a j : String}

namespace Board

variable {db db' : Db}

/-! ## The board after table updates -/

theorem eq_of_tables (agents : db'.agents = db.agents) (jobs : db'.jobs = db.jobs) :
    db'.board = db.board := by
  simp [Db.board, agents, jobs]

theorem agent_of_modify (agents : db'.agents = db.agents.modify a f)
    (hf : ∀ x, (f x).state = st) : db'.board.agent = (db.board.setAgent a st).agent := by
  funext x
  by_cases e : x = a <;>
    simp [Db.board, agents, Table.get?_modify, e, Function.comp_def, hf]

theorem job_of_modify (jobs : db'.jobs = db.jobs.modify j f) (hf : ∀ x, (f x).slot = g x.slot) :
    db'.board.job = (db.board.updateJob j g).job := by
  funext x
  by_cases e : x = j <;>
    simp [Db.board, updateJob, jobs, Table.get?_modify, e, Function.comp_def, hf]

theorem job_of_modify_twice (jobs : db'.jobs = (db.jobs.modify j f).modify j f')
    (hf : ∀ x, (f' (f x)).slot = g x.slot) : db'.board.job = (db.board.updateJob j g).job := by
  funext x
  by_cases e : x = j
  · subst e
    cases h : db.jobs.get? x <;> simp [Db.board, updateJob, jobs, h, hf]
  · simp [Db.board, updateJob, jobs, Table.get?_modify, e]

theorem job_of_enter {st : JobStatus}
    (jobs : db'.jobs = (db.jobs.modify j f).modify j (·.enter st now))
    (hf : ∀ x, (f x).slot = x.slot) : db'.board.job = (db.board.setStatus j st).job := by
  refine job_of_modify_twice jobs fun x => ?_
  have := hf x
  simp only [Job.slot, Slot.mk.injEq] at this
  simp [Job.slot, this]

theorem job_of_down (jobs : ∀ j, db'.jobs.get? j = (db.jobs.get? j).map fun job =>
      if job.agentId = a ∧ job.status = .dispatched then job.failWith reason now else job) :
    db'.board.job = (db.board.failHeld a).job := by
  funext x
  simp only [Db.board, failHeld, jobs, Option.map_map]
  congr 1
  funext job
  by_cases h : job.agentId = a ∧ job.status = .dispatched <;>
    simp [Job.slot, Job.failWith, h]

theorem job_of_insert {id : String} (fresh : db.jobs.get? id = none)
    (jobs : db'.jobs = db.jobs.insert id job) :
    db'.board.job = (db.board.putJob id job.slot).job := by
  funext x
  by_cases e : x = id <;> simp [Db.board, putJob, jobs, Table.get?_insert fresh, e]

/-! ## Who holds what, in the database -/

theorem holds_board :
    db.board.Holds a j ↔ ∃ job, db.jobs.get? j = some job ∧ job.agentId = a ∧
      job.status = .dispatched := by
  cases h : db.jobs.get? j <;> simp [Holds, Db.board, h, Job.slot]

theorem holds_of_query (h : queryDispatchedJobForAgentSync db a = some (j, job)) :
    db.board.Holds a j :=
  holds_board.mpr ⟨job, queryDispatchedJobForAgentSync_some h⟩

theorem free_of_query (h : queryDispatchedJobForAgentSync db a = none) :
    ∀ j, ¬db.board.Holds a j := by
  intro j hj
  obtain ⟨job, hjob, ha, hd⟩ := holds_board.mp hj
  exact queryDispatchedJobForAgentSync_none h hjob ha hd

/-! ## The shapes of an operation -/

theorem move_of_agent (agents : db'.agents = db.agents.modify a f) (jobs : db'.jobs = db.jobs)
    (hf : ∀ x, (f x).state = st) (working : st ≠ .idle) : Move db.board db'.board := by
  have : db'.board = db.board.setAgent a st :=
    Board.ext (agent_of_modify agents hf) (by simp [Db.board, setAgent, jobs])
  rw [this]
  exact .occupy a working

theorem move_of_idle (agents : db'.agents = db.agents.modify a f)
    (jobs : db'.jobs = db.jobs) (hf : ∀ x, (f x).state = .idle) (free : ∀ j, ¬db.board.Holds a j) :
    Move db.board db'.board := by
  have : db'.board = db.board.setAgent a .idle :=
    Board.ext (agent_of_modify agents hf) (by simp [Db.board, setAgent, jobs])
  rw [this]
  exact .vacate .idle free

theorem move_of_job (agents : db'.agents = db.agents)
    (jobs : db'.jobs = (db.jobs.modify j f).modify j (·.enter next now))
    (hf : ∀ x, (f x).slot = x.slot) (left : next ≠ .dispatched) : Move db.board db'.board := by
  have : db'.board = db.board.setStatus j next :=
    Board.ext (by simp [Db.board, agents]) (job_of_enter jobs hf)
  rw [this]
  exact .settle j left

theorem move_of_job_only (agents : db'.agents = db.agents)
    (jobs : db'.jobs = db.jobs.modify j (·.enter next now)) (left : next ≠ .dispatched) :
    Move db.board db'.board := by
  have : db'.board = db.board.setStatus j next :=
    Board.ext (by simp [Db.board, agents]) (job_of_modify jobs fun x => by simp [Job.slot])
  rw [this]
  exact .settle j left

theorem move_of_release (agents : db'.agents = db.agents.modify a f)
    (jobs : db'.jobs = (db.jobs.modify j g).modify j (·.enter next now))
    (hf : ∀ x, (f x).state = st) (hg : ∀ x, (g x).slot = x.slot) (held : db.board.Holds a j)
    (left : next ≠ .dispatched) : Move db.board db'.board := by
  have : db'.board = (db.board.setAgent a st).setStatus j next :=
    Board.ext (agent_of_modify agents hf) (job_of_enter jobs hg)
  rw [this]
  exact .release st held left

theorem move_of_insert {id : String} (agents : db'.agents = db.agents)
    (jobs : db'.jobs = db.jobs.insert id job) (fresh : db.jobs.get? id = none)
    (queued : job.status = .queued) : Move db.board db'.board := by
  have : db'.board = db.board.putJob id job.slot :=
    Board.ext (by simp [Db.board, agents]) (job_of_insert fresh jobs)
  rw [this]
  exact .submit (by simp [Db.board, fresh]) queued

theorem move_of_down (agents : db'.agents = db.agents.modify a f)
    (jobs : ∀ j, db'.jobs.get? j = (db.jobs.get? j).map fun job =>
      if job.agentId = a ∧ job.status = .dispatched then job.failWith reason now else job)
    (hf : ∀ x, (f x).state = st) : Move db.board db'.board := by
  have : db'.board = (db.board.setAgent a st).failHeld a :=
    Board.ext (agent_of_modify agents hf) (job_of_down jobs)
  rw [this]
  exact .down a st

theorem move_of_askCancel (agents : db'.agents = db.agents)
    (jobs : db'.jobs = db.jobs.modify j Job.requestCancel) : Move db.board db'.board := by
  have : db'.board = db.board.requestCancel j :=
    Board.ext (by simp [Db.board, agents]) (job_of_modify jobs fun _ => rfl)
  rw [this]
  exact .askCancel j

theorem board_modifyJob (j : String) (hf : ∀ x, (f x).slot = x.slot) :
    (db.modifyJob j f).board = db.board := by
  refine Board.ext rfl (funext fun x => ?_)
  by_cases e : x = j <;>
    simp [Db.board, Table.get?_modify, e, Function.comp_def, hf]

theorem move_of_completion (h : CompletionEffect db a now db') : Move db.board db'.board := by
  cases h with
  | untouched agents jobs => rw [eq_of_tables agents jobs]; exact .stay _
  | deferred found state agents jobs => exact move_of_agent agents jobs (fun _ => rfl) (by simp)
  | idle found state free agents jobs =>
    exact move_of_idle agents jobs (fun _ => rfl) (free_of_query free)
  | @settled agent jobId job subState reply found state dispatched agents jobs =>
    refine move_of_release agents jobs (fun _ => rfl) (fun _ => rfl) (holds_of_query dispatched) ?_
    unfold JobStatus.settled
    split_ifs <;> simp

/-! ## The operations -/

theorem move_of_requeue (agents : db'.agents = db.agents.modify a (restoreIdle states now))
    (jobs : db'.jobs = (db.jobs.modify j (·.setErrorReason e)).modify j (·.enter .queued now))
    (held : db.board.Holds a j) : Move db.board db'.board := by
  by_cases h : ∃ agent, db.agents.get? a = some agent ∧ states.contains agent.state
  · obtain ⟨agent, found, hs⟩ := h
    have : db'.board = (db.board.setAgent a .idle).setStatus j .queued := by
      refine Board.ext (funext fun x => ?_) (job_of_enter jobs fun _ => rfl)
      by_cases ex : x = a
      · subst ex
        simp only [Db.board, agents, Table.get?_modify_self, found, Option.map_some,
          restoreIdle, hs, if_true, agent_setStatus, agent_setAgent, Agent.enter_state]
      · simp [Db.board, agents, Table.get?_modify, ex]
    rw [this]
    exact .release .idle held (by simp)
  · have : db'.board = db.board.setStatus j .queued := by
      refine Board.ext (funext fun x => ?_) (job_of_enter jobs fun _ => rfl)
      by_cases ex : x = a
      · subst ex
        cases found : db.agents.get? x with
        | none => simp [Db.board, agents, found]
        | some agent =>
          have hs : states.contains agent.state = false := by
            simpa [found] using h
          simp only [Db.board, agents, Table.get?_modify_self, found, Option.map_some,
            restoreIdle, hs, Bool.false_eq_true, if_false, agent_setStatus]
      · simp [Db.board, agents, Table.get?_modify, ex]
    rw [this]
    exact .settle j (by simp)

theorem dispatch_of_ok (h : dispatchQueuedJob db a now = .ok (r, db')) :
    (r = none ∧ db' = db) ∨
      ∃ j job, nextQueuedJob db a = some (j, job) ∧ Dispatch a j db.board db'.board := by
  rcases dispatchJobToAgentSync_ok h with h |
    ⟨jobId, agent, job, t, p, p', seq, hagent, hstate, hnext, hdb⟩
  · exact .inl h
  have hidle : agent.state = .idle := by simpa using hstate
  obtain ⟨hjob, howner, hqueued⟩ := nextQueuedJob_some hnext
  have agents : db'.agents = db.agents.modify a (·.enter .waitingForAck now) := by rw [hdb]; rfl
  have jobs : db'.jobs = (db.jobs.modify jobId (·.enter .dispatched now)).modify jobId
      (·.setDispatchedSeqId seq) := by rw [hdb]; rfl
  refine .inr ⟨jobId, job, hnext, ?_, ⟨job.slot, ?_, howner, hqueued⟩, ?_⟩
  · simp [Db.board, hagent, hidle]
  · simp [Db.board, hjob]
  · exact Board.ext (agent_of_modify agents fun _ => rfl)
      (job_of_modify_twice jobs fun x => by simp [Job.slot])

theorem dispatch_apply {agent : Agent} (hagent : db.agents.get? a = some agent)
    (hidle : agent.state = .idle) (hnext : nextQueuedJob db a = some (j, job)) (now : Int) :
    Dispatch a j db.board ((DbOp.dispatchQueuedJob a now).apply db).board := by
  have hfrom : [AgentState.idle] = [] ∨ agent.state ∈ [AgentState.idle] := by simp [hidle]
  obtain ⟨d, db', hok⟩ := dispatchJobToAgentSync_succeeds hagent hfrom hnext
    .waitingForAck "command_received" (.obj [("status", .str "SENT")]) now
  have hpost : (DbOp.dispatchQueuedJob a now).apply db = db' := by
    simp [DbOp.apply, dispatchQueuedJob, hok, commit]
  rw [hpost]
  rcases dispatch_of_ok hok with ⟨hnone, -⟩ | ⟨j', job', hnext', dispatch⟩
  · cases hnone
  · rw [hnext, Option.some.injEq, Prod.mk.injEq] at hnext'
    exact hnext'.1 ▸ dispatch

theorem move_fallbackAckToStuck (h : fallbackAckToStuck db a reason now = .ok (n, db')) :
    Move db.board db'.board := by
  rcases fallbackAckToStuck_ok h with ⟨rfl, -⟩ | ⟨-, agent, -, -, h | h⟩
  · exact .stay _
  · obtain ⟨-, jobs, agents⟩ := h
    exact move_of_agent agents jobs (fun _ => rfl) (by simp)
  · obtain ⟨jobId, job, e, dispatched, agents, jobs⟩ := h
    refine move_of_release agents jobs (fun _ => rfl) (fun _ => rfl) (holds_of_query dispatched) ?_
    split_ifs <;> simp

theorem move_markAgentStuck
    (h : markAgentStuckOutcomeSync db a reason now = .ok (r, db')) : Move db.board db'.board := by
  rcases markAgentStuckOutcomeSync_ok h with rfl | ⟨-, agent, -, -, agents, h | h⟩
  · exact .stay _
  · exact move_of_agent agents h.2 (fun _ => rfl) (by simp)
  · obtain ⟨jobId, job, dispatched, -, jobs⟩ := h
    exact move_of_release agents jobs (fun _ => rfl) (fun _ => rfl) (holds_of_query dispatched)
      (by simp)

theorem move_markAgentUnknown (h : markAgentUnknownSync db a reason evidenceId now = .ok (n, db')) :
    Move db.board db'.board := by
  rcases markAgentUnknownSync_ok h with rfl | ⟨agents, jobs | h | jobs⟩
  · exact .stay _
  · exact move_of_agent agents jobs (fun _ => rfl) (by simp)
  · obtain ⟨jobId, job, dispatched, jobs⟩ := h
    exact move_of_release agents jobs (fun _ => rfl) (fun _ => rfl) (holds_of_query dispatched)
      (by simp)
  · exact move_of_down agents jobs fun _ => rfl

theorem move_markAgentCrashed
    (h : markAgentCrashedSync db a exit code now = .ok (n, db')) : Move db.board db'.board := by
  rcases markAgentCrashedSync_ok h with ⟨-, rfl, -⟩ | ⟨-, agent, reason, -, -, -, -, down⟩
  · exact .stay _
  · exact move_of_down down.agents down.jobs fun _ => rfl

theorem move_requeueInterrupted
    (h : requeueInterruptedJobFromCapturedIntentSync db intent now = .ok (n, db')) :
    Move db.board db'.board := by
  rcases requeueInterruptedJobFromCapturedIntentSync_ok h with rfl |
    ⟨jobId, e, t, rfl⟩ | ⟨id, job, t, fresh, queued, rfl⟩
  · exact .stay _
  · exact move_of_job rfl rfl (fun _ => rfl) (by simp)
  · exact move_of_insert rfl rfl fresh queued

/-- The agents whose `state_version` the transition functions bump never become IDLE. -/
theorem move_transitAgentState {reason : Option String}
    (working : st ≠ .idle) (h : transitAgentStateSync db a sources st reason now = .ok (u, db')) :
    Move db.board db'.board := by
  obtain ⟨agent, p, -, -, rfl⟩ := transitAgentStateSync_ok h
  exact move_of_agent (f := (·.enter st now)) rfl rfl (fun _ => rfl) working

theorem move_commit {α : Type} {r : Except CcbdError (α × Db)}
    (h : ∀ x db', r = .ok (x, db') → Move db.board db'.board) : Move db.board (commit r db).board :=
  commit_induction (.stay _) h

/-- Every operation but the dispatch and the assertion is a move of the board. -/
theorem move_apply (op : DbOp) (hd : ∀ a now, op ≠ .dispatchQueuedJob a now)
    (h : ∀ a e now, op ≠ .assertIdle a e now) : Move db.board (op.apply db).board := by
  cases op <;> refine move_commit fun r db' hr => ?_
  case insertJob id a req prompt now =>
    rcases insertJobRow_ok hr with rfl | ⟨-, fresh, -, t, rfl⟩
    · exact .stay _
    · exact move_of_insert rfl rfl fresh rfl
  case dispatchQueuedJob a now => exact absurd rfl (hd a now)
  case markerMatched => exact move_of_completion (markAgentIdleMatchedOutcomeSyncInner_effect hr)
  case hookEvent =>
    rw [markAgentIdleHookEventOutcomeSync_eq] at hr
    exact move_of_completion (markAgentIdleEventOutcome_effect hr)
  case logEvent =>
    rw [markAgentIdleLogEventOutcomeSync_eq] at hr
    exact move_of_completion (markAgentIdleEventOutcome_effect hr)
  case ackMarkBusy a reason now =>
    rcases ackMarkBusyOrResolveOnce_ok hr with rfl | ⟨agent, p, -, -, rfl⟩
    · exact .stay _
    · exact move_of_agent (f := (·.enter .busy now)) rfl rfl (fun _ => rfl) (by simp)
  case ackFallbackStuck => exact move_fallbackAckToStuck hr
  case ackFallbackCrashed =>
    unfold fallbackAckToCrashed at hr
    split at hr
    · exact move_markAgentCrashed hr
    · cases hr; exact .stay _
  case assertIdle a e now => exact absurd rfl (h a e now)
  case markStuck => exact move_markAgentStuck hr
  case markUnknown => exact move_markAgentUnknown hr
  case markPromptPending a reason now =>
    obtain ⟨agent, p, -, -, rfl⟩ := markAgentPromptPendingSync_ok hr
    exact move_of_agent (f := (·.enter .promptPending now)) rfl rfl (fun _ => rfl) (by simp)
  case markWaitingForAck a v now =>
    rcases transitAgentStateConnInner_ok hr with ⟨-, rfl⟩ | ⟨agent, p, -, -, rfl⟩
    · exact .stay _
    · exact move_of_agent (f := (·.enter .waitingForAck now)) rfl rfl (fun _ => rfl) (by simp)
  case markFailedFromIntervention a reason now =>
    rcases markAgentFailedFromInterventionSync_ok hr with rfl | ⟨jobs, agents⟩
    · exact .stay _
    · exact move_of_agent agents jobs (fun _ => rfl) (by simp)
  case dispatchIoFailed | stabilityBusy => exact move_transitAgentState (by simp) hr
  case cancelQueued j now =>
    rcases markQueuedJobCancelledSync_ok hr with rfl | ⟨-, t, rfl⟩
    · exact .stay _
    · exact move_of_job_only rfl rfl (by simp)
  case requestCancel j now =>
    rcases requestDispatchedJobCancelSync_ok hr with rfl | ⟨t, rfl⟩
    · exact .stay _
    · exact move_of_askCancel rfl rfl
  case cancelIfAgentIdle j now =>
    rcases markDispatchedJobCancelledIfAgentIdleSync_ok hr with rfl | ⟨-, t, rfl⟩
    · exact .stay _
    · exact move_of_job_only rfl rfl (by simp)
  case forceCancel j epoch timeout now =>
    rcases forceCancelPendingDispatchedJobConnSync_ok hr with rfl | ⟨t, rfl⟩
    · exact .stay _
    · exact move_of_job_only rfl rfl (by simp)
  case markJobFailed j reason now =>
    rcases markJobFailedConnSync_ok hr with rfl | ⟨-, t, rfl⟩
    · exact .stay _
    · exact move_of_job rfl rfl (fun _ => rfl) (by simp)
  case requeueIoFailure j a n reason now =>
    rcases requeueRecoveredDispatchIoFailureSync_ok hr with rfl |
      ⟨job, e, t, p, found, dispatched, owned, rfl⟩
    · exact .stay _
    · exact move_of_requeue rfl rfl (holds_board.mpr ⟨job, found, owned, dispatched⟩)
  case requeueBeforeSend j a reason now =>
    rcases requeueDispatchedJobBeforeSendSync_ok hr with ⟨-, rfl⟩ |
      ⟨job, e, t, p, found, dispatched, owned, rfl⟩
    · exact .stay _
    · exact move_of_requeue rfl rfl (holds_board.mpr ⟨job, found, owned, dispatched⟩)
  case requeueInterrupted => exact move_requeueInterrupted hr
  case clearRecoveredMarker j =>
    cases hr
    rw [board_modifyJob j fun x => by split_ifs <;> rfl]
    exact .stay _
  case setEvidenceRequirements j p t =>
    cases hr
    rw [board_modifyJob]
    · exact .stay _
    · exact fun _ => rfl
  case markCrashed => exact move_markAgentCrashed hr
  case markKilled a reason master now =>
    rcases markAgentKilledSyncInner_ok hr with ⟨-, rfl, -⟩ | ⟨-, agent, -, -, -, down⟩
    · exact .stay _
    · exact move_of_down down.agents down.jobs fun _ => rfl

end Board

end Ccbd
