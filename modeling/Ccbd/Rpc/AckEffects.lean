import Ccbd.Rpc.AckWatcher

/-!
# What the acknowledgement path does

The effect of each database step of the watcher on the jobs, and the agent states in
which a step does nothing.
-/

namespace Ccbd

open Lib

/-! ## The effect on the jobs -/

/-- The agent states in which the step before `pc` changes an agent in flight or a job. -/
def AckPc.actsOn : AckPc → AgentState → Bool
  | stabilityBusy _, s | visualBusy, s | fallbackStuck _, s => s = .waitingForAck
  | markIdle, s => isActiveState s
  | fallbackCrashedMark _, s => s ≠ .crashed && s ≠ .killed && s ≠ .promptPending
  | _, _ => false

/-- What a database step of the acknowledgement path for `agentId` can do to the jobs;
`requeues` holds if it may put the job in flight back into the queue. -/
inductive AckEffect (db : Db) (agentId : String) (requeues : Prop) : Db → Prop
  | agentOnly {db' : Db} (jobs : db'.jobs = db.jobs) : AckEffect db agentId requeues db'
  | settled {db' : Db} {jobId : String} {job : Job} {f : Job → Job} {next : JobStatus} {now : Int}
      (dispatched : queryDispatchedJobForAgentSync db agentId = some (jobId, job))
      (jobs : db'.jobs = (db.jobs.modify jobId f).modify jobId (·.enter next now))
      (back : next = .queued → requeues) : AckEffect db agentId requeues db'
  | down {db' : Db} {reason : String} {now : Int}
      (jobs : ∀ j, db'.jobs.get? j = (db.jobs.get? j).map fun job =>
        if job.agentId = agentId ∧ job.status = .dispatched then job.failWith reason now else job) :
      AckEffect db agentId requeues db'

theorem AckEffect.statusOf_of_not_owns (h : AckEffect db agentId requeues db')
    (free : ¬db.Owns agentId j) : db'.statusOf j = db.statusOf j := by
  cases h with
  | agentOnly jobs => simp [Db.statusOf, jobs]
  | @settled jobId job f next now dispatched jobs back =>
    have hne : j ≠ jobId := by
      rintro rfl
      exact free ⟨job, queryDispatchedJobForAgentSync_some dispatched⟩
    simp [Db.statusOf, jobs, Table.get?_modify_of_ne, hne]
  | @down reason now jobs =>
    cases hj : db.jobs.get? j with
    | none => simp [Db.statusOf, jobs, hj]
    | some job =>
      have hne : ¬(job.agentId = agentId ∧ job.status = .dispatched) := fun e => free ⟨job, hj, e⟩
      simp [Db.statusOf, jobs, hj, if_neg hne]

theorem AckEffect.requeued (h : AckEffect db agentId requeues db')
    (pre : db.statusOf j = some .dispatched) (post : db'.statusOf j = some .queued) :
    requeues ∧ ∃ job, queryDispatchedJobForAgentSync db agentId = some (j, job) := by
  cases h with
  | agentOnly jobs =>
    rw [Db.statusOf, jobs] at post
    exact absurd (pre.symm.trans post) (by simp)
  | @settled jobId job f next now dispatched jobs back =>
    by_cases e : j = jobId
    · subst e
      obtain ⟨hjob, -, -⟩ := queryDispatchedJobForAgentSync_some dispatched
      have hnext : next = .queued := by simpa [Db.statusOf, jobs, hjob] using post
      exact ⟨back hnext, job, dispatched⟩
    · simp only [Db.statusOf, jobs, Table.get?_modify_of_ne _ _ e] at post
      exact absurd (pre.symm.trans post) (by simp)
  | @down reason now jobs =>
    obtain ⟨job, hj, hs⟩ := Option.map_eq_some_iff.mp pre
    simp only [Db.statusOf, jobs, hj, Option.map_some] at post
    split_ifs at post <;> simp_all

theorem CompletionEffect.ackEffect (h : CompletionEffect db agentId now db') :
    AckEffect db agentId requeues db' := by
  cases h with
  | untouched agents jobs | deferred found state agents jobs | idle found state free agents jobs =>
    exact .agentOnly jobs
  | settled found state dispatched agents jobs =>
    refine .settled dispatched jobs fun e => ?_
    unfold JobStatus.settled at e
    split_ifs at e

theorem ackEffect_commit {α : Type} {r : Except CcbdError (α × Db)}
    (h : ∀ x db', r = .ok (x, db') → AckEffect db agentId requeues db') :
    AckEffect db agentId requeues (commit r db) :=
  commit_induction (.agentOnly rfl) h

theorem ackEffect_markBusy (reason : String) (now : Int) :
    AckEffect db agentId requeues (commit (ackMarkBusyOrResolveOnce db agentId reason now) db) := by
  refine ackEffect_commit fun r db' h => ?_
  rcases ackMarkBusyOrResolveOnce_ok h with rfl | ⟨agent, p, -, -, rfl⟩
  · exact .agentOnly rfl
  · exact .agentOnly rfl

theorem ackEffect_fallbackStuck (back : safePreSend reason = true → requeues) (now : Int) :
    AckEffect db agentId requeues (commit (fallbackAckToStuck db agentId reason now) db) := by
  refine ackEffect_commit fun r db' h => ?_
  rcases fallbackAckToStuck_ok h with ⟨rfl, -⟩ | ⟨-, agent, -, -, h | h⟩
  · exact .agentOnly rfl
  · exact .agentOnly h.2.1
  · obtain ⟨jobId, job, e, dispatched, -, jobs⟩ := h
    refine .settled dispatched jobs fun e => back ?_
    by_contra hs
    simp [hs] at e

theorem ackEffect_crashed (reason : String) (now : Int) :
    AckEffect db agentId requeues
      (commit (markAgentCrashedSync db agentId none reason now) db) := by
  refine ackEffect_commit fun r db' h => ?_
  rcases markAgentCrashedSync_ok h with ⟨-, rfl, -⟩ | ⟨-, agent, reason, -, -, -, -, down⟩
  · exact .agentOnly rfl
  · exact .down down.jobs

theorem ackEffect_fallbackCrashed (reason : String) (now : Int) :
    AckEffect db agentId requeues (commit (fallbackAckToCrashed db agentId reason now) db) := by
  unfold fallbackAckToCrashed
  split_ifs
  · exact ackEffect_crashed reason now
  · exact .agentOnly rfl

theorem ackEffect_stabilityBusy (now : Int) :
    AckEffect db agentId requeues (commit (spawnDispatchAckStabilityBusy db agentId now) db) := by
  refine ackEffect_commit fun r db' h => ?_
  obtain ⟨agent, p, -, -, rfl⟩ := transitAgentStateSync_ok h
  exact .agentOnly rfl

theorem markPromptPendingAndEmitUnknownSync_ok
    (h : markPromptPendingAndEmitUnknownSync db agentId blockReason payload now = .ok (n, db')) :
    db'.jobs = db.jobs ∧ ∃ agent, db.agents.get? agentId = some agent ∧
      (agent.state = .idle ∨ agent.state = .spawning) := by
  obtain ⟨⟨m, db₁⟩, h₁, h₂⟩ := map_eq_ok.mp h
  obtain ⟨agent, p, hagent, hs, rfl⟩ := markAgentPromptPendingSync_ok h₁
  cases h₂
  exact ⟨rfl, agent, hagent, hs⟩

theorem AckWatcher.act_effect (w : AckWatcher) (env : CompletionEnv) (stabilizing : Bool) (db : Db)
    (now : Int) :
    AckEffect db w.agentId (∃ reason, w.pc = .fallbackStuck reason ∧ safePreSend reason = true)
      (w.act env stabilizing db now).2 := by
  unfold AckWatcher.act
  split
  · exact .agentOnly rfl
  · exact ackEffect_commit fun _ _ h => .agentOnly (markPromptPendingAndEmitUnknownSync_ok h).1
  · split_ifs <;> exact .agentOnly rfl
  · exact ackEffect_markBusy _ now
  · exact ackEffect_markBusy _ now
  · exact ackEffect_commit fun _ _ h =>
      (markAgentIdleMatchedOutcomeSyncInner_effect h).ackEffect
  · rename_i reason hpc
    exact ackEffect_fallbackStuck (fun safe => ⟨reason, hpc, safe⟩) now
  · exact .agentOnly rfl
  · exact ackEffect_crashed _ now
  all_goals exact .agentOnly rfl

/-! ## Steps on an agent in another state -/

theorem fallbackAckToStuck_inactive (h : db.stateOf agentId ≠ some .waitingForAck) :
    commit (fallbackAckToStuck db agentId reason now) db = db := by
  refine commit_induction (P := (· = db)) rfl fun n db' hok => ?_
  rcases fallbackAckToStuck_ok hok with ⟨hdb, -⟩ | ⟨-, agent, hagent, hs, -⟩
  · exact hdb
  · exact absurd (by simp [Db.stateOf, hagent, hs]) h

theorem ackMarkBusyOrResolveOnce_inactive (h : db.stateOf agentId ≠ some .waitingForAck) :
    commit (ackMarkBusyOrResolveOnce db agentId reason now) db = db := by
  refine commit_induction (P := (· = db)) rfl fun n db' hok => ?_
  rcases ackMarkBusyOrResolveOnce_ok hok with hdb | ⟨agent, p, hagent, hs, -⟩
  · exact hdb
  · exact absurd (by simp [Db.stateOf, hagent, hs]) h

theorem spawnDispatchAckStabilityBusy_inactive (h : db.stateOf agentId ≠ some .waitingForAck) :
    commit (spawnDispatchAckStabilityBusy db agentId now) db = db := by
  refine commit_induction (P := (· = db)) rfl fun n db' hok => ?_
  obtain ⟨agent, p, hagent, hs, -⟩ := transitAgentStateSync_ok hok
  exact absurd (by simpa [Db.stateOf, hagent] using hs) h

theorem markAgentCrashedSync_inactive
    (h : ∀ s, db.stateOf agentId = some s → s = .crashed ∨ s = .killed ∨ s = .promptPending) :
    commit (markAgentCrashedSync db agentId none reason now) db = db := by
  refine commit_induction (P := (· = db)) rfl fun n db' hok => ?_
  rcases markAgentCrashedSync_ok hok with ⟨-, hdb, -⟩ | ⟨-, agent, reason, hagent, h₁, h₂, h₃, -⟩
  · exact hdb
  · rcases h agent.state (by simp [Db.stateOf, hagent]) with e | e | e
    · exact absurd e h₁
    · exact absurd e h₂
    · exact absurd e h₃

theorem markAgentIdleMatched_inactive
    (h : ∀ s, db.stateOf agentId = some s → isActiveState s = false) :
    commit (markAgentIdleMatchedOutcomeSync env db agentId now) db = db := by
  refine commit_induction (P := (· = db)) rfl fun n db' hok => ?_
  unfold markAgentIdleMatchedOutcomeSync markAgentIdleMatchedOutcomeSyncInner at hok
  cases hagent : db.agents.get? agentId with
  | none => simp only [hagent] at hok; cases hok; rfl
  | some agent =>
    have hs := h agent.state (by simp [Db.stateOf, hagent])
    simp only [hagent, hs] at hok
    cases hok
    rfl

/-- A watcher's step on an agent in none of the states it acts on leaves the jobs and a
waiting agent alone. -/
theorem AckWatcher.act_inactive (w : AckWatcher) (env : CompletionEnv) (stabilizing : Bool)
    (db : Db) (now : Int) (h : ∀ s, db.stateOf w.agentId = some s → w.pc.actsOn s = false) :
    (w.act env stabilizing db now).2.jobs = db.jobs ∧
      (db.stateOf w.agentId = some .waitingForAck →
        (w.act env stabilizing db now).2.agents = db.agents) := by
  have waits : (∀ s, w.pc.actsOn s = decide (s = .waitingForAck)) →
      db.stateOf w.agentId ≠ some .waitingForAck := by
    intro hpc hs
    have := h _ hs
    simp [hpc] at this
  unfold AckWatcher.act
  split
  case h_2 blockReason payload hpc =>
    refine commit_induction
      (P := fun db' => db'.jobs = db.jobs ∧ (db.stateOf w.agentId = some .waitingForAck →
        db'.agents = db.agents)) ⟨rfl, fun _ => rfl⟩ fun n db' hok => ?_
    obtain ⟨jobs, agent, hagent, hs⟩ := markPromptPendingAndEmitUnknownSync_ok hok
    refine ⟨jobs, fun hw => ?_⟩
    simp only [Db.stateOf, hagent, Option.map_some, Option.some.injEq] at hw
    simp [hw] at hs
  case h_3 =>
    split_ifs <;> exact ⟨rfl, fun _ => rfl⟩
  case h_4 hpc | h_5 hpc =>
    dsimp only
    rw [ackMarkBusyOrResolveOnce_inactive (waits fun s => by rw [hpc]; rfl)]
    exact ⟨rfl, fun _ => rfl⟩
  case h_6 hpc =>
    rw [markAgentIdleMatched_inactive fun s hs => by have := h s hs; rwa [hpc] at this]
    exact ⟨rfl, fun _ => rfl⟩
  case h_7 hpc =>
    rw [fallbackAckToStuck_inactive (waits fun s => by rw [hpc]; rfl)]
    exact ⟨rfl, fun _ => rfl⟩
  case h_9 hpc =>
    rw [markAgentCrashedSync_inactive fun s hs => by
      have := h s hs
      rw [hpc] at this
      simpa [AckPc.actsOn, or_iff_not_imp_left] using this]
    exact ⟨rfl, fun _ => rfl⟩
  all_goals exact ⟨rfl, fun _ => rfl⟩

end Ccbd
