import Ccbd.Audit.Settlement

/-!
# Who is told that a job is settled

The callers of the database layer send the notices of `notify_job_update`, after the commit. A
call learns the job in its own transaction, or reads the dispatched job of the agent in one
before it, or tells nobody. `handle_job_wait` is asleep between the notices of its job.
-/

namespace Ccbd

open Lib

/-! ## The calls -/

/-- The transactions that settle jobs while the daemon serves, and the notices they are
followed by. -/
inductive SettlingTx where
  | markQueuedJobCancelled (jobId : String)
  | markDispatchedJobCancelledIfAgentIdle (jobId : String)
  | markJobFailed (jobId errorReason : String)
  | markAgentStuck (agentId reason : String)
  | fallbackAckToStuck (agentId reason : String)
  | markAgentUnknown (agentId reason evidenceId : String)
  | markAgentKilled (agentId reason : String)
  /-- `mark_agent_crashed_with_exit` and `mark_agent_crashed_with_reason`. -/
  | markAgentCrashed (agentId : String) (exitCode : Option Int) (errorCode : String)
  | markAgentIdleMatched (env : CompletionEnv) (agentId : String)
  | markAgentIdleLogEvent (env : CompletionEnv) (agentId provider : String)
      (reply : Option String) (rawPath : String) (rawOffset : Nat) (providerTurnId : Option String)
  | markAgentIdleHookEvent (env : CompletionEnv) (agentId provider hookEvent : String)
      (eventId reply : Option String)

/-- The notices after a transaction: of `jobIds`, if it changed a row. -/
def noticesAfter {α : Type} (changes : α → Nat) (jobIds : α → List String)
    (r : Except CcbdError (α × Db)) : Except CcbdError (List String × Db) :=
  r.map fun r => (if 0 < changes r.1 then jobIds r.1 else [], r.2)

namespace SettlingTx

/-- The agent whose dispatched job the call reads before its transaction. -/
def readsJobOf : SettlingTx → Option String
  | markAgentUnknown a _ _ | markAgentKilled a _ | markAgentCrashed a _ _
  | markAgentIdleMatched _ a | markAgentIdleLogEvent _ a _ _ _ _ _
  | markAgentIdleHookEvent _ a _ _ _ _ => some a
  | _ => none

/-- The transaction, with the notices that follow it. The job that was read before it is
the only one the last six tell of. -/
def run (d : Db) (affected : Option String) (now : Int) :
    SettlingTx → Except CcbdError (List String × Db)
  | markQueuedJobCancelled j =>
    noticesAfter id (fun _ => [j]) (markQueuedJobCancelledSync d j now)
  | markDispatchedJobCancelledIfAgentIdle j =>
    noticesAfter id (fun _ => [j]) (markDispatchedJobCancelledIfAgentIdleSync d j now)
  | markJobFailed j reason => noticesAfter id (fun _ => [j]) (markJobFailedConnSync d j reason now)
  | markAgentStuck a reason =>
    noticesAfter (·.changes) (·.jobId.toList) (markAgentStuckOutcomeSync d a reason now)
  | fallbackAckToStuck a reason =>
    noticesAfter id (fun _ => ((queryDispatchedJobForAgentSync d a).map Prod.fst).toList)
      (Ccbd.fallbackAckToStuck d a reason now)
  | markAgentUnknown a reason e =>
    noticesAfter id (fun _ => affected.toList) (markAgentUnknownSync d a reason e now)
  | markAgentKilled a reason =>
    noticesAfter id (fun _ => affected.toList) (markAgentKilledSync d a reason now)
  | markAgentCrashed a exit code =>
    noticesAfter id (fun _ => affected.toList) (markAgentCrashedSync d a exit code now)
  | markAgentIdleMatched env a =>
    noticesAfter (·.changes) (fun _ => affected.toList)
      (markAgentIdleMatchedOutcomeSync env d a now)
  | markAgentIdleLogEvent env a p reply path off turn =>
    noticesAfter (·.changes) (fun _ => affected.toList)
      (markAgentIdleLogEventOutcomeSync env d a p reply path off turn now)
  | markAgentIdleHookEvent env a p event eventId reply =>
    noticesAfter (·.changes) (fun _ => affected.toList)
      (markAgentIdleHookEventSync env d a p event eventId reply now)

end SettlingTx

/-- The operations, as their callers name them. -/
inductive SettlingOp where
  | single (tx : SettlingTx)
  | fallbackAckToCrashed (agentId reason : String)
  | cascadeKillSessionAgents (sessionId reason : String)
  /-- After the death of a master. -/
  | cleanWorkerRuntimeResources (workerIds : List String) (reason : String)
  | markTerminalSessionAgentsKilledDbOnly (sessionId reason : String)

/-- Where a call stands: before which access to the database, or before its notices. -/
inductive CallPc where
  | checkWaiting (agentId reason : String)
  | readAffected (agentId : String) (tx : SettlingTx)
  | transaction (tx : SettlingTx) (affected : Option String)
  | markSession (sessionId reason : String)
  | checkSession (sessionId reason : String)
  | listAgents (sessionId reason : String)
  | killNext (forMasterDeath : Bool) (reason : String) (agentIds : List String)
  | killTerminal (sessionId reason : String)
  | notify (jobIds : List String)
  | returned

def SettlingOp.entry : SettlingOp → CallPc
  | single tx =>
    match tx.readsJobOf with
    | some a => .readAffected a tx
    | none => .transaction tx none
  | fallbackAckToCrashed a reason => .checkWaiting a reason
  | cascadeKillSessionAgents s reason => .markSession s reason
  | cleanWorkerRuntimeResources workers reason => .killNext true reason workers
  | markTerminalSessionAgentsKilledDbOnly s reason => .killTerminal s reason

/-- One call among the other tasks: the database, the place of the call, and the notices
the call has sent, the oldest first. -/
structure NoticeWorld where
  db : Db
  pc : CallPc
  sent : List String := []

namespace NoticeWorld

/-- The call starts. -/
def enter (op : SettlingOp) (d : Db) : NoticeWorld := ⟨d, op.entry, []⟩

/-- A transaction of the call; an error of it is returned to the caller. -/
def call {α : Type} (w : NoticeWorld) (r : Except CcbdError (α × Db)) (next : α → CallPc) :
    NoticeWorld :=
  match r with
  | .ok (x, d) => { w with db := d, pc := next x }
  | .error _ => { w with pc := .returned }

/-- The statuses in which `cascade_kill_session_agents` goes on with a session that it
has not killed itself. -/
def isTerminalSessionStatus (status : String) : Bool :=
  status = "KILLED" || status = "FAILED" || status = "CLOSED"

/-- The agents of a session that are not down. -/
def upAgents (d : Db) (sessionId : String) : List String :=
  (d.agents.select fun _ agent => agent.sessionId = sessionId && agent.state.isUp).map Prod.fst

/-- The call from one access to the next. -/
def proceed (w : NoticeWorld) (now : Int) : NoticeWorld :=
  match w.pc with
  | .checkWaiting a reason =>
    if fallbackAckToCrashedProceeds w.db a then
      { w with pc := .readAffected a (.markAgentCrashed a none reason) }
    else { w with pc := .returned }
  | .readAffected a tx =>
    { w with pc := .transaction tx ((queryDispatchedJobForAgentSync w.db a).map Prod.fst) }
  | .transaction tx affected => w.call (tx.run w.db affected now) .notify
  | .markSession s reason =>
    if (w.db.sessions.get? s).any (·.status = "ACTIVE") then
      { w with
        db := { w.db with sessions := w.db.sessions.modify s ({ · with status := "KILLED" }) }
        pc := .listAgents s reason }
    else { w with pc := .checkSession s reason }
  | .checkSession s reason =>
    if (w.db.sessions.get? s).any (isTerminalSessionStatus ·.status) then
      { w with pc := .listAgents s reason }
    else { w with pc := .returned }
  | .listAgents s reason => { w with pc := .killNext false reason (upAgents w.db s) }
  | .killNext _ _ [] => { w with pc := .returned }
  | .killNext forMasterDeath reason (a :: rest) =>
    w.call (markAgentKilledSyncInner w.db a reason forMasterDeath now) fun _ =>
      .killNext forMasterDeath reason rest
  | .killTerminal s reason =>
    w.call (markTerminalSessionAgentsKilledDbOnly w.db s reason now) fun _ => .returned
  | .notify jobIds => { w with sent := w.sent ++ jobIds, pc := .returned }
  | .returned => w

end NoticeWorld

/-- The next step of the call, or an operation of another task. -/
inductive NoticeAct where
  | call (now : Int)
  | daemon (op : DaemonOp)

namespace NoticeAct

def apply (w : NoticeWorld) : NoticeAct → NoticeWorld
  | call now => w.proceed now
  | daemon op => { w with db := op.apply w.db }

def Step (w : NoticeWorld) (a : NoticeAct) (w' : NoticeWorld) : Prop := w' = a.apply w

end NoticeAct

/-! ## The transactions as operations of the daemon -/

variable {env : CompletionEnv} {tx : SettlingTx} {α : Type}

theorem commit_noticesAfter (changes : α → Nat) (jobIds : α → List String)
    (r : Except CcbdError (α × Db)) (d : Db) :
    commit (noticesAfter changes jobIds r) d = commit r d := by
  cases r <;> rfl

theorem NoticeWorld.call_db (w : NoticeWorld) (r : Except CcbdError (α × Db)) (next : α → CallPc) :
    (w.call r next).db = commit r w.db := by
  cases r <;> rfl

/-- The transaction as an operation on the database. -/
def SettlingTx.dbOp (now : Int) : SettlingTx → DbOp
  | markQueuedJobCancelled j => .cancelQueued j now
  | markDispatchedJobCancelledIfAgentIdle j => .cancelIfAgentIdle j now
  | markJobFailed j reason => .markJobFailed j reason now
  | markAgentStuck a reason => .markStuck a reason now
  | fallbackAckToStuck a reason => .ackFallbackStuck a reason now
  | markAgentUnknown a reason e => .markUnknown a reason e now
  | markAgentKilled a reason => .markKilled a reason false now
  | markAgentCrashed a exit code => .markCrashed a exit code now
  | markAgentIdleMatched env a => .markerMatched env a now
  | markAgentIdleLogEvent env a p reply path off turn => .logEvent env a p reply path off turn now
  | markAgentIdleHookEvent env a p event id reply => .hookEvent env a p event id reply none now

theorem SettlingTx.commit_run (tx : SettlingTx) (d : Db) (affected : Option String) (now : Int) :
    commit (tx.run d affected now) d = (tx.dbOp now).apply d := by
  cases tx <;> rw [run, commit_noticesAfter] <;> rfl

open NoticeWorld

/-- Every operation of the daemon that settles a job is a step of one of the calls. The
reconciliation runs before the daemon serves; the forced cancel is called by nothing, and
no hook names a version. -/
theorem DaemonOp.exists_proceed (op : DaemonOp) (edge : e ∈ op.edges)
    (settled : e.2.isSettled = true) (serving : ∀ probe now, op ≠ .reconcileStartup probe now)
    (called : ∀ j epoch timeout now, op ≠ .db (.forceCancel j epoch timeout now))
    (unversioned : ∀ env a p event id reply v now,
      op ≠ .db (.hookEvent env a p event id reply (some v) now)) (d : Db) :
    op.apply d = d ∨ ∃ pc now, (proceed ⟨d, pc, []⟩ now).db = op.apply d := by
  have single (tx : SettlingTx) (now : Int) : (tx.dbOp now).apply d = d ∨
      ∃ pc now', (proceed ⟨d, pc, []⟩ now').db = (tx.dbOp now).apply d :=
    .inr ⟨.transaction tx none, now, (call_db _ _ _).trans (tx.commit_run d none now)⟩
  cases op with
  | cleanTerminalSession s reason now =>
    exact .inr ⟨.killTerminal s reason, now, call_db _ _ _⟩
  | reconcileStartup probe now => exact absurd rfl (serving probe now)
  | db op =>
    cases op with
    | markerMatched env a now => exact single (.markAgentIdleMatched env a) now
    | hookEvent env a p event id reply version now =>
      cases version with
      | none => exact single (.markAgentIdleHookEvent env a p event id reply) now
      | some v => exact absurd rfl (unversioned env a p event id reply v now)
    | logEvent env a p reply path off turn now =>
      exact single (.markAgentIdleLogEvent env a p reply path off turn) now
    | ackFallbackStuck a reason now => exact single (.fallbackAckToStuck a reason) now
    | ackFallbackCrashed a reason now =>
      by_cases proceeds : fallbackAckToCrashedProceeds d a = true
      · simpa [apply, SettlingTx.dbOp, DbOp.apply, fallbackAckToCrashed, proceeds] using
          single (.markAgentCrashed a none reason) now
      · simp [apply, DbOp.apply, fallbackAckToCrashed, proceeds, commit]
    | markStuck a reason now => exact single (.markAgentStuck a reason) now
    | markUnknown a reason e now => exact single (.markAgentUnknown a reason e) now
    | cancelQueued j now => exact single (.markQueuedJobCancelled j) now
    | cancelIfAgentIdle j now => exact single (.markDispatchedJobCancelledIfAgentIdle j) now
    | forceCancel j epoch timeout now => exact absurd rfl (called j epoch timeout now)
    | markJobFailed j reason now => exact single (.markJobFailed j reason) now
    | markCrashed a exit code now => exact single (.markAgentCrashed a exit code) now
    | markKilled a reason master now =>
      exact .inr ⟨.killNext master reason [a], now, call_db _ _ _⟩
    | _ => grind [edges, DbOp.edges, JobStatus.isSettled]
  | _ => grind [edges, JobStatus.isSettled]

/-! ## What a call settles -/

/-- The status of the job becomes COMPLETED, CANCELLED or FAILED. -/
def Settles (d d' : Db) (j : String) : Prop :=
  ∃ s : JobStatus, s.isSettled = true ∧ d'.statusOf j = some s ∧ d.statusOf j ≠ some s

theorem not_settles_of_statusOf (same : d'.statusOf j = d.statusOf j) : ¬Settles d d' j := by
  rintro ⟨s, -, now, before⟩
  exact before (same.symm.trans now)

theorem not_settles_of_jobs (same : d'.jobs = d.jobs) : ¬Settles d d' j :=
  not_settles_of_statusOf (by rw [Db.statusOf, Db.statusOf, same])

theorem eq_of_settles (others : ∀ i, i ≠ k → d'.jobs.get? i = d.jobs.get? i)
    (settles : Settles d d' j) : j = k := by
  by_contra other
  refine not_settles_of_statusOf ?_ settles
  rw [Db.statusOf, Db.statusOf, others j other]

theorem eq_of_settles_modify
    (jobs : d'.jobs = (d.jobs.modify k f).modify k g) (settles : Settles d d' j) : j = k := by
  refine eq_of_settles (fun i other => ?_) settles
  simp [jobs, Table.get?_modify_of_ne, other]

theorem settles_iff_fails {P : Job → Prop} [DecidablePred P]
    (jobs : ∀ j, d'.jobs.get? j = (d.jobs.get? j).map fun job =>
      if P job ∧ job.status = .dispatched then job.failWith reason now else job) :
    Settles d d' j ↔ ∃ job, d.jobs.get? j = some job ∧ P job ∧ job.status = .dispatched := by
  constructor
  · intro settles
    by_contra spared
    refine not_settles_of_statusOf ?_ settles
    simp only [Db.statusOf, jobs]
    cases found : d.jobs.get? j with
    | none => rfl
    | some job =>
      have kept : ¬(P job ∧ job.status = .dispatched) := fun fails => spared ⟨job, found, fails⟩
      simp [kept]
  · rintro ⟨job, found, fails⟩
    refine ⟨.failed, rfl, ?_, ?_⟩
    · simp [Db.statusOf, jobs, found, fails]
    · simp [Db.statusOf, found, fails.2]

theorem settles_iff_owns (jobs : ∀ j, d'.jobs.get? j = (d.jobs.get? j).map fun job =>
      if job.agentId = a ∧ job.status = .dispatched then job.failWith reason now else job) :
    Settles d d' j ↔ d.Owns a j :=
  settles_iff_fails jobs

/-! ## What a transaction settles -/

/-- The jobs a transaction is about to settle that knows them only from the read before it:
those of an agent that is not down, or the one that passes the checks of a completion. -/
def SettlingTx.Reaches (d : Db) (j : String) : SettlingTx → Prop
  | markAgentUnknown a _ e =>
    (d.stateOf a).any isActiveState = true ∧ d.evidence.get? e = none ∧ d.Owns a j ∧
      ∀ k job, queryDispatchedJobForAgentSync d a = some (k, job) → job.cancelRequested = true →
        j = k
  | markAgentKilled a _ => (d.stateOf a).any (·.isUp) = true ∧ d.Owns a j
  | markAgentCrashed a _ _ =>
    (d.stateOf a).any (fun s => s.isUp && s ≠ .promptPending) = true ∧ d.Owns a j
  | markAgentIdleMatched env a => ∃ agent job, MarkerSettles env d a agent j job
  | markAgentIdleLogEvent env a p reply _ _ _ | markAgentIdleHookEvent env a p _ _ reply =>
    ∃ agent job, EventSettles env d a p reply agent j job
  | _ => False

theorem settles_of_unreached (unreached : ¬P) :
    (Settles d d j ↔ P) ∧ (Settles d d j → 0 < n) :=
  have none : ¬Settles d d j := not_settles_of_jobs rfl
  ⟨iff_of_false none unreached, fun settles => absurd settles none⟩

theorem Db.exists_of_stateOf_any {d : Db} {p : AgentState → Bool} (h : (d.stateOf a).any p = true) :
    ∃ agent, d.agents.get? a = some agent ∧ p agent.state = true := by
  obtain ⟨state, hstate, holds⟩ := (Option.any_eq_true ..).mp h
  obtain ⟨agent, found, rfl⟩ := Option.map_eq_some_iff.mp hstate
  exact ⟨agent, found, holds⟩

theorem markAgentKilledSyncInner_settles_iff
    (h : markAgentKilledSyncInner d a reason capture now = .ok (n, d')) :
    (Settles d d' j ↔ (d.stateOf a).any (·.isUp) = true ∧ d.Owns a j) ∧
      (Settles d d' j → 0 < n) := by
  rcases markAgentKilledSyncInner_ok h with
    ⟨rfl, rfl, down⟩ | ⟨rfl, agent, found, crashed, killed, goes⟩
  · refine settles_of_unreached ?_
    rintro ⟨up, -⟩
    obtain ⟨agent, found, isUp⟩ := Db.exists_of_stateOf_any up
    rcases down agent found with e | e <;> simp [e, AgentState.isUp] at isUp
  · rw [settles_iff_owns goes.jobs]
    simp [Db.stateOf, found, AgentState.isUp, crashed, killed]

theorem markAgentCrashedSync_settles_iff
    (h : markAgentCrashedSync d a exitCode errorCode now = .ok (n, d')) :
    (Settles d d' j ↔
        (d.stateOf a).any (fun s => s.isUp && s ≠ .promptPending) = true ∧ d.Owns a j) ∧
      (Settles d d' j → 0 < n) := by
  rcases markAgentCrashedSync_ok h with
    ⟨rfl, rfl, down⟩ | ⟨rfl, agent, why, found, crashed, killed, pending, goes⟩
  · refine settles_of_unreached ?_
    rintro ⟨up, -⟩
    obtain ⟨agent, found, isUp⟩ := Db.exists_of_stateOf_any up
    rcases down agent found with e | e | e <;> simp [e, AgentState.isUp] at isUp
  · rw [settles_iff_owns goes.jobs]
    simp [Db.stateOf, found, AgentState.isUp, crashed, killed, pending]

theorem settleUnknownJobs_settles_iff (h : settleUnknownJobs d a reason now = .ok d') :
    Settles d d' j ↔ d.Owns a j ∧ ∀ k job, queryDispatchedJobForAgentSync d a = some (k, job) →
      job.cancelRequested = true → j = k := by
  unfold settleUnknownJobs at h
  split at h
  · rename_i free
    cases h
    refine iff_of_false (not_settles_of_jobs rfl) ?_
    rintro ⟨⟨job, found, owner, dispatched⟩, -⟩
    exact queryDispatchedJobForAgentSync_none free found owner dispatched
  rename_i k job oldest
  obtain ⟨found, owner, dispatched⟩ := queryDispatchedJobForAgentSync_some oldest
  split at h
  · rename_i cancel
    obtain ⟨⟨n, d₁⟩, h₁, rfl⟩ := map_eq_ok.mp h
    obtain ⟨t, ht⟩ := settleDispatchedJob_dispatched found dispatched
      (by decide : JobStatus.dispatched.edge .cancelled = true) "" "cancelled" now
    cases ht.symm.trans h₁
    constructor
    · intro settles
      obtain rfl : j = k := eq_of_settles_modify (g := (·.enter .cancelled now)) rfl settles
      refine ⟨⟨job, found, owner, dispatched⟩, fun k' job' again _ => ?_⟩
      exact congrArg Prod.fst (Option.some.inj (oldest.symm.trans again))
    · rintro ⟨-, only⟩
      obtain rfl : j = k := only k job oldest cancel
      refine ⟨.cancelled, rfl, ?_, ?_⟩
      · simp [Db.statusOf, found]
      · simp [Db.statusOf, found, dispatched]
  · rename_i kept
    obtain ⟨⟨r, d₁⟩, h₁, rfl⟩ := map_eq_ok.mp h
    obtain ⟨jobs, trs, rfl, all⟩ := markDispatchedJobsFailedForAgentConnCollectSync_ok h₁
    rw [settles_iff_owns all]
    refine (and_iff_left fun k' job' again cancel => ?_).symm
    cases oldest.symm.trans again
    exact absurd cancel kept

theorem settleUnknownJobs_succeeds (d : Db) (a reason : String) (now : Int) :
    ∃ d', settleUnknownJobs d a reason now = .ok d' := by
  unfold settleUnknownJobs
  split
  · exact ⟨_, rfl⟩
  rename_i k job oldest
  obtain ⟨found, -, dispatched⟩ := queryDispatchedJobForAgentSync_some oldest
  split
  · obtain ⟨t, ht⟩ := settleDispatchedJob_dispatched found dispatched
      (by decide : JobStatus.dispatched.edge .cancelled = true) "" "cancelled" now
    exact ⟨_, map_eq_ok.mpr ⟨_, ht, rfl⟩⟩
  · obtain ⟨r, h⟩ := markDispatchedJobsFailedForAgentConnCollectSync_succeeds d a reason now
    exact ⟨_, map_eq_ok.mpr ⟨_, h, rfl⟩⟩

theorem markAgentUnknownSync_settles_iff (h : markAgentUnknownSync d a reason e now = .ok (n, d')) :
    (Settles d d' j ↔ (SettlingTx.markAgentUnknown a reason e).Reaches d j) ∧
      (Settles d d' j → 0 < n) := by
  obtain ⟨rfl, rfl, inactive⟩ | ⟨agent, found, active, h⟩ := unless_ok h
  · refine settles_of_unreached fun reaches => ?_
    obtain ⟨agent, found, active⟩ := Db.exists_of_stateOf_any reaches.1
    simp [inactive agent found] at active
  split at h
  · cases h
  rename_i fresh
  obtain ⟨d₁, h₁, h₂⟩ := bind_eq_ok.mp h
  cases h₂
  refine ⟨?_, fun _ => Nat.one_pos⟩
  have settled := settleUnknownJobs_settles_iff (j := j) h₁
  have reaches : (d.stateOf a).any isActiveState = true ∧ d.evidence.get? e = none :=
    ⟨by simpa [Db.stateOf, found] using active, by simpa using fresh⟩
  -- the writes before leave the jobs as they are
  exact settled.trans ⟨fun h => ⟨reaches.1, reaches.2, h⟩, fun h => h.2.2⟩

theorem CompletionCase.settles_iff {checks : Agent → String → Job → Prop}
    (cases : CompletionCase env d a states version subState payload checks reply now d')
    (settled : ∀ agent k job, checks agent k job →
      queryDispatchedJobForAgentSync d a = some (k, job) ∧ n = 1 ∧
        ∃ reply, d'.jobs = (d.jobs.modify k (·.setReplyText reply)).modify k
          (·.enter (.settled job.cancelRequested) now)) :
    (Settles d d' j ↔ ∃ agent job, checks agent j job) ∧ (Settles d d' j → 0 < n) := by
  have reached (settles : Settles d d' j) : ∃ agent job, checks agent j job := by
    rcases cases.jobs with same | ⟨agent, k, job, checked, -⟩
    · exact absurd settles (not_settles_of_jobs same)
    · obtain ⟨-, -, reply, jobs⟩ := settled agent k job checked
      obtain rfl : j = k := eq_of_settles_modify jobs settles
      exact ⟨agent, job, checked⟩
  refine ⟨⟨reached, ?_⟩, fun settles => ?_⟩
  · rintro ⟨agent, job, checked⟩
    obtain ⟨oldest, -, reply, jobs⟩ := settled agent j job checked
    obtain ⟨found, -, dispatched⟩ := queryDispatchedJobForAgentSync_some oldest
    refine ⟨.settled job.cancelRequested, ?_, by simp [Db.statusOf, jobs, found], ?_⟩
    · cases job.cancelRequested <;> rfl
    · cases cancel : job.cancelRequested <;>
        simp [Db.statusOf, found, dispatched, JobStatus.settled]
  · obtain ⟨agent, job, checked⟩ := reached settles
    obtain ⟨-, rfl, -⟩ := settled agent j job checked
    exact Nat.one_pos

theorem markAgentIdleEventOutcome_settles_iff
    (h : markAgentIdleEventOutcome env d a provider source reply none subState payload now =
      .ok (r, d')) :
    (Settles d d' j ↔ ∃ agent job, EventSettles env d a provider reply agent j job) ∧
      (Settles d d' j → 0 < r.changes) := by
  refine (markAgentIdleEventOutcome_cases h).settles_iff fun agent k job checked => ?_
  obtain ⟨d₁, h₁, settled⟩ := checked.succeeds Option.getD_none source subState payload now
  cases h.symm.trans h₁
  exact ⟨checked.dispatched, rfl, _, settled.jobs⟩

theorem markAgentIdleMatchedOutcomeSync_settles_iff
    (h : markAgentIdleMatchedOutcomeSync env d a now = .ok (r, d')) :
    (Settles d d' j ↔ ∃ agent job, MarkerSettles env d a agent j job) ∧
      (Settles d d' j → 0 < r.changes) := by
  refine (markAgentIdleMatchedOutcomeSyncInner_cases h).settles_iff fun agent k job checked => ?_
  obtain ⟨d₁, h₁, settled⟩ := checked.succeeds "MARKER_MATCHED" now
  cases h.symm.trans h₁
  exact ⟨checked.dispatched, rfl, _, settled.jobs⟩

namespace SettlingTx

theorem noticesAfter_eq_ok
    {r : Except CcbdError (α × Db)} (h : noticesAfter changes told r = .ok (jobIds, d')) :
    ∃ x, r = .ok (x, d') ∧ jobIds = if 0 < changes x then told x else [] := by
  obtain ⟨⟨x, d₁⟩, h₁, h₂⟩ := map_eq_ok.mp h
  cases h₂
  exact ⟨x, h₁, rfl⟩

/-- A call that learns the job in its transaction tells of every job it settles. -/
theorem mem_of_settles (own : tx.readsJobOf = none) (h : tx.run d affected now = .ok (jobIds, d'))
    (settles : Settles d d' j) : j ∈ jobIds := by
  have changed : d' ≠ d := by
    rintro rfl
    exact not_settles_of_jobs rfl settles
  cases tx <;> rw [run] at h <;> obtain ⟨r, h₁, rfl⟩ := noticesAfter_eq_ok h
  case markQueuedJobCancelled k =>
    obtain ⟨rfl, t, rfl⟩ := (markQueuedJobCancelledSync_ok h₁).resolve_left changed
    have only := eq_of_settles (fun i other => Table.get?_modify_of_ne _ _ other) settles
    simp [only]
  case markDispatchedJobCancelledIfAgentIdle k =>
    obtain ⟨rfl, t, rfl⟩ := (markDispatchedJobCancelledIfAgentIdleSync_ok h₁).resolve_left changed
    have only := eq_of_settles (fun i other => Table.get?_modify_of_ne _ _ other) settles
    simp [only]
  case markJobFailed k reason =>
    obtain ⟨rfl, t, rfl⟩ := (markJobFailedConnSync_ok h₁).resolve_left changed
    have only := eq_of_settles_modify (g := (·.enter .failed now)) rfl settles
    simp [only]
  case markAgentStuck a reason =>
    obtain ⟨changes, agent, -, -, -, ⟨-, same⟩ | ⟨k, job, -, named, jobs⟩⟩ :=
      (markAgentStuckOutcomeSync_ok h₁).resolve_left changed
    · exact absurd settles (not_settles_of_jobs same)
    · simp [changes, named, eq_of_settles_modify jobs settles]
  case fallbackAckToStuck a reason =>
    rcases fallbackAckToStuck_ok h₁ with ⟨same, -⟩ | ⟨rfl, agent, -, -, free | settled⟩
    · exact absurd same changed
    · exact absurd settles (not_settles_of_jobs free.2.1)
    · obtain ⟨k, job, e, oldest, -, jobs⟩ := settled
      simp [oldest, eq_of_settles_modify jobs settles]
  all_goals cases own

/-- A call that reads the job before its transaction settles the jobs it reaches, and tells
of the one it has read. -/
theorem settles_iff_reaches (read : tx.readsJobOf ≠ none)
    (h : tx.run d affected now = .ok (jobIds, d')) :
    (Settles d d' j ↔ tx.Reaches d j) ∧ (Settles d d' j → jobIds = affected.toList) := by
  have told : ∀ {α : Type} {changes : α → Nat} {x : α} {P : Prop},
      (Settles d d' j ↔ P) ∧ (Settles d d' j → 0 < changes x) →
      (Settles d d' j ↔ P) ∧ (Settles d d' j →
        (if 0 < changes x then affected.toList else []) = affected.toList) :=
    fun h => ⟨h.1, fun settles => if_pos (h.2 settles)⟩
  cases tx <;> rw [run] at h <;> obtain ⟨r, h₁, rfl⟩ := noticesAfter_eq_ok h
  case markAgentUnknown => exact told (markAgentUnknownSync_settles_iff h₁)
  case markAgentKilled => exact told (markAgentKilledSyncInner_settles_iff h₁)
  case markAgentCrashed => exact told (markAgentCrashedSync_settles_iff h₁)
  case markAgentIdleMatched => exact told (markAgentIdleMatchedOutcomeSync_settles_iff h₁)
  case markAgentIdleLogEvent =>
    rw [markAgentIdleLogEventOutcomeSync_eq] at h₁
    exact told (markAgentIdleEventOutcome_settles_iff h₁)
  case markAgentIdleHookEvent =>
    rw [markAgentIdleHookEventSync, markAgentIdleHookEventOutcomeSync_eq] at h₁
    exact told (markAgentIdleEventOutcome_settles_iff h₁)
  all_goals exact absurd rfl read

theorem exists_run_of_reaches (reaches : tx.Reaches d j) (affected : Option String) (now : Int) :
    ∃ r, tx.run d affected now = .ok r := by
  have after : ∀ {α : Type} {changes : α → Nat} {told : α → List String}
      {r : Except CcbdError (α × Db)}, (∃ x, r = .ok x) →
      ∃ y, noticesAfter changes told r = .ok y := by
    rintro α changes told r ⟨x, rfl⟩
    exact ⟨_, rfl⟩
  cases tx <;> simp only [run]
  case markAgentUnknown a reason e =>
    obtain ⟨active, fresh, -, -⟩ := reaches
    obtain ⟨agent, found, active⟩ := Db.exists_of_stateOf_any active
    refine after ?_
    simp only [markAgentUnknownSync, found, active, fresh]
    obtain ⟨d₁, h⟩ := settleUnknownJobs_succeeds _ a reason now
    exact ⟨_, bind_eq_ok.mpr ⟨d₁, h, rfl⟩⟩
  case markAgentKilled a reason => exact after (markAgentKilledSync_succeeds d a reason now)
  case markAgentCrashed a exit code =>
    exact after (markAgentCrashedSync_succeeds d a exit code now)
  case markAgentIdleMatched env a =>
    obtain ⟨agent, job, checked⟩ := reaches
    obtain ⟨d', h, -⟩ := checked.succeeds "MARKER_MATCHED" now
    exact after ⟨_, h⟩
  case markAgentIdleLogEvent env a p reply path off turn =>
    obtain ⟨agent, job, checked⟩ := reaches
    obtain ⟨d', h, -⟩ := checked.succeeds Option.getD_none "log" "LogEvent" _ now
    rw [markAgentIdleLogEventOutcomeSync_eq]
    exact after ⟨_, h⟩
  case markAgentIdleHookEvent env a p event id reply =>
    obtain ⟨agent, job, checked⟩ := reaches
    obtain ⟨d', h, -⟩ := checked.succeeds Option.getD_none "hook" "HookEvent" _ now
    rw [markAgentIdleHookEventSync, markAgentIdleHookEventOutcomeSync_eq]
    exact after ⟨_, h⟩
  all_goals exact reaches.elim

theorem forall_mem_iff (h : tx.run d affected now = .ok (jobIds, d')) :
    (∀ j, Settles d d' j → j ∈ jobIds) ↔ ∀ j, tx.Reaches d j → affected = some j := by
  by_cases own : tx.readsJobOf = none
  · refine iff_of_true (fun j => mem_of_settles own h) fun j reaches => ?_
    cases tx <;> first | exact reaches.elim | cases own
  · refine forall_congr' fun j => ?_
    obtain ⟨settles, told⟩ := settles_iff_reaches own h
    rw [← settles]
    refine forall_congr' fun hs => ?_
    rw [told hs, Option.mem_toList]

end SettlingTx

/-! ## A terminal session -/

theorem mem_upAgents : a ∈ upAgents d s ↔ d.isUpIn s a = true := by
  simp [upAgents, Db.isUpIn, Table.mem_select, Option.any_eq_true]

theorem killTerminalAgent_succeeds (found : (d.agents.get? a).isSome) (s reason : String)
    (now : Int) : ∃ r, killTerminalAgent d a s reason now = .ok r := by
  obtain ⟨agent, found⟩ := Option.isSome_iff_exists.mp found
  simp only [killTerminalAgent, found]
  split_ifs
  · obtain ⟨r, h⟩ := markDispatchedJobsFailedForAgentConnCollectSync_succeeds
      (d.modifyAgent a (·.enter .killed now)) a reason now
    exact ⟨_, bind_eq_ok.mpr ⟨r, h, rfl⟩⟩
  · exact ⟨_, rfl⟩

theorem killTerminalAgents_succeeds (found : ∀ a ∈ agentIds, (d.agents.get? a).isSome) :
    ∃ r, killTerminalAgents s reason now agentIds d = .ok r := by
  induction agentIds generalizing d with
  | nil => exact ⟨_, rfl⟩
  | cons a rest ih =>
    rw [List.forall_mem_cons] at found
    obtain ⟨⟨m, d₁⟩, h₁⟩ := killTerminalAgent_succeeds found.1 s reason now
    have kept : ∀ b ∈ rest, (d₁.agents.get? b).isSome := by
      intro b mem
      rcases killTerminalAgent_ok h₁ with ⟨-, rfl⟩ | ⟨-, goes⟩
      · exact found.2 b mem
      · rw [goes.agents, Table.get?_modify]
        split_ifs <;> simp [found.2 b mem]
    obtain ⟨r, h₂⟩ := ih kept
    exact ⟨_, bind_eq_ok.mpr ⟨_, h₁, bind_eq_ok.mpr ⟨r, h₂, rfl⟩⟩⟩

theorem killTerminalAgents_ok (h : killTerminalAgents s reason now agentIds d = .ok (n, d')) :
    ∀ j, d'.jobs.get? j = (d.jobs.get? j).map fun job =>
      if (job.agentId ∈ agentIds ∧ d.isUpIn s job.agentId = true) ∧ job.status = .dispatched then
        job.failWith reason now
      else job := by
  -- by induction on the agents: an agent that was killed is not up in the next turns
  induction agentIds generalizing d n with
  | nil =>
    cases h
    simp
  | cons a rest ih =>
    obtain ⟨m, d₁, m', h₁, h₂⟩ := count_eq_ok h
    intro j
    rw [ih h₂ j]
    rcases killTerminalAgent_ok h₁ with ⟨down, rfl⟩ | ⟨up, goes⟩
    · cases found : d₁.jobs.get? j with
      | none => rfl
      | some job =>
        by_cases e : job.agentId = a
        · simp [e, down]
        · simp [e]
    · have after : ∀ b, d₁.isUpIn s b = (b ≠ a && d.isUpIn s b) := by
        intro b
        by_cases e : b = a
        · cases found : d.agents.get? a <;>
            simp [Db.isUpIn, goes.agents, e, found, AgentState.isUp]
        · simp [Db.isUpIn, goes.agents, Table.get?_modify_of_ne, e]
      rw [goes.jobs j]
      cases found : d.jobs.get? j with
      | none => rfl
      | some job =>
        by_cases e : job.agentId = a <;> by_cases dispatched : job.status = .dispatched <;>
          simp [e, dispatched, after, up]

theorem markTerminalSessionAgentsKilledDbOnly_settles_iff
    (h : markTerminalSessionAgentsKilledDbOnly d s reason now = .ok (n, d')) :
    Settles d d' j ↔ ∃ a, d.isUpIn s a = true ∧ d.Owns a j := by
  have listed : ∀ a, a ∈ upAgents d s ∧ d.isUpIn s a = true ↔ d.isUpIn s a = true :=
    fun a => and_iff_right_of_imp mem_upAgents.mpr
  refine (settles_iff_fails (P := fun job => job.agentId ∈ upAgents d s ∧
    d.isUpIn s job.agentId = true) (killTerminalAgents_ok h)).trans ?_
  simp only [listed]
  constructor
  · rintro ⟨job, found, up, dispatched⟩
    exact ⟨job.agentId, up, job, found, rfl, dispatched⟩
  · rintro ⟨a, up, job, found, rfl, dispatched⟩
    exact ⟨job, found, up, dispatched⟩

theorem markTerminalSessionAgentsKilledDbOnly_succeeds (d : Db) (s reason : String) (now : Int) :
    ∃ r, markTerminalSessionAgentsKilledDbOnly d s reason now = .ok r := by
  refine killTerminalAgents_succeeds fun a mem => ?_
  obtain ⟨agent, found, -⟩ := (Option.any_eq_true ..).mp (mem_upAgents.mp mem)
  exact Option.isSome_of_eq_some found

/-! ## Told before the return -/

/-- A `handle_job_wait` in its loop: it has subscribed when the call had sent `since`
notices. What the other tasks send comes on top. -/
structure JobWait where
  jobId : String
  since : Nat

/-- `rx.recv()` has given it a notice of its job. -/
def JobWait.Woken (wait : JobWait) (sent : List String) : Prop :=
  wait.jobId ∈ sent.drop wait.since

/-- The call that ends in `w` has told of the jobs which it settled with the transition:
everyone who had subscribed to one of them before wakes up. -/
def TellsOf (w : NoticeWorld) (t : Transition NoticeWorld NoticeAct) : Prop :=
  ∀ now, t.act = .call now → ∀ wait : JobWait, Settles t.pre.db t.post.db wait.jobId →
    wait.since ≤ t.pre.sent.length → wait.Woken w.sent

namespace NoticeWorld

/-- The step of the call leaves no job untold: its transaction reaches no job but the one
that was read before, and it kills no agent with a DISPATCHED job in a loop. -/
def Covers (w : NoticeWorld) : Prop :=
  match w.pc with
  | .transaction tx affected => ∀ j, tx.Reaches w.db j → affected = some j
  | .killNext _ _ (a :: _) => ∀ j, (w.db.stateOf a).any (·.isUp) = true → ¬w.db.Owns a j
  | .killTerminal s _ => ∀ a j, w.db.isUpIn s a = true → ¬w.db.Owns a j
  | _ => True

/-- The notices of the call in the end, once they are settled. -/
def allSent (w : NoticeWorld) : Option (List String) :=
  match w.pc with
  | .notify jobIds => some (w.sent ++ jobIds)
  | .killNext .. | .returned => some w.sent
  | _ => none

theorem allSent_step
    (step : NoticeAct.Step w act w') (sent : w.allSent = some all) : w'.allSent = some all := by
  obtain ⟨d, pc, told⟩ := w
  cases step
  cases act with
  | daemon op => exact sent
  | call now =>
    cases pc with
    | notify jobIds => exact sent
    | returned => exact sent
    | killNext master reason agentIds =>
      cases agentIds with
      | nil => exact sent
      | cons a rest =>
        simp only [NoticeAct.apply, proceed, call]
        split
        · exact sent
        · exact sent
    | _ => cases sent

/-- What one step of the call settles, and what it will have sent: the step settles only
jobs that will be told of exactly when it covers them. -/
theorem proceed_covers (w : NoticeWorld) (now : Int) :
    ∃ jobIds, ((w.proceed now).allSent = some (w.sent ++ jobIds) ∨
        ∀ j, ¬Settles w.db (w.proceed now).db j) ∧
      ((∀ j, Settles w.db (w.proceed now).db j → j ∈ jobIds) ↔ w.Covers) := by
  -- a step that leaves the jobs alone settles nothing
  have idle : (w.proceed now).db.jobs = w.db.jobs → w.Covers → ∃ jobIds,
      ((w.proceed now).allSent = some (w.sent ++ jobIds) ∨
        ∀ j, ¬Settles w.db (w.proceed now).db j) ∧
      ((∀ j, Settles w.db (w.proceed now).db j → j ∈ jobIds) ↔ w.Covers) := by
    intro same covers
    have none : ∀ j, ¬Settles w.db (w.proceed now).db j := fun j => not_settles_of_jobs same
    exact ⟨[], .inr none, iff_of_true (fun j settles => absurd settles (none j)) covers⟩
  obtain ⟨d, pc, sent⟩ := w
  cases pc with
  | transaction tx affected =>
    cases h : tx.run d affected now with
    | error e =>
      refine idle ?_ fun j reaches => ?_
      · simp [proceed, call, h]
      · obtain ⟨r, hr⟩ := SettlingTx.exists_run_of_reaches reaches affected now
        cases h.symm.trans hr
    | ok r =>
      obtain ⟨jobIds, d'⟩ := r
      simp only [proceed, h]
      exact ⟨jobIds, .inl rfl, SettlingTx.forall_mem_iff h⟩
  | killNext master reason agentIds =>
    cases agentIds with
    | nil => exact idle rfl trivial
    | cons a rest =>
      obtain ⟨⟨n, d'⟩, h⟩ := markAgentKilledSyncInner_succeeds d a reason master now
      simp only [proceed, call, h]
      refine ⟨[], .inl (by simp [allSent]), ?_⟩
      simp [(markAgentKilledSyncInner_settles_iff h).1, Covers]
  | killTerminal s reason =>
    obtain ⟨⟨n, d'⟩, h⟩ := markTerminalSessionAgentsKilledDbOnly_succeeds d s reason now
    simp only [proceed, call, h]
    refine ⟨[], .inl (by simp [allSent]), ?_⟩
    simp only [markTerminalSessionAgentsKilledDbOnly_settles_iff h, List.not_mem_nil,
      imp_false, not_exists, not_and]
    exact forall_comm
  | checkWaiting a reason | markSession s reason | checkSession s reason =>
    refine idle ?_ trivial
    simp only [proceed]
    split <;> rfl
  | readAffected | listAgents | notify | returned => exact idle rfl trivial

end NoticeWorld

/-- In every run of a call that returns, the call has told of all the jobs it settled
exactly when it covers each of its steps. -/
theorem tellsOfAll_iff {op : SettlingOp} {d : Db} {w : NoticeWorld}
    {ts : List (Transition NoticeWorld NoticeAct)}
    (run : Run NoticeAct.Step (.enter op d) ts w) (returned : w.pc = .returned) :
    (∀ t ∈ ts, TellsOf w t) ↔ ∀ t ∈ ts, ∀ now, t.act = .call now → t.pre.Covers := by
  refine forall₂_congr fun t mem => forall₂_congr fun now call => ?_
  obtain ⟨step, ts', rest⟩ := run.rest_of_mem mem
  rw [call, NoticeAct.Step, NoticeAct.apply] at step
  obtain ⟨jobIds, told, covers⟩ := t.pre.proceed_covers now
  rw [← step] at told covers
  rw [← covers]
  rcases told with all | none
  · have final : w.allSent = some (t.pre.sent ++ jobIds) :=
      rest.invariant (I := fun w => w.allSent = some (t.pre.sent ++ jobIds)) (C := fun _ _ => True)
        (fun _ _ _ sent _ step => allSent_step step sent) all fun _ _ => trivial
    have sent : w.sent = t.pre.sent ++ jobIds := by
      simpa [allSent, returned] using final
    constructor
    · intro woken j settles
      have := woken ⟨j, t.pre.sent.length⟩ settles (Nat.le_refl _)
      rwa [JobWait.Woken, sent, List.drop_left] at this
    · intro mem wait settles since
      rw [JobWait.Woken, sent, List.drop_append_of_le_length since]
      exact List.mem_append_right _ (mem _ settles)
  · exact iff_of_true (fun wait settles => absurd settles (none _))
      fun j settles => absurd settles (none j)

/-! ## An agent at work -/

theorem SettlingTx.Reaches.exists_owns (reaches : tx.Reaches d j) : ∃ a, d.Owns a j := by
  cases tx with
  | markAgentUnknown a => exact ⟨a, reaches.2.2.1⟩
  | markAgentKilled a | markAgentCrashed a => exact ⟨a, reaches.2⟩
  | markAgentIdleMatched env a | markAgentIdleLogEvent env a | markAgentIdleHookEvent env a =>
    obtain ⟨agent, job, checked⟩ := reaches
    exact ⟨a, job, queryDispatchedJobForAgentSync_some checked.dispatched⟩
  | _ => exact reaches.elim

/-- The call does not kill in a loop, and it has read the job if it is at its transaction. -/
def CallPc.knows (jobId : String) : CallPc → Bool
  | transaction _ affected => affected = some jobId
  | killNext .. | killTerminal .. => false
  | _ => true

theorem NoticeWorld.covers_of_knows {w : NoticeWorld} (jobId : String)
    (only : ∀ row ∈ w.db.jobs.rows, row.2.status = .dispatched → row.1 = jobId)
    (knows : w.pc.knows jobId = true) : w.Covers := by
  obtain ⟨d, pc, sent⟩ := w
  cases pc with
  | transaction tx affected =>
    intro j reaches
    obtain ⟨a, owns⟩ := reaches.exists_owns
    rw [Db.eq_of_owns only owns]
    simpa [CallPc.knows] using knows
  | killNext | killTerminal => cases knows
  | _ => trivial

def CallPc.isReturned : CallPc → Bool
  | returned => true
  | _ => false

theorem CallPc.eq_returned {pc : CallPc} (h : pc.isReturned = true) : pc = .returned := by
  cases pc with
  | returned => rfl
  | _ => cases h

/-- The agent is spawned and ready and has got a job before the call takes its steps. -/
def whileAtWork (steps : List NoticeAct) : List NoticeAct :=
  [.daemon (.insertAgent "a1" "s1" "claude" none 1), .daemon (.learnedReadiness "a1" 2),
    .daemon (.db (.insertJob "j1" "a1" none "task" 3)),
    .daemon (.db (.dispatchQueuedJob "a1" 4))] ++ steps

/-- `agent.kill`. -/
def agentKilled : NoticeWorld :=
  .enter (.single (.markAgentKilled "a1" "USER_KILL")) .oneSession

def threeSteps : List NoticeAct := [.call 5, .call 6, .call 7]

theorem tellsOfAll_agentKilled :
    ((whileAtWork threeSteps).foldl NoticeAct.apply agentKilled).sent = ["j1"] ∧
      ∀ t ∈ trace NoticeAct.apply agentKilled (whileAtWork threeSteps),
        TellsOf ((whileAtWork threeSteps).foldl NoticeAct.apply agentKilled) t := by
  refine ⟨by decide +kernel, (tellsOfAll_iff (Run.of_list agentKilled _)
    (CallPc.eq_returned (by decide +kernel))).mpr ?_⟩
  simp only [whileAtWork, threeSteps, List.cons_append, List.nil_append, trace,
    List.forall_mem_cons,
    List.not_mem_nil, false_implies, implies_true, and_true, reduceCtorEq, true_and]
  refine ⟨fun _ _ => ?_, fun _ _ => ?_, fun _ _ => ?_⟩ <;>
    exact covers_of_knows "j1" (by decide +kernel) (by decide +kernel)

/-- `session.kill` on a session with an agent at work: its job fails, and nobody is told. -/
theorem not_tellsOfAll_sessionKilled :
    ¬∀ (op : SettlingOp) (d : Db) (ts : List (Transition NoticeWorld NoticeAct)) (w : NoticeWorld),
      Run NoticeAct.Step (.enter op d) ts w → w.pc = .returned → ∀ t ∈ ts, TellsOf w t := by
  intro all
  have woken := all (.cascadeKillSessionAgents "s1" "SESSION_KILL") .oneSession _ _
    (Run.of_list _ (whileAtWork [.call 5, .call 6, .call 7, .call 8]))
    (CallPc.eq_returned (by decide +kernel)) _ (List.mem_of_getElem? (i := 6) rfl) 7 rfl ⟨"j1", 0⟩
    ⟨.failed, rfl, by decide +kernel, by decide +kernel⟩ (Nat.zero_le _)
  revert woken
  unfold JobWait.Woken
  decide +kernel

end Ccbd
