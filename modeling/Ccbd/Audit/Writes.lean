import Ccbd.Audit.Operations
import Mathlib.Logic.Relation

/-!
# What a transaction writes

A transaction on running agents moves at most one agent. Between its other writes, which are
to jobs, to events of other types and to evidence and intents, the row of the agent enters a
state and one `state_change` event records it. `SideWrite` and `Turn` say this once, with what
each write is guarded by; what holds along every operation is then shown for one write at a
time, with `Turn.lift` and `DaemonOp.Writes.lift`.

## Main definitions

* `SideWrite`: one write that is not the state of an agent.
* `Turn`: the writes of a transaction that moves one agent.
* `Scope`: the changes of status, and the states, that a transaction can reach.
-/

namespace Ccbd

open Lib

/-! ## Writes to jobs -/

/-- The row records a change of a job of `owner`. -/
structure JobTransition.Reports (r : JobTransition) (owner : String) (old new : Option JobStatus) :
    Prop where
  owner : r.agentId = owner
  old : r.oldStatus = old
  new : r.newStatus = new

/-- The row of a cancel request. -/
structure JobTransition.IsCancelRequest (r : JobTransition) : Prop where
  kind : r.kind = "job_updated"
  reason : r.reason = "cancel_requested"
  changed : r.changedJson = ["cancel_requested"]

/-- What the gate is used for. -/
inductive JobMove where
  | dispatch (seqId : Nat)
  | settle (reply : String) (cancelled : Bool)
  | fail (reason : String)
  | cancel
  | requeue (errorReason : Option String)

namespace JobMove

def target : JobMove → JobStatus
  | dispatch _ => .dispatched
  | settle _ cancelled => .settled cancelled
  | fail _ => .failed
  | cancel => .cancelled
  | requeue _ => .queued

/-- The column that is written before the gate is passed. -/
def column (m : JobMove) (job : Job) : Job :=
  match m with
  | dispatch _ | cancel => job
  | settle reply _ => job.setReplyText reply
  | fail reason => job.setErrorReason (some reason)
  | requeue errorReason => job.setErrorReason errorReason

/-- The sequence id of a dispatch is written after the gate. -/
def apply (m : JobMove) (now : Int) (job : Job) : Job :=
  match m with
  | dispatch seqId => (job.enter .dispatched now).setDispatchedSeqId seqId
  | m => (m.column job).enter m.target now

theorem apply_status (m : JobMove) (now : Int) (job : Job) :
    (m.apply now job).status = m.target := by
  cases m <;> simp [apply, target]

theorem apply_agentId (m : JobMove) (now : Int) (job : Job) :
    (m.apply now job).agentId = job.agentId := by
  cases m <;> simp [apply, column]

end JobMove

/-- A job as it is created. -/
def Job.IsNew (job : Job) : Prop :=
  job.status = .queued ∧ job.dispatchedAt = none ∧ job.dispatchedAtSeqId = none ∧
    job.completedAt = none ∧ job.replyText = none

/-- The owner, the status and what goes with it stay. -/
structure Job.Marked (job job' : Job) : Prop where
  owner : job'.agentId = job.agentId
  status : job'.status = job.status
  dispatchedAt : job'.dispatchedAt = job.dispatchedAt
  dispatchedAtSeqId : job'.dispatchedAtSeqId = job.dispatchedAtSeqId
  completedAt : job'.completedAt = job.completedAt
  replyText : job'.replyText = job.replyText

/-! ## One write -/

/-- The agent has an intent now; nothing else that recovery reads has changed. -/
structure StoresIntent (db : Db) (agentId : String) (db' : Db) : Prop where
  agents : db'.agents = db.agents
  specs : db'.agentSpawnSpecs = db.agentSpawnSpecs
  sessions : db'.sessions = db.sessions
  others : ∀ b, b ≠ agentId → db'.agentRecoveryIntents.get? b = db.agentRecoveryIntents.get? b
  own : (queryAgentRecoveryIntentSync db' agentId).isSome = true

/-- What a transaction can do: the changes of status, the states it moves an agent to, whether
it may put an agent back to IDLE without an event, and whether it captures an intent with a
crash. -/
structure Scope where
  edges : List (JobStatus × JobStatus) := []
  targets : List AgentState := []
  restores : Bool := false
  captures : Bool := false

/-- A write that is not the state of an agent. -/
inductive SideWrite (S : Scope) (d : Db) : Db → Prop
  | move {j : String} {job : Job} {row : JobTransition} (m : JobMove) (now : Int)
      (found : d.jobs.get? j = some job) (edge : (job.status, m.target) ∈ S.edges)
      (legal : job.status.edge m.target = true) (rowJob : row.jobId = j)
      (reports : row.Reports job.agentId (some job.status) (some m.target)) :
      SideWrite S d ((d.modifyJob j (m.apply now)).appendJobTransition row)
  | create {id : String} {job : Job} {row : JobTransition} (fresh : d.jobs.get? id = none)
      (new : job.IsNew) (rowJob : row.jobId = id)
      (reports : row.Reports job.agentId none (some .queued)) :
      SideWrite S d ({ d with jobs := d.jobs.insert id job }.appendJobTransition row)
  | ask {j : String} {job : Job} {row : JobTransition} (found : d.jobs.get? j = some job)
      (dispatched : job.status = .dispatched) (rowJob : row.jobId = j)
      (reports : row.Reports job.agentId (some .dispatched) (some .dispatched))
      (request : row.IsCancelRequest) :
      SideWrite S d ((d.modifyJob j Job.requestCancel).appendJobTransition row)
  | mark (j : String) {f : Job → Job} (marks : ∀ job : Job, job.Marked (f job)) :
      SideWrite S d (d.modifyJob j f)
  | note (a : String) {ty : String} (p : Json) (now : Int) (other : ty ≠ "state_change") :
      SideWrite S d (d.appendEvent a ty p now)
  | review (p : String → Evidence → Bool) {f : Evidence → Evidence}
      (agent : ∀ e, (f e).agentId = e.agentId) (seq : ∀ e, (f e).eventSeqId = e.eventSeqId) :
      SideWrite S d { d with evidence := d.evidence.updateWhere p f }
  /-- The event that evidence cites is there and is of the same agent. -/
  | cite (id : String) {e : Evidence} (own : d.ownsEvent e.agentId e.eventSeqId = true) :
      SideWrite S d (d.insertEvidence id e)
  | intent {a : String} {intents : Table String AgentRecoveryIntentRow} (captures : S.captures = true)
      (stores : StoresIntent d a { d with agentRecoveryIntents := intents }) :
      SideWrite S d { d with agentRecoveryIntents := intents }

def SideWrites (S : Scope) : Db → Db → Prop := Relation.ReflTransGen (SideWrite S)

/-! ## One agent -/

/-- The payload records a change between two states. -/
structure Records (payload : Json) (source target : AgentState) : Prop where
  source : payload.strField? "from" = some source.asDbStr
  target : payload.strField? "to" = some target.asDbStr

theorem records_stateChange (s t : AgentState) (reason : Option String) :
    Records (stateChange s t reason) s t := by
  constructor <;> rfl

/-- The update of a row by which the agent enters a state. -/
def Agent.EntersAt (f : Agent → Agent) (t : AgentState) (now : Int) : Prop :=
  ∀ agent, ∃ sub code exit, f agent =
    { agent.enter t now with subState := sub, errorCode := code, exitCode := exit }

/-- The writes of a transaction about the agent `a`. -/
inductive Turn (S : Scope) (a : String) (d : Db) : Db → Prop
  | side {d' : Db} (writes : SideWrites S d d') : Turn S a d d'
  | move {d₀ d₁ d' : Db} {agent : Agent} {f : Agent → Agent} {t : AgentState} {p : Json}
      {now : Int} (before : SideWrites S d d₀) (found : d₀.agents.get? a = some agent)
      (enters : Agent.EntersAt f t now) (reached : t ∈ S.targets)
      (captured : S.captures = true → t = .crashed →
        (queryAgentRecoveryIntentSync d₀ a).isSome = true)
      (during : SideWrites S (d₀.modifyAgent a f) d₁) (records : Records p agent.state t)
      (after : SideWrites S (d₁.appendEvent a "state_change" p now) d') : Turn S a d d'
  | restore {d₀ d' : Db} (states : List AgentState) (now : Int) (restores : S.restores = true)
      (before : SideWrites S d d₀)
      (after : SideWrites S (d₀.modifyAgent a (restoreIdle states now)) d') : Turn S a d d'

/-- Turns of several agents, in their order. -/
inductive Turns (S : Scope) : List String → Db → Db → Prop
  | nil (d : Db) : Turns S [] d d
  | cons {a : String} {rest : List String} {d d₁ d' : Db} (first : Turn S a d d₁)
      (later : Turns S rest d₁ d') : Turns S (a :: rest) d d'

/-! ## Rules -/

theorem SideWrites.lift {R : Db → Db → Prop} {d d' : Db} (refl : ∀ d, R d d)
    (trans : ∀ d d₁ d', R d d₁ → R d₁ d' → R d d') (write : ∀ d d', SideWrite S d d' → R d d')
    (h : SideWrites S d d') : R d d' := by
  induction h with
  | refl => exact refl d
  | tail _ last ih => exact trans _ _ _ ih (write _ _ last)

theorem SideWrites.agents (h : SideWrites S d d') : d'.agents = d.agents := by
  refine h.lift (R := fun d d' => d'.agents = d.agents) (fun _ => rfl)
    (fun _ _ _ first later => later.trans first) fun d d' write => ?_
  cases write <;> rfl

namespace Turn

variable {a : String} {d : Db}

theorem refl (d : Db) : Turn S a d d := .side .refl

theorem lift {R : Db → Db → Prop} (refl : ∀ d, R d d) (trans : ∀ d d₁ d', R d d₁ → R d₁ d' → R d d')
    (write : ∀ d d', SideWrite S d d' → R d d')
    (enter : ∀ d f t now, Agent.EntersAt f t now → t ∈ S.targets →
      (S.captures = true → t = .crashed → (queryAgentRecoveryIntentSync d a).isSome = true) →
      R d (d.modifyAgent a f)) (event : ∀ d p now, R d (d.appendEvent a "state_change" p now))
    (restore : ∀ d states now, R d (d.modifyAgent a (restoreIdle states now))) (h : Turn S a d d') :
    R d d' := by
  have writes : ∀ {d d'}, SideWrites S d d' → R d d' := fun h => h.lift refl trans write
  cases h with
  | side all => exact writes all
  | @move d₀ d₁ _ _ f t p now before found enters reached captured during records after =>
    have entered := trans _ _ _ (writes before) (enter d₀ f t now enters reached captured)
    have told := trans _ _ _ (writes during) (event d₁ p now)
    exact trans _ _ _ entered (trans _ _ _ told (writes after))
  | @restore d₀ _ states now restores before after =>
    exact trans _ _ _ (writes before) (trans _ _ _ (restore d₀ states now) (writes after))

theorem commit {α : Type} {r : Except CcbdError (α × Db)}
    (success : ∀ x d', r = .ok (x, d') → Turn S a d d') : Turn S a d (Ccbd.commit r d) :=
  commit_induction (refl d) success

theorem enter (found : d.agents.get? a = some agent) (enters : Agent.EntersAt f t now)
    (reached : t ∈ S.targets) (up : t ≠ .crashed) (during : SideWrites S (d.modifyAgent a f) d₁)
    (records : Records p agent.state t) : Turn S a d (d₁.appendEvent a "state_change" p now) :=
  .move .refl found enters reached (fun _ e => absurd e up) during records .refl

theorem after (h : Turn S a d d₁) (writes : SideWrites S d₁ d') : Turn S a d d' := by
  cases h with
  | side all => exact .side (all.trans writes)
  | move before found enters reached captured during records after =>
    exact .move before found enters reached captured during records (after.trans writes)
  | restore states now restores before after =>
    exact .restore states now restores before (after.trans writes)

end Turn

theorem Turns.lift {R : Db → Db → Prop} {ids : List String} {d d' : Db}
    (refl : ∀ d, R d d) (trans : ∀ d d₁ d', R d d₁ → R d₁ d' → R d d')
    (turn : ∀ a d d', Turn S a d d' → R d d') (h : Turns S ids d d') : R d d' := by
  induction h with
  | nil d => exact refl d
  | cons first _ ih => exact trans _ _ _ (turn _ _ _ first) ih

/-! ## Functions on jobs -/

section JobFunctions

variable {d : Db}

theorem recordJobTransition_reports
    (h : recordJobTransition d jobId old new kind fields reason now = .ok d') :
    ∃ job row, d.jobs.get? jobId = some job ∧ d' = d.appendJobTransition row ∧
      row.jobId = jobId ∧ row.Reports job.agentId old new ∧ row.kind = kind ∧ row.reason = reason ∧
      row.changedJson = fields := by
  unfold recordJobTransition at h
  split at h
  · cases h
  · rename_i job found
    cases h
    exact ⟨job, _, found, rfl, rfl, ⟨rfl, rfl, rfl⟩, rfl, rfl, rfl⟩

theorem transitJobState_reports {t : JobStatus}
    (h : transitJobState d jobId s t reason now = .ok d') :
    ∃ job row, d.jobs.get? jobId = some job ∧ job.status = s ∧ s.edge t = true ∧
      row.jobId = jobId ∧ row.Reports job.agentId (some s) (some t) ∧
      d' = (d.modifyJob jobId (·.enter t now)).appendJobTransition row := by
  unfold transitJobState at h
  split at h
  · cases h
  rename_i job found
  split_ifs at h with status late edge
  obtain ⟨job', row, found', rfl, hrow, reports, -⟩ := recordJobTransition_reports h
  have entered : job' = job.enter t now := by simpa [found] using found'.symm
  subst entered
  exact ⟨job, row, found, not_not.mp status, by simpa using edge, hrow, by simpa using reports, rfl⟩

theorem Db.modifyJob_modifyJob (d : Db) (jobId : String) (f g : Job → Job) :
    (d.modifyJob jobId f).modifyJob jobId g = d.modifyJob jobId (g ∘ f) :=
  congrArg (fun jobs => { d with jobs := jobs }) (Table.modify_modify ..)

theorem transitJobState_side (m : JobMove)
    (whole : ∀ job, m.apply now job = (m.column job).enter m.target now)
    (columns : ∀ job, (m.column job).status = job.status ∧ (m.column job).agentId = job.agentId)
    (edge : (s, m.target) ∈ S.edges)
    (h : transitJobState (d.modifyJob jobId m.column) jobId s m.target reason now = .ok d') :
    SideWrites S d d' := by
  obtain ⟨job', row, found', rfl, legal, hrow, reports, rfl⟩ := transitJobState_reports h
  rw [Db.modifyJob_jobs, Table.get?_modify_self] at found'
  obtain ⟨job, found, rfl⟩ := Option.map_eq_some_iff.mp found'
  have merged : (·.enter m.target now) ∘ m.column = m.apply now := funext fun job => (whole job).symm
  rw [Db.modifyJob_modifyJob, merged]
  rw [(columns job).1] at edge legal reports
  rw [(columns job).2] at reports
  exact .single (.move m now found edge legal hrow reports)

theorem transitJobState_cancelled_side (edge : (s, .cancelled) ∈ S.edges)
    (h : transitJobState d jobId s .cancelled reason now = .ok d') : SideWrites S d d' := by
  obtain ⟨job, row, found, rfl, legal, hrow, reports, rfl⟩ := transitJobState_reports h
  exact .single (.move .cancel now found edge legal hrow reports)

theorem requeueJobStateConnSync_side (edge : (s, .queued) ∈ S.edges)
    (h : requeueJobStateConnSync d jobId s e reason now = .ok d') : SideWrites S d d' := by
  unfold requeueJobStateConnSync at h
  split at h
  · cases h
  split_ifs at h
  exact transitJobState_side (.requeue e) (fun _ => rfl) (fun _ => ⟨rfl, rfl⟩) edge h

theorem settleDispatchedJob_side (cancelled : Bool)
    (edge : (.dispatched, .settled cancelled) ∈ S.edges)
    (h : settleDispatchedJob d jobId reply (.settled cancelled) reason now = .ok (n, d')) :
    SideWrites S d d' := by
  obtain ⟨-, rfl, -⟩ | ⟨-, job, -, -, moved⟩ := guarded_ok h
  · exact .refl
  · exact transitJobState_side (.settle reply cancelled) (fun _ => rfl) (fun _ => ⟨rfl, rfl⟩) edge
      moved

theorem transitJobState_failed_side {why : String} (edge : (s, .failed) ∈ S.edges)
    (h : transitJobState (d.modifyJob jobId (·.setErrorReason (some why))) jobId s .failed reason
      now = .ok d') : SideWrites S d d' :=
  transitJobState_side (.fail why) (fun _ => rfl) (fun _ => ⟨rfl, rfl⟩) edge h

theorem failDispatchedJobs_side (edge : (.dispatched, .failed) ∈ S.edges)
    (h : failDispatchedJobs reason now jobIds d = .ok (n, d')) : SideWrites S d d' := by
  induction jobIds generalizing d n with
  | nil =>
    cases h
    exact .refl
  | cons jobId rest ih =>
    obtain ⟨m₁, d₁, m₂, h₁, h₂⟩ := count_eq_ok h
    refine Relation.ReflTransGen.trans ?_ (ih h₂)
    obtain ⟨-, rfl, -⟩ | ⟨-, job, -, -, failed⟩ := guarded_ok h₁
    · exact .refl
    · exact transitJobState_failed_side edge failed

theorem markDispatchedJobsFailed_side (edge : (.dispatched, .failed) ∈ S.edges)
    (h : markDispatchedJobsFailedForAgentConnCollectSync d agentId reason now = .ok (r, d')) :
    SideWrites S d d' := by
  obtain ⟨⟨n, d₁⟩, h₁, h₂⟩ := bind_eq_ok.mp h
  cases h₂
  exact failDispatchedJobs_side edge h₁

theorem insertJobRow_side {id id' context : String} (new : job.IsNew)
    (h : insertJobRow d id job context reason fields now = .ok (id', d')) : SideWrites S d d' := by
  unfold insertJobRow at h
  split at h
  · cases h
    exact .refl
  split_ifs at h with taken
  obtain ⟨d₁, h₁, h₂⟩ := bind_eq_ok.mp h
  cases h₂
  have fresh : d.jobs.get? id = none := by simpa using taken
  obtain ⟨job', row, found, rfl, hrow, reports, -⟩ := recordJobTransition_reports h₁
  have same : job' = job := by simpa [Table.get?_insert fresh] using found.symm
  subst same
  exact .single (.create fresh new hrow reports)

theorem settleIfAny_side {s : Option Settlement} (completed : (.dispatched, .completed) ∈ S.edges)
    (cancelled : (.dispatched, .cancelled) ∈ S.edges) (h : settleIfAny d s now = .ok d') :
    SideWrites S d d' := by
  cases s with
  | none =>
    cases h
    exact .refl
  | some s =>
    obtain ⟨⟨n, d₁⟩, h₁, rfl⟩ := map_eq_ok.mp h
    unfold Settlement.apply at h₁
    split at h₁
    · exact settleDispatchedJob_side true cancelled h₁
    · exact settleDispatchedJob_side false completed h₁

theorem failStuckJob_side (edge : (.dispatched, .failed) ∈ S.edges)
    (h : failStuckJob d agentId reason now affected = .ok (resolution, d')) :
    SideWrites S d d' := by
  cases affected with
  | none =>
    cases h
    exact .refl
  | some jobId =>
    obtain ⟨d₁, h₁, h₂⟩ := bind_eq_ok.mp h
    cases h₂
    exact (transitJobState_failed_side edge h₁).tail (.note _ _ _ (by decide))

theorem settleUnknownJobs_side (failed : (.dispatched, .failed) ∈ S.edges)
    (cancelled : (.dispatched, .cancelled) ∈ S.edges)
    (h : settleUnknownJobs d agentId reason now = .ok d') : SideWrites S d d' := by
  unfold settleUnknownJobs at h
  split at h
  · cases h
    exact .refl
  split at h
  · obtain ⟨⟨n, d₁⟩, h₁, rfl⟩ := map_eq_ok.mp h
    exact settleDispatchedJob_side true cancelled h₁
  · obtain ⟨⟨r, d₁⟩, h₁, rfl⟩ := map_eq_ok.mp h
    exact markDispatchedJobsFailed_side failed h₁

theorem resolveAckJob_side (failed : (.dispatched, .failed) ∈ S.edges)
    (queued : (.dispatched, .queued) ∈ S.edges)
    (h : resolveAckJob d agentId jobId reason requeue now = .ok d') : SideWrites S d d' := by
  cases requeue with
  | true =>
    obtain ⟨d₁, h₁, h₂⟩ := bind_eq_ok.mp h
    cases h₂
    exact (requeueJobStateConnSync_side queued h₁).tail (.note _ _ _ (by decide))
  | false =>
    obtain ⟨d₁, h₁, h₂⟩ := bind_eq_ok.mp h
    cases h₂
    exact (transitJobState_failed_side failed h₁).tail (.note _ _ _ (by decide))

theorem requeueCapturedIntent_side (edge : (.failed, .queued) ∈ S.edges)
    (h : requeueCapturedIntent d now intent = .ok (n, d')) : SideWrites S d d' := by
  cases intent with
  | none =>
    cases h
    exact .refl
  | some intent =>
    obtain ⟨-, none⟩ | ⟨jobId, -, -, ⟨_, _, -, -, -, requeued, done⟩ | ⟨-, inserts⟩⟩ :=
      requeueInterruptedJobFromCapturedIntentSync_cases d intent now
    · cases none.symm.trans h
      exact .refl
    · cases done.symm.trans h
      exact requeueJobStateConnSync_side edge requeued
    · rw [requeueCapturedIntent, inserts, reinsertCapturedJob] at h
      split at h
      · cases h
        exact .refl
      obtain ⟨⟨id, d₁⟩, h₁, h₂⟩ := bind_eq_ok.mp h
      dsimp only at h₂
      split at h₂
      · cases h₂
      cases h₂
      exact insertJobRow_side ⟨rfl, rfl, rfl, rfl, rfl⟩ h₁

theorem markQueuedJobCancelledSync_side (edge : (.queued, .cancelled) ∈ S.edges)
    (h : markQueuedJobCancelledSync d jobId now = .ok (n, d')) : SideWrites S d d' := by
  obtain ⟨-, rfl, -⟩ | ⟨-, job, -, -, moved⟩ := guarded_ok h
  · exact .refl
  · exact transitJobState_cancelled_side edge moved

theorem requestDispatchedJobCancelSync_side
    (h : requestDispatchedJobCancelSync d jobId now = .ok (n, d')) : SideWrites S d d' := by
  obtain ⟨-, rfl, -⟩ | ⟨-, job, found, dispatched, recorded⟩ := guarded_ok h
  · exact .refl
  · obtain ⟨job', row, found', rfl, hrow, reports, kind, why, changed⟩ :=
      recordJobTransition_reports recorded
    have asked : job' = job.requestCancel := by simpa [found] using found'.symm
    subst asked
    exact .single (.ask found dispatched.1 hrow reports ⟨kind, why, changed⟩)

theorem markDispatchedJobCancelledIfAgentIdleSync_side (edge : (.dispatched, .cancelled) ∈ S.edges)
    (h : markDispatchedJobCancelledIfAgentIdleSync d jobId now = .ok (n, d')) :
    SideWrites S d d' := by
  obtain ⟨-, rfl, -⟩ | ⟨-, job, -, -, moved⟩ := guarded_ok h
  · exact .refl
  · exact transitJobState_cancelled_side edge moved

theorem forceCancelPendingDispatchedJobConnSync_side (edge : (.dispatched, .cancelled) ∈ S.edges)
    (h : forceCancelPendingDispatchedJobConnSync d jobId nowEpoch timeout now = .ok (r, d')) :
    SideWrites S d d' := by
  unfold forceCancelPendingDispatchedJobConnSync at h
  split at h
  · cases h
  split_ifs at h
  · cases h
    exact .refl
  split at h
  · cases h
    exact .refl
  split_ifs at h
  · obtain ⟨d₁, h₁, h₂⟩ := bind_eq_ok.mp h
    cases h₂
    exact transitJobState_cancelled_side edge h₁
  · cases h
    exact .refl

theorem markJobFailedConnSync_side (queued : (.queued, .failed) ∈ S.edges)
    (dispatched : (.dispatched, .failed) ∈ S.edges)
    (h : markJobFailedConnSync d jobId reason now = .ok (n, d')) : SideWrites S d d' := by
  obtain ⟨-, rfl, -⟩ | ⟨-, job, -, status, moved⟩ := guarded_ok h
  · exact .refl
  · refine transitJobState_failed_side ?_ moved
    rcases status with e | e <;> rwa [e]

/-! ## Evidence and intents -/

theorem Db.ownsEvent_iff :
    d.ownsEvent a seq = true ↔ ∃ e, (seq, e) ∈ d.events.rows ∧ e.agentId = a := by
  simp [Db.ownsEvent, Option.any_eq_true, AutoTable.lookup_eq_some]

theorem Db.ownsEvent_appendEvent (d : Db) (a ty : String) (p : Json) (now : Int) :
    (d.appendEvent a ty p now).ownsEvent a (d.events.last + 1) = true :=
  ownsEvent_iff.mpr ⟨_, AutoTable.mem_append_new _ _, rfl⟩

theorem updateEvidenceStatusSync_side (d : Db) (id status : String) (asserted : Option String) :
    SideWrites S d (updateEvidenceStatusSync d id status asserted) :=
  .single (.review (fun k _ => k = id) (fun _ => rfl) fun _ => rfl)

theorem discardEvidenceSync_side {id : String}
    (h : discardEvidenceSync d id = .ok (u, d')) : SideWrites S d d' := by
  unfold discardEvidenceSync at h
  split at h
  · cases h
  · cases h
    exact updateEvidenceStatusSync_side ..

/-- The event stays if the evidence is refused. -/
theorem insertEvidenceRecordSync_side (d : Db) (e a : String) (job : Option String) (ty : String)
    (payload : Json) (now : Int) :
    SideWrites S d (insertEvidenceRecordSync d e a job ty payload now).2 := by
  have noted : SideWrites S d (d.appendEvent a "evidence_recorded" payload now) :=
    .single (.note _ _ _ (by decide))
  unfold insertEvidenceRecordSync
  split
  · exact .refl
  dsimp only
  split_ifs
  · exact noted
  · exact noted
  · exact noted.tail (.cite e (d.ownsEvent_appendEvent ..))

theorem persistAgentRecoveryIntentSync_stores
    (h : persistAgentRecoveryIntentSync d intent now = .ok d') :
    StoresIntent d intent.agentId d' := by
  unfold persistAgentRecoveryIntentSync at h
  split_ifs at h
  cases h
  refine ⟨rfl, rfl, rfl, fun b other => (Table.get?_upsert ..).trans (if_neg other), ?_⟩
  simp [queryAgentRecoveryIntentSync, Table.get?_upsert, AgentRecoveryIntent.toRow]

theorem captureRecoveryIntentForCrash_stores (found : (d.agents.get? agentId).isSome = true)
    (h : captureRecoveryIntentForCrash d agentId previous reason now = .ok d') :
    ∃ intents, d' = { d with agentRecoveryIntents := intents } ∧ StoresIntent d agentId d' := by
  obtain ⟨intents, rfl⟩ := captureRecoveryIntentForCrash_ok h
  refine ⟨intents, rfl, ?_⟩
  unfold captureRecoveryIntentForCrash at h
  split at h
  · rename_i absent
    rw [absent] at found
    cases found
  · exact persistAgentRecoveryIntentSync_stores h

end JobFunctions

/-! ## Functions that move an agent -/

section Functions

variable {d : Db}

theorem transitAgentStateConnInner_turn (reached : t ∈ S.targets) (up : t ≠ .crashed)
    (h : transitAgentStateConnInner d agentId sources t why version strict now = .ok (r, d')) :
    Turn S agentId d d' := by
  unfold transitAgentStateConnInner at h
  split at h
  · split_ifs at h
    cases h
    exact .refl d
  · rename_i agent found
    simp only at h
    split_ifs at h
    · cases h
      exact .refl d
    · cases h
      exact .enter found (fun _ => ⟨_, _, _, rfl⟩) reached up .refl (records_stateChange ..)

theorem transitAgentStateSync_turn (reached : t ∈ S.targets) (up : t ≠ .crashed)
    (h : transitAgentStateSync d agentId sources t why now = .ok (u, d')) :
    Turn S agentId d d' := by
  obtain ⟨r, h₁, h₂⟩ := map_eq_ok.mp h
  cases h₂
  exact transitAgentStateConnInner_turn reached up h₁

theorem markAgentPromptPendingSync_turn (reached : .promptPending ∈ S.targets)
    (h : markAgentPromptPendingSync d agentId reason now = .ok (n, d')) : Turn S agentId d d' := by
  unfold markAgentPromptPendingSync at h
  split at h
  · cases h
  · rename_i agent found
    split_ifs at h
    cases h
    exact .enter found (fun _ => ⟨_, _, _, rfl⟩) reached (by decide) .refl (records_stateChange ..)

theorem markPromptPendingAndEmitUnknownSync_turn (reached : .promptPending ∈ S.targets)
    (h : markPromptPendingAndEmitUnknownSync d agentId reason payload now = .ok (n, d')) :
    Turn S agentId d d' := by
  obtain ⟨r, h₁, h₂⟩ := map_eq_ok.mp h
  cases h₂
  exact (markAgentPromptPendingSync_turn reached h₁).after (.single (.note _ _ _ (by decide)))

theorem resolvePromptStateSync_turn {s : AgentState} (idle : .idle ∈ S.targets)
    (busy : .busy ∈ S.targets) (h : resolvePromptStateSync d agentId now = .ok (s, d')) :
    Turn S agentId d d' := by
  unfold resolvePromptStateSync at h
  split at h
  · cases h
  split at h
  · cases h
  obtain ⟨⟨u, d₁⟩, h₁, h₂⟩ := map_eq_ok.mp h
  cases h₂
  refine transitAgentStateSync_turn ?_ ?_ h₁
  · split_ifs
    · exact busy
    · exact idle
  · split_ifs <;> decide

theorem markPromptPendingIdleUnparkedSync_turn (reached : .idle ∈ S.targets)
    (h : markPromptPendingIdleUnparkedSync d agentId version now = .ok (r, d')) :
    Turn S agentId d d' := by
  unfold markPromptPendingIdleUnparkedSync at h
  split at h
  · cases h
  rename_i agent found
  split at h
  · cases h
    exact .refl d
  rename_i parked
  have state : agent.state = .promptPending := not_not.mp (not_or.mp parked).1
  cases h
  refine .enter found (fun _ => ⟨_, _, _, rfl⟩) reached (by decide) .refl ?_
  exact ⟨by rw [state]; rfl, rfl⟩

theorem transitAgentStateConnSync_tells (found : d.agents.get? agentId = some agent)
    (h : transitAgentStateConnSync d agentId sources t why now = .ok d') :
    d' = (d.modifyAgent agentId (·.enter t now)).appendEvent agentId "state_change"
      (stateChange agent.state t why) now := by
  obtain ⟨⟨r, d₁⟩, transits, rfl⟩ := map_eq_ok.mp h
  simp only [transitAgentStateConnInner, found] at transits
  split_ifs at transits
  cases transits
  rfl

theorem Db.modifyJob_after_turn (d : Db) (jobId ty : String) (f g : Job → Job)
    (enter : Agent → Agent)
    (row : JobTransition) (p p' : Json) :
    (((((d.modifyJob jobId f).appendJobTransition row).modifyAgent agentId enter).appendEvent agentId
      "state_change" p now).appendEvent agentId ty p' now).modifyJob jobId g =
    ((((d.modifyJob jobId (g ∘ f)).appendJobTransition row).modifyAgent agentId enter).appendEvent
      agentId "state_change" p now).appendEvent agentId ty p' now := by
  rw [← Db.modifyJob_modifyJob]
  rfl

/-- The row and the sequence id of the job are written around the turn of the agent. -/
theorem dispatchQueuedJob_turn (reached : .waitingForAck ∈ S.targets)
    (edge : (.queued, .dispatched) ∈ S.edges) (h : dispatchQueuedJob d agentId now = .ok (r, d')) :
    Turn S agentId d d' := by
  unfold dispatchQueuedJob dispatchJobToAgentSync at h
  split at h
  · cases h
  rename_i agent found
  split_ifs at h
  split at h
  · cases h
    exact .refl d
  obtain ⟨d₁, gate, h⟩ := bind_eq_ok.mp h
  obtain ⟨d₂, waits, h⟩ := bind_eq_ok.mp h
  cases h
  obtain ⟨job, row, found', queued, legal, hrow, reports, rfl⟩ := transitJobState_reports gate
  rw [← queued] at edge legal reports
  have told := transitAgentStateConnSync_tells (by exact found) waits
  subst told
  rw [Db.modifyJob_after_turn]
  exact .move (.single (.move (.dispatch _) now found' edge legal hrow reports)) found
    (fun _ => ⟨_, _, _, rfl⟩) reached (fun _ e => by cases e) .refl (records_stateChange ..)
    (.single (.note agentId _ now (by decide)))

theorem handleCompletionDeferralSync_turn
    (reached : .busy ∈ S.targets) (found : d.agents.get? agentId = some agent) (version : Int) :
    Turn S agentId d
      (handleCompletionDeferralSync env d agentId jobId reply agent.state version now).2 := by
  have noted : SideWrites S d (insertCompletionDeferredEvent d agentId jobId
      "ANTIGRAVITY_DEFERRED_BACKGROUND_WORK" (env.contentHash reply) now) :=
    .single (.note _ _ _ (by decide))
  unfold handleCompletionDeferralSync
  dsimp only
  split_ifs
  · exact .move noted found (fun _ => ⟨_, _, _, rfl⟩) reached (fun _ e => by cases e) .refl
      ⟨rfl, rfl⟩ .refl
  · exact .side noted

theorem markIdleAndSettle_turn {s : Option Settlement} (reached : .idle ∈ S.targets)
    (completed : (.dispatched, .completed) ∈ S.edges)
    (cancelled : (.dispatched, .cancelled) ∈ S.edges) (found : d.agents.get? agentId = some agent)
    (records : Records payload agent.state .idle)
    (h : markIdleAndSettle d agentId states version subState s payload now = .ok (n, d')) :
    Turn S agentId d d' := by
  unfold markIdleAndSettle at h
  split_ifs at h
  · obtain ⟨d₁, h₁, h₂⟩ := bind_eq_ok.mp h
    cases h₂
    exact .enter found (fun _ => ⟨_, _, _, rfl⟩) reached (by decide)
      (settleIfAny_side completed cancelled h₁) records
  · cases h
    exact .refl d

theorem completion_turn {checks : Agent → String → Job → Prop} (idle : .idle ∈ S.targets)
    (busy : .busy ∈ S.targets)
    (completed : (.dispatched, .completed) ∈ S.edges)
    (cancelled : (.dispatched, .cancelled) ∈ S.edges)
    (records : ∀ s src, Records (payload s src) s .idle)
    (h : CompletionCase env d agentId states version subState payload checks reply now d') :
    Turn S agentId d d' := by
  cases h with
  | untouched => exact .refl d
  | denied => exact .side (.single (.note _ _ _ (by decide)))
  | deferred found => exact handleCompletionDeferralSync_turn busy found _
  | vacated found free source finish | settled found dispatched checked source finish =>
    exact markIdleAndSettle_turn idle completed cancelled found (records _ _) finish

theorem markAgentStuckOutcomeSync_turn (reached : .stuck ∈ S.targets)
    (edge : (.dispatched, .failed) ∈ S.edges)
    (h : markAgentStuckOutcomeSync d agentId reason now = .ok (r, d')) : Turn S agentId d d' := by
  unfold markAgentStuckOutcomeSync at h
  split at h
  · cases h
    exact .refl d
  rename_i agent found
  split at h
  · cases h
    exact .refl d
  obtain ⟨⟨resolution, d₁⟩, h₁, h₂⟩ := bind_eq_ok.mp h
  cases h₂
  exact .enter found (fun _ => ⟨_, _, _, rfl⟩) reached (by decide) (failStuckJob_side edge h₁)
    ⟨rfl, rfl⟩

/-- The pending evidence is sealed, and the new one cites the event of the change. -/
theorem markAgentUnknownSync_turn (reached : .unknown ∈ S.targets)
    (failed : (.dispatched, .failed) ∈ S.edges) (cancelled : (.dispatched, .cancelled) ∈ S.edges)
    (h : markAgentUnknownSync d agentId reason evidenceId now = .ok (n, d')) :
    Turn S agentId d d' := by
  obtain ⟨-, rfl, -⟩ | ⟨agent, found, -, h⟩ := unless_ok h
  · exact .refl d'
  split at h
  · cases h
  obtain ⟨d₁, h₁, h₂⟩ := bind_eq_ok.mp h
  cases h₂
  have seals : SideWrites S (d.modifyAgent agentId (·.enterError .unknown reason now))
      ((d.modifyAgent agentId (·.enterError .unknown reason now)).sealPendingEvidence agentId) :=
    .single (.review (fun _ e => e.agentId = agentId && e.status = "PENDING")
      (fun _ => rfl) fun _ => rfl)
  have entered := Turn.enter found (fun _ => ⟨_, _, _, rfl⟩) reached (by decide) seals
    (records_stateChange agent.state .unknown (some reason))
  exact (entered.after (.single (.cite evidenceId (Db.ownsEvent_appendEvent ..)))).after
    (settleUnknownJobs_side failed cancelled h₁)

theorem markAgentFailedFromInterventionSync_turn (reached : .failed ∈ S.targets)
    (h : markAgentFailedFromInterventionSync d agentId reason now = .ok (n, d')) :
    Turn S agentId d d' := by
  obtain ⟨-, rfl, -⟩ | ⟨agent, found, -, h⟩ := unless_ok h
  · exact .refl d'
  cases h
  exact .enter found (fun _ => ⟨_, _, _, rfl⟩) reached (by decide) .refl (records_stateChange ..)

theorem assertStateToIdleSync_turn (reached : .idle ∈ S.targets)
    (h : assertStateToIdleSync d agentId evidenceId now = .ok (n, d')) : Turn S agentId d d' := by
  unfold assertStateToIdleSync at h
  split at h
  · cases h
  split at h
  · cases h
  split at h
  · cases h
  rename_i agent found
  split at h
  · cases h
  cases h
  exact .enter found (fun _ => ⟨_, _, _, rfl⟩) reached (by decide)
    (updateEvidenceStatusSync_side _ evidenceId "REVIEWED" (some "IDLE")) ⟨rfl, rfl⟩

theorem ackMarkBusyOrResolveOnce_turn (reached : .busy ∈ S.targets)
    (h : ackMarkBusyOrResolveOnce d agentId reason now = .ok (r, d')) : Turn S agentId d d' := by
  unfold ackMarkBusyOrResolveOnce at h
  split at h
  · cases h
    exact .refl d
  rename_i agent found
  split at h
  · rename_i waiting
    cases h
    refine .enter found (fun _ => ⟨_, _, _, rfl⟩) reached (by decide) .refl ?_
    rw [waiting]
    exact records_stateChange ..
  all_goals
    cases h
    exact .refl d

theorem fallbackAckToStuck_turn (stuck : .stuck ∈ S.targets) (idle : .idle ∈ S.targets)
    (failed : (.dispatched, .failed) ∈ S.edges) (queued : (.dispatched, .queued) ∈ S.edges)
    (h : fallbackAckToStuck d agentId reason now = .ok (n, d')) : Turn S agentId d d' := by
  obtain ⟨-, rfl, -⟩ | ⟨agent, found, -, h⟩ := unless_ok h
  · exact .refl d'
  split at h
  · cases h
    exact .enter found (fun _ => ⟨_, _, _, rfl⟩) stuck (by decide) .refl ⟨rfl, rfl⟩
  · obtain ⟨d₁, h₁, h₂⟩ := bind_eq_ok.mp h
    cases h₂
    refine .enter (t := if safePreSend reason then .idle else .stuck) found
      (fun _ => ⟨_, _, _, rfl⟩) ?_ ?_ (resolveAckJob_side failed queued h₁) ⟨rfl, rfl⟩
    · split_ifs
      · exact idle
      · exact stuck
    · split_ifs <;> decide

theorem killAgent_turn (reached : .killed ∈ S.targets) (edge : (.dispatched, .failed) ∈ S.edges)
    (before : SideWrites S d d₀) (found : d₀.agents.get? agentId = some agent)
    (h : killAgent d₀ agentId reason agent.state now = .ok (n, d')) : Turn S agentId d d' := by
  obtain ⟨⟨r, d₁⟩, h₁, h₂⟩ := bind_eq_ok.mp h
  cases h₂
  exact .move before found (fun _ => ⟨_, _, _, rfl⟩) reached (fun _ e => by cases e)
    (markDispatchedJobsFailed_side edge h₁) (records_stateChange ..) .refl

theorem markAgentKilledSyncInner_turn (reached : .killed ∈ S.targets)
    (edge : (.dispatched, .failed) ∈ S.edges) (captures : S.captures = true)
    (h : markAgentKilledSyncInner d agentId reason capture now = .ok (n, d')) :
    Turn S agentId d d' := by
  obtain ⟨-, rfl, -⟩ | ⟨agent, found, -, h⟩ := unless_ok h
  · exact .refl d'
  split at h
  · obtain ⟨d₁, h₁, h₂⟩ := bind_eq_ok.mp h
    obtain ⟨intents, rfl, stores⟩ :=
      captureRecoveryIntentForCrash_stores (Option.isSome_of_eq_some found) h₁
    exact killAgent_turn reached edge (.single (.intent captures stores)) found h₂
  · exact killAgent_turn reached edge .refl found h

/-- The intent is captured from the row as it is after the crash; the order of the two writes
makes no difference. -/
theorem markAgentCrashedSync_turn (reached : .crashed ∈ S.targets)
    (edge : (.dispatched, .failed) ∈ S.edges) (captures : S.captures = true)
    (h : markAgentCrashedSync d agentId exit code now = .ok (n, d')) : Turn S agentId d d' := by
  obtain ⟨-, rfl, -⟩ | ⟨agent, found, -, h⟩ := unless_ok h
  · exact .refl d'
  obtain ⟨d₁, h₁, h⟩ := bind_eq_ok.mp h
  obtain ⟨⟨r, d₂⟩, h₂, h⟩ := bind_eq_ok.mp h
  cases h
  have row : ((d.modifyAgent agentId (·.enterCrashed exit code now)).agents.get?
      agentId).isSome = true := by simp [found]
  obtain ⟨intents, rfl, stores⟩ := captureRecoveryIntentForCrash_stores row h₁
  have stored : StoresIntent d agentId { d with agentRecoveryIntents := intents } :=
    ⟨rfl, rfl, rfl, stores.others, stores.own⟩
  exact .move (f := (·.enterCrashed exit code now)) (.single (.intent captures stored)) found
    (fun _ => ⟨_, _, _, rfl⟩) reached (fun _ _ => stores.own)
    (markDispatchedJobsFailed_side edge h₂) ⟨rfl, rfl⟩ .refl

theorem requeue_turn {requeues : Prop} [Decidable requeues] (restores : S.restores = true)
    (edge : (.dispatched, .queued) ∈ S.edges)
    (h : (if requeues then do
        let d₁ ← requeueJobStateConnSync d jobId .dispatched e reason now
        return (1, (d₁.modifyAgent agentId (restoreIdle states now)).appendEvent agentId
          "dispatch_requeued" p now)
      else .ok (0, d)) = (.ok (n, d') : Except CcbdError (Nat × Db))) : Turn S agentId d d' := by
  split_ifs at h
  · obtain ⟨d₁, h₁, h₂⟩ := bind_eq_ok.mp h
    cases h₂
    exact .restore states now restores (requeueJobStateConnSync_side edge h₁)
      (.single (.note _ _ _ (by decide)))
  · cases h
    exact .refl d

end Functions

/-! ## Whole sessions -/

section Loops

variable {d : Db}

/-- The scope of the cleanup of a session. -/
def Scope.kills : Scope := { edges := [(.dispatched, .failed)], targets := [.killed] }

/-- The scope of the startup, which captures no intents. -/
def Scope.crashes : Scope := { edges := [(.dispatched, .failed)], targets := [.crashed] }

theorem killTerminalAgents_turns
    (h : killTerminalAgents sessionId reason now ids d = .ok (n, d')) : Turns .kills ids d d' := by
  induction ids generalizing d n with
  | nil =>
    cases h
    exact .nil _
  | cons a rest ih =>
    obtain ⟨m₁, d₁, m₂, first, later⟩ := count_eq_ok h
    refine .cons ?_ (ih later)
    unfold killTerminalAgent at first
    split at first
    · cases first
    rename_i agent found
    split_ifs at first
    · exact killAgent_turn (by simp [Scope.kills]) (by simp [Scope.kills]) .refl found first
    · cases first
      exact .refl d

theorem crashDeadAgent_turn (tells : d.stateOf crash.agentId = some crash.state)
    (h : crashDeadAgent d crash now = .ok (n, d')) : Turn .crashes crash.agentId d d' := by
  obtain ⟨agent, found, state⟩ := Option.map_eq_some_iff.mp tells
  unfold crashDeadAgent at h
  split_ifs at h
  · obtain ⟨⟨r, d₁⟩, failed, h⟩ := bind_eq_ok.mp h
    cases h
    refine .move .refl found (fun _ => ⟨_, _, _, rfl⟩) (by simp [Scope.crashes])
      (fun captures => by cases captures) .refl ?_
      (markDispatchedJobsFailed_side (by simp [Scope.crashes]) failed)
    rw [state]
    exact records_stateChange ..
  · cases h
    exact .refl d

theorem Turn.stateOf_of_ne (h : Turn S a d d') (other : b ≠ a) : d'.stateOf b = d.stateOf b := by
  refine h.lift (R := fun d d' => d'.stateOf b = d.stateOf b) (fun _ => rfl)
    (fun _ _ _ first later => later.trans first) (fun d d' write => ?_)
    (fun d f t now _ _ _ => congrArg _ (Table.get?_modify_of_ne _ _ other)) (fun _ _ _ => rfl)
    fun d states now => congrArg _ (Table.get?_modify_of_ne _ _ other)
  have same : d'.agents = d.agents := SideWrites.agents (.single write)
  rw [Db.stateOf, Db.stateOf, same]

theorem startupReconcilePhaseCCrashDead_turns (nodup : (crashes.map (·.agentId)).Nodup)
    (tells : ∀ c ∈ crashes, d.stateOf c.agentId = some c.state)
    (h : startupReconcilePhaseCCrashDead now crashes d = .ok (n, d')) :
    Turns .crashes (crashes.map (·.agentId)) d d' := by
  induction crashes generalizing d n with
  | nil =>
    cases h
    exact .nil _
  | cons crash rest ih =>
    obtain ⟨m₁, d₁, m₂, first, later⟩ := count_eq_ok h
    obtain ⟨visited, nodup⟩ := List.nodup_cons.mp nodup
    have turn := crashDeadAgent_turn (tells crash List.mem_cons_self) first
    refine .cons turn (ih nodup (fun c hc => ?_) later)
    -- the rows of the agents still to come are as they were read
    have other : c.agentId ≠ crash.agentId := fun e => visited (List.mem_map.mpr ⟨c, hc, e⟩)
    rw [turn.stateOf_of_ne other]
    exact tells c (List.mem_cons_of_mem _ hc)

theorem startupReconcilePhaseBDead_reads (db : Db) (probe : StartupProbe) :
    let dead := startupReconcilePhaseBDead probe (startupReconcilePhaseASelectCandidates db)
    (dead.map (·.agentId)).Nodup ∧ ∀ c ∈ dead, db.stateOf c.agentId = some c.state := by
  intro dead
  have keys : ((startupReconcilePhaseASelectCandidates db).map Prod.fst).Nodup :=
    db.agents.nodup.sublist (List.filter_sublist.map _)
  have row : ∀ r ∈ startupReconcilePhaseASelectCandidates db, db.agents.get? r.1 = some r.2 :=
    fun r hr => (Table.mem_select.mp hr).1
  refine ⟨?_, ?_⟩
  · simp only [dead, startupReconcilePhaseBDead, List.map_append, List.map_map, Function.comp_def]
    refine List.nodup_append.mpr ⟨keys.sublist (List.filter_sublist.map _),
      keys.sublist (List.filter_sublist.map _), ?_⟩
    rintro a ha _ hb rfl
    obtain ⟨r, hr, rfl⟩ := List.mem_map.mp ha
    obtain ⟨r', hr', same⟩ := List.mem_map.mp hb
    obtain ⟨hr, gone⟩ := List.mem_filter.mp hr
    obtain ⟨hr', alive⟩ := List.mem_filter.mp hr'
    have rows : r'.2 = r.2 := by
      have := row r' hr'
      rw [same, row r hr] at this
      exact (Option.some.inj this).symm
    simp [rows] at gone alive
    simp [gone] at alive
  · intro c hc
    simp only [dead, startupReconcilePhaseBDead, List.mem_append, List.mem_map] at hc
    rcases hc with ⟨r, hr, rfl⟩ | ⟨r, hr, rfl⟩
    all_goals simp [Db.stateOf, row r (List.mem_of_mem_filter hr)]

theorem reconcileActiveAgentsToCrashedSync_turns
    (h : reconcileActiveAgentsToCrashedSync d probe now = .ok (n, d')) :
    Turns .crashes ((startupReconcilePhaseBDead probe
      (startupReconcilePhaseASelectCandidates d)).map (·.agentId)) d d' := by
  obtain ⟨nodup, tells⟩ := startupReconcilePhaseBDead_reads d probe
  exact startupReconcilePhaseCCrashDead_turns nodup tells h

theorem shutdown_tables (d : Db) (now : Int) :
    ∃ sessions agents, (DaemonOp.shutdown now).apply d =
      { d with sessions := sessions, agents := agents } := by
  have killed : ∀ (ids : List String) (d : Db),
      ∃ agents, ids.foldl (killSessionRows · · now) d = { d with agents := agents } := by
    intro ids
    induction ids with
    | nil => exact fun d => ⟨d.agents, rfl⟩
    | cons s rest ih => exact fun d => ih (killSessionRows d s now)
  obtain ⟨agents, same⟩ := killed _ _
  exact ⟨_, agents, same⟩

end Loops

/-! ## The operations -/

/-- The changes of status an operation can make. -/
def DbOp.edges : DbOp → List (JobStatus × JobStatus)
  | dispatchQueuedJob .. => [(.queued, .dispatched)]
  | markerMatched .. | hookEvent .. | logEvent .. =>
    [(.dispatched, .completed), (.dispatched, .cancelled)]
  | ackFallbackStuck .. => [(.dispatched, .failed), (.dispatched, .queued)]
  | ackFallbackCrashed .. | markStuck .. | markCrashed .. | markKilled .. =>
    [(.dispatched, .failed)]
  | markUnknown .. => [(.dispatched, .failed), (.dispatched, .cancelled)]
  | cancelQueued .. => [(.queued, .cancelled)]
  | cancelIfAgentIdle .. | forceCancel .. => [(.dispatched, .cancelled)]
  | markJobFailed .. => [(.queued, .failed), (.dispatched, .failed)]
  | requeueIoFailure .. | requeueBeforeSend .. => [(.dispatched, .queued)]
  | requeueInterrupted .. => [(.failed, .queued)]
  | _ => []

/-- The states an operation can move an agent to. -/
def DbOp.targets : DbOp → List AgentState
  | dispatchQueuedJob .. | markWaitingForAck .. => [.waitingForAck]
  | markerMatched .. | hookEvent .. | logEvent .. => [.idle, .busy]
  | ackMarkBusy .. | stabilityBusy .. => [.busy]
  | ackFallbackStuck .. => [.stuck, .idle]
  | ackFallbackCrashed .. | markCrashed .. => [.crashed]
  | assertIdle .. | requeueIoFailure .. | requeueBeforeSend .. => [.idle]
  | markStuck .. | dispatchIoFailed .. => [.stuck]
  | markUnknown .. => [.unknown]
  | markPromptPending .. => [.promptPending]
  | markFailedFromIntervention .. => [.failed]
  | markKilled .. => [.killed]
  | _ => []

def DbOp.scope (op : DbOp) : Scope where
  edges := op.edges
  targets := op.targets
  restores := match op with
    | requeueIoFailure .. | requeueBeforeSend .. => true
    | _ => false
  captures := true

theorem DbOp.turn (op : DbOp) (d : Db) : ∃ a, Turn op.scope a d (op.apply d) := by
  have job {S : Scope} {α : Type} {r : Except CcbdError (α × Db)}
      (h : ∀ x d', r = .ok (x, d') → SideWrites S d d') : ∃ a, Turn S a d (commit r d) :=
    ⟨"", .commit fun x d' ok => .side (h x d' ok)⟩
  have own {S : Scope} {α : Type} {r : Except CcbdError (α × Db)} (a : String)
      (h : ∀ x d', r = .ok (x, d') → Turn S a d d') : ∃ a, Turn S a d (commit r d) :=
    ⟨a, .commit h⟩
  cases op with
  | insertJob => exact job fun _ _ => insertJobRow_side ⟨rfl, rfl, rfl, rfl, rfl⟩
  | dispatchQueuedJob a =>
    exact own a fun _ _ => dispatchQueuedJob_turn (.head _) (.head _)
  | markerMatched env a =>
    exact own a fun _ _ h => completion_turn (.head _) (.tail _ (.head _)) (.head _)
      (.tail _ (.head _)) (fun _ _ => ⟨rfl, rfl⟩) (markAgentIdleMatchedOutcomeSyncInner_cases h)
  | hookEvent env a =>
    refine own a fun _ _ h => ?_
    rw [markAgentIdleHookEventOutcomeSync_eq] at h
    exact completion_turn (.head _) (.tail _ (.head _)) (.head _) (.tail _ (.head _))
      (fun _ _ => ⟨rfl, rfl⟩) (markAgentIdleEventOutcome_cases h)
  | logEvent env a =>
    refine own a fun _ _ h => ?_
    rw [markAgentIdleLogEventOutcomeSync_eq] at h
    exact completion_turn (.head _) (.tail _ (.head _)) (.head _) (.tail _ (.head _))
      (fun _ _ => ⟨rfl, rfl⟩) (markAgentIdleEventOutcome_cases h)
  | ackMarkBusy a => exact own a fun _ _ => ackMarkBusyOrResolveOnce_turn (.head _)
  | ackFallbackStuck a =>
    exact own a fun _ _ => fallbackAckToStuck_turn (.head _) (.tail _ (.head _)) (.head _)
      (.tail _ (.head _))
  | ackFallbackCrashed a =>
    refine own a fun _ _ h => ?_
    unfold fallbackAckToCrashed at h
    split at h
    · exact markAgentCrashedSync_turn (.head _) (.head _) rfl h
    · cases h
      exact .refl d
  | assertIdle a => exact own a fun _ _ => assertStateToIdleSync_turn (.head _)
  | markStuck a => exact own a fun _ _ => markAgentStuckOutcomeSync_turn (.head _) (.head _)
  | markUnknown a =>
    exact own a fun _ _ => markAgentUnknownSync_turn (.head _) (.head _) (.tail _ (.head _))
  | markPromptPending a => exact own a fun _ _ => markAgentPromptPendingSync_turn (.head _)
  | markWaitingForAck a =>
    exact own a fun _ _ => transitAgentStateConnInner_turn (.head _) (by decide)
  | markFailedFromIntervention a =>
    exact own a fun _ _ => markAgentFailedFromInterventionSync_turn (.head _)
  | dispatchIoFailed a | stabilityBusy a =>
    exact own a fun _ _ => transitAgentStateSync_turn (.head _) (by decide)
  | cancelQueued => exact job fun _ _ => markQueuedJobCancelledSync_side (.head _)
  | requestCancel => exact job fun _ _ => requestDispatchedJobCancelSync_side
  | cancelIfAgentIdle => exact job fun _ _ => markDispatchedJobCancelledIfAgentIdleSync_side (.head _)
  | forceCancel => exact job fun _ _ => forceCancelPendingDispatchedJobConnSync_side (.head _)
  | markJobFailed => exact job fun _ _ => markJobFailedConnSync_side (.head _) (.tail _ (.head _))
  | requeueIoFailure j a | requeueBeforeSend j a =>
    refine own a fun _ _ h => ?_
    simp only [requeueRecoveredDispatchIoFailureSync, requeueDispatchedJobBeforeSendSync] at h
    split at h
    · cases h
      exact .refl d
    · exact requeue_turn rfl (.head _) h
  | requeueInterrupted intent now =>
    refine job fun _ _ h => ?_
    rw [← requeueCapturedIntent] at h
    exact requeueCapturedIntent_side (.head _) h
  | clearRecoveredMarker j =>
    refine ⟨"", .side (.single (.mark j fun job => ?_))⟩
    split_ifs
    · exact ⟨rfl, rfl, rfl, rfl, rfl, rfl⟩
    · exact ⟨rfl, rfl, rfl, rfl, rfl, rfl⟩
  | setEvidenceRequirements j =>
    exact ⟨"", .side (.single (.mark j fun _ => ⟨rfl, rfl, rfl, rfl, rfl, rfl⟩))⟩
  | markCrashed a => exact own a fun _ _ => markAgentCrashedSync_turn (.head _) (.head _) rfl
  | markKilled a =>
    exact own a fun _ _ => markAgentKilledSyncInner_turn (.head _) (.head _) rfl

/-- The operations that are the turn of one agent. -/
def DaemonOp.scope? : DaemonOp → Option Scope
  | db op => some op.scope
  | seedProbe .. | learnedReadiness .. | unparkPrompt .. => some { targets := [.idle] }
  | spawningIntervention .. => some { targets := [.spawningIntervention] }
  | resolvePrompt .. => some { targets := [.idle, .busy] }
  | promptPendingEmitUnknown .. => some { targets := [.promptPending] }
  | recordEvidence .. | discardEvidence .. => some {}
  | _ => none

theorem DaemonOp.turn {op : DaemonOp} (h : op.scope? = some S) (d : Db) :
    ∃ a, Turn S a d (op.apply d) := by
  cases op with
  | db op =>
    cases h
    exact op.turn d
  | seedProbe a | learnedReadiness a | spawningIntervention a =>
    cases h
    exact ⟨a, .commit fun _ _ => transitAgentStateSync_turn (.head _) (by decide)⟩
  | resolvePrompt a =>
    cases h
    exact ⟨a, .commit fun _ _ => resolvePromptStateSync_turn (.head _) (.tail _ (.head _))⟩
  | unparkPrompt a =>
    cases h
    exact ⟨a, .commit fun _ _ => markPromptPendingIdleUnparkedSync_turn (.head _)⟩
  | promptPendingEmitUnknown a =>
    cases h
    exact ⟨a, .commit fun _ _ => markPromptPendingAndEmitUnknownSync_turn (.head _)⟩
  | recordEvidence e a =>
    exact ⟨a, .side (insertEvidenceRecordSync_side ..)⟩
  | discardEvidence =>
    exact ⟨"", .commit fun _ _ ok => .side (discardEvidenceSync_side ok)⟩
  | _ => cases h

namespace DaemonOp

/-- The changes of status an operation can make. -/
def edges : DaemonOp → List (JobStatus × JobStatus)
  | db op => op.edges
  | cleanTerminalSession .. | reconcileStartup .. => [(.dispatched, .failed)]
  | replaceKilledAgent .. => [(.failed, .queued)]
  | _ => []

/-- The operation may delete the jobs of the agent and insert one of them again. -/
def Replaces : DaemonOp → String → Prop
  | replaceKilledAgent _ spec _ _ _ _, a => a = spec.agentId
  | _, _ => False

/-- The operation may delete an agent, and with it the agent's jobs. -/
def DeletesAgents : DaemonOp → Prop
  | insertAgent .. | deleteAgent .. | replaceKilledAgent .. => True
  | _ => False

/-- What an operation writes: the turns of some agents, rows of sessions and agents, an event,
or it deletes an agent and may then write a row for it and requeue its job. -/
inductive Writes (op : DaemonOp) (d : Db) : Db → Prop
  | turns {S : Scope} {ids : List String} {d' : Db} (edges : S.edges = op.edges)
      (writes : Turns S ids d d') : Writes op d d'
  | rows (sessions : Table String Session) (agents : Table String Agent) :
      Writes op d { d with sessions := sessions, agents := agents }
  | event (e : Event) : Writes op d { d with events := d.events.append e }
  | freed {a context : String} {d₁ : Db} (deletes : op.DeletesAgents)
      (deleted : d.deleteAgent a context = .ok d₁) (agents : Table String Agent) :
      Writes op d { d₁ with agents := agents }
  | replaced {a context : String} {d₁ d' : Db} (deletes : op.DeletesAgents)
      (replaces : op.Replaces a) (deleted : d.deleteAgent a context = .ok d₁)
      (agents : Table String Agent) (specs : Table String AgentSpawnSpecRow)
      (requeued : SideWrites { edges := op.edges }
        { d₁ with agents := agents, agentSpawnSpecs := specs } d') : Writes op d d'

theorem replaceKilledAgent_writes {sessionId hash : String}
    (h : replaceKilledAgentAndRequeueJobSync d sessionId spec hash pid intent now = .ok (n, d')) :
    Writes (replaceKilledAgent sessionId spec hash pid intent now) d d' := by
  unfold replaceKilledAgentAndRequeueJobSync at h
  split_ifs at h
  obtain ⟨d₁, deleted, h⟩ := bind_eq_ok.mp h
  obtain ⟨_, inserted, h⟩ := bind_eq_ok.mp h
  obtain ⟨d₂, stored, h⟩ := bind_eq_ok.mp h
  rcases insertAgentSync_of_absent (Db.absent_of_deleteAgent deleted) sessionId spec.provider
    .spawning (some pid) now with ⟨e, failed⟩ | done
  · rw [failed] at inserted
    cases inserted
  rw [done] at stored
  obtain ⟨specs, rfl⟩ := persistAgentSpawnSpecSync_ok stored
  exact .replaced trivial rfl deleted _ _ (requeueCapturedIntent_side (.head _) h)

theorem writes (op : DaemonOp) (d : Db) : op.Writes d (op.apply d) := by
  have same : op.Writes d d := .rows d.sessions d.agents
  have committed {α : Type} {r : Except CcbdError (α × Db)}
      (h : ∀ x d', r = .ok (x, d') → op.Writes d d') : op.Writes d (commit r d) :=
    commit_induction same h
  have turn {S : Scope} (h : op.scope? = some S) (edges : S.edges = op.edges) :
      op.Writes d (op.apply d) := by
    obtain ⟨a, turn⟩ := DaemonOp.turn h d
    exact .turns edges (.cons turn (.nil _))
  have alert (a : String) (payload : Json) (now : Int) :
      op.Writes d (insertAlert d a payload now) := by
    refine committed fun n d' h => ?_
    obtain ⟨e, rfl⟩ := insertEventSync_ok h
    exact .event e
  cases op with
  | db | seedProbe | learnedReadiness | spawningIntervention | resolvePrompt | unparkPrompt
  | promptPendingEmitUnknown | recordEvidence | discardEvidence => exact turn rfl rfl
  | shutdown now =>
    obtain ⟨sessions, agents, same⟩ := shutdown_tables d now
    rw [same]
    exact .rows sessions agents
  | cleanTerminalSession => exact committed fun _ _ h => .turns rfl (killTerminalAgents_turns h)
  | reconcileStartup =>
    exact committed fun _ _ h => .turns rfl (reconcileActiveAgentsToCrashedSync_turns h)
  | claimRecovery =>
    simp only [apply, tryClaimAgentRecoverySync]
    split_ifs
    · exact .rows d.sessions _
    · exact same
  | restoreCrashedRow a agent hash now =>
    simp only [apply, Ccbd.restoreCrashedRow]
    split_ifs with absent
    · rcases insertAgentSync_of_absent (Option.isNone_iff_eq_none.mp absent) agent.sessionId
        agent.provider .crashed none now with ⟨e, failed⟩ | done
      · rwa [failed]
      · rw [done]
        exact .rows d.sessions _
    · exact same
  | restoreCrashedState => exact .rows d.sessions _
  | writeSession => exact .rows _ d.agents
  | insertAgent a s p pid now =>
    rcases insertAgentSync_rows d a s p .spawning pid now with
      ⟨e, same⟩ | ⟨d₁, deleted, ⟨e, same⟩ | row⟩
    · rwa [apply, same]
    · rw [apply, same]
      exact .freed (by trivial) deleted d₁.agents
    · rw [apply, row]
      exact .freed (by trivial) deleted _
  | deleteAgent a =>
    refine committed fun _ d' h => ?_
    obtain ⟨d₁, deleted, same⟩ := map_eq_ok.mp h
    cases same
    exact .freed (by trivial) deleted d'.agents
  | replaceKilledAgent => exact committed fun _ _ => replaceKilledAgent_writes
  | stoppedUndeclaredAlert | healthStuckReport | queuedStarvationAlert | suppressionEscalated
  | paneDiffStuckAlert | uiRecaptureAlert =>
    exact alert _ _ _

variable {op : DaemonOp} {d d' : Db}

theorem Writes.lift {R : Db → Db → Prop} (refl : ∀ d, R d d)
    (trans : ∀ d d₁ d', R d d₁ → R d₁ d' → R d d')
    (write : ∀ S d d', S.edges = op.edges → SideWrite S d d' → R d d')
    (rows : ∀ d sessions agents specs,
      R d { d with sessions := sessions, agents := agents, agentSpawnSpecs := specs })
    (event : ∀ d e, R d { d with events := d.events.append e })
    (cascade : ∀ d a, R d (d.cascadeAgent a)) (h : op.Writes d d') : R d d' := by
  have gone {a context d₁} (h : d.deleteAgent a context = .ok d₁) : R d d₁ := by
    obtain ⟨-, rfl⟩ | rfl := Db.deleteAgent_ok h
    · exact refl _
    · exact cascade d a
  cases h with
  | turns edges writes =>
    refine writes.lift refl trans fun a d d' turn => ?_
    refine turn.lift refl trans (write _ · · edges) ?_ ?_ ?_
    · exact fun d _ _ _ _ _ _ => rows d d.sessions _ d.agentSpawnSpecs
    · exact fun d _ _ => event d _
    · exact fun d _ _ => rows d d.sessions _ d.agentSpawnSpecs
  | rows sessions agents => exact rows d sessions agents d.agentSpawnSpecs
  | event e => exact event d e
  | @freed _ _ d₁ _ deleted agents =>
    exact trans _ _ _ (gone deleted) (rows d₁ d₁.sessions agents d₁.agentSpawnSpecs)
  | @replaced _ _ d₁ _ _ _ deleted agents specs requeued =>
    refine trans _ _ _ (gone deleted) (trans _ _ _ (rows d₁ d₁.sessions agents specs) ?_)
    exact requeued.lift refl trans (write _ · · rfl)

/-- An invariant that every single write keeps. -/
theorem Writes.keeps {I : Db → Prop} (write : ∀ S d d', SideWrite S d d' → I d → I d')
    (rows : ∀ d sessions agents specs, I d →
      I { d with sessions := sessions, agents := agents, agentSpawnSpecs := specs })
    (event : ∀ d e, I d → I { d with events := d.events.append e })
    (cascade : ∀ d a, I d → I (d.cascadeAgent a)) (h : op.Writes d d') : I d → I d' :=
  h.lift (R := fun d d' => I d → I d') (fun _ => id) (fun _ _ _ first later => later ∘ first)
    (fun S d d' _ => write S d d') rows event cascade

end DaemonOp

end Ccbd
