import Ccbd.Audit.Settlement
import Ccbd.Completion.HookDelivery

/-!
# The cancel request

`handle_job_cancel` reads the status of a job, and then acts on what it read in further
transactions; other tasks run in between. A job that was QUEUED when it was read is
answered as CANCELLED whether or not the mark took effect. The keys that interrupt a
DISPATCHED job go to the pane of its agent, whatever the agent works on by then. They reach the
job if it is in flight when the agent is read and no operation runs that can end its flight before
the last key is sent.
-/

namespace Ccbd

open Lib

def cancelKeysymsForProvider (provider : String) : List String :=
  if canonicalizeProviderName provider = "antigravity" then ["Escape"] else ["C-c"]

structure CancelAnswer where
  jobId : String
  status : String
deriving DecidableEq, Repr

/-- Where the handler stands: before which call, with what it has read so far. -/
inductive CancelPc where
  | query
  | markQueued
  | request (agentId : String)
  | settle (agentId : String)
  | findPane (agentId : String)
  | queryAgent (agentId paneId : String)
  | sendKeys (agentId paneId key : String) (rest : List String)
  | settleAgain
  | reply (answer : Except CcbdError CancelAnswer)
  | done (answer : Except CcbdError CancelAnswer)

namespace CancelPc

/-- The loop over the keys, before its next turn. -/
def nextKey (agentId paneId : String) : List String → CancelPc
  | [] => settleAgain
  | key :: rest => sendKeys agentId paneId key rest

/-- The status the handler is about to answer. -/
def reports : CancelPc → Option String
  | reply (.ok answer) => some answer.status
  | _ => none

/-- The agent whose pane the handler is about to send a key to. -/
def target : CancelPc → Option String
  | sendKeys agentId _ _ _ => some agentId
  | _ => none

@[simp] theorem reports_nextKey (agentId paneId : String) (keys : List String) :
    (nextKey agentId paneId keys).reports = none := by
  cases keys <;> rfl

end CancelPc

/-- One handler among the other tasks of the daemon. -/
structure CancelWorld where
  db : Db
  panes : Table String String
  jobId : String
  pc : CancelPc

/-- The handler's next step, or one of another task. -/
inductive CancelAct where
  | handler (now : Int) (tmux : Except CcbdError Unit)
  | daemon (op : DaemonOp)
  | registerPane (agentId paneId : String)
  | unregisterPane (agentId : String)

namespace CancelWorld

/-- A call on the database: an error of it is the answer. -/
def call {α : Type} (w : CancelWorld) (r : Except CcbdError (α × Db)) (next : α → CancelPc) :
    CancelWorld :=
  match r with
  | .ok (x, db) => { w with db := db, pc := next x }
  | .error e => { w with pc := .reply (.error e) }

def answer (w : CancelWorld) (status : String) : CancelPc := .reply (.ok ⟨w.jobId, status⟩)

/-- `handle_job_cancel` from one call to the next. -/
def handleJobCancel (w : CancelWorld) (now : Int) (tmux : Except CcbdError Unit) : CancelWorld :=
  match w.pc with
  | .query =>
    match w.db.jobs.get? w.jobId with
    | none => { w with pc := .reply (.error (.ipcInvalidRequest s!"job_id not found: {w.jobId}")) }
    | some job =>
      match job.status with
      | .queued => { w with pc := .markQueued }
      | .dispatched => { w with pc := .request job.agentId }
      | status => { w with pc := w.answer status.asDbStr }
  | .markQueued =>
    w.call (markQueuedJobCancelledSync w.db w.jobId now) fun _ => w.answer "CANCELLED"
  | .request a => w.call (requestDispatchedJobCancelSync w.db w.jobId now) fun _ => .settle a
  | .settle a =>
    w.call (markDispatchedJobCancelledIfAgentIdleSync w.db w.jobId now) fun changes =>
      if 0 < changes then w.answer "CANCELLED" else .findPane a
  | .findPane a =>
    match w.panes.get? a with
    | none => { w with pc := .reply (.error (.ptyIoError s!"tmux pane not registered for {a}")) }
    | some pane => { w with pc := .queryAgent a pane }
  | .queryAgent a pane =>
    match w.db.agents.get? a with
    | none => { w with pc := .reply (.error (.agentNotFound a)) }
    | some agent => { w with pc := .nextKey a pane (cancelKeysymsForProvider agent.provider) }
  | .sendKeys a pane _ rest =>
    match tmux with
    | .ok () => { w with pc := .nextKey a pane rest }
    | .error e => { w with pc := .reply (.error e) }
  | .settleAgain =>
    -- the watch that is spawned here settles the job as other tasks do
    w.call (markDispatchedJobCancelledIfAgentIdleSync w.db w.jobId now) fun _ =>
      w.answer "CANCEL_REQUESTED"
  | .reply r => { w with pc := .done r }
  | .done _ => w

end CancelWorld

namespace CancelAct

def apply (w : CancelWorld) : CancelAct → CancelWorld
  | handler now tmux => w.handleJobCancel now tmux
  | daemon op => { w with db := op.apply w.db }
  | registerPane a pane => { w with panes := w.panes.upsert a pane }
  | unregisterPane a => { w with panes := w.panes.delete a }

def Step (w : CancelWorld) (a : CancelAct) (w' : CancelWorld) : Prop := w' = a.apply w

end CancelAct

/-! ## The answer -/

section Database

variable {d' : Db} {now : Int} {n : Nat}

theorem markQueuedJobCancelledSync_statusOf (d : Db) (j : String) (now : Int) :
    ∃ n d', markQueuedJobCancelledSync d j now = .ok (n, d') ∧
      (d'.statusOf j = some .cancelled ↔
        d.statusOf j = some .queued ∨ d.statusOf j = some .cancelled) := by
  unfold markQueuedJobCancelledSync
  cases found : d.jobs.get? j with
  | none => exact ⟨0, d, rfl, by simp [Db.statusOf, found]⟩
  | some job =>
    by_cases queued : job.status = .queued
    · have edge : JobStatus.edge .queued .cancelled = true := rfl
      obtain ⟨t, moved⟩ := transitJobState_succeeds found queued edge
        (.inl (by decide)) "cancel_queued" now
      refine ⟨1, _, by simp only [queued, moved]; rfl, ?_⟩
      simp [Db.statusOf, found, queued]
    · exact ⟨0, d, by simp only [queued, if_false], by simp [Db.statusOf, found, queued]⟩

theorem markDispatchedJobCancelledIfAgentIdleSync_statusOf (changed : 0 < n)
    (h : markDispatchedJobCancelledIfAgentIdleSync d j now = .ok (n, d')) :
    d'.statusOf j = some .cancelled := by
  obtain ⟨rfl, -⟩ | ⟨-, job, found, -, moved⟩ := guarded_ok h
  · cases changed
  · obtain ⟨job', t, -, rfl⟩ := transitJobState_ok moved
    simp [Db.statusOf, found]

/-- Nothing but the deletion of its agent takes a job out of CANCELLED. -/
theorem DaemonOp.statusOf_cancelled {op : DaemonOp} (keeps : ¬op.DeletesAgents)
    (cancelled : d.statusOf j = some .cancelled) : (op.apply d).statusOf j = some .cancelled := by
  obtain ⟨job, found, status⟩ := Option.map_eq_some_iff.mp cancelled
  obtain ⟨job', found', same, -⟩ := JobFile.kept_along
    (fun _ _ step => step.hasResult op.edge_of_mem_edges (.inr status)) ((op.writes d).files keeps j)
    ⟨job, found, rfl, rfl, rfl⟩
  have row : (op.apply d).jobs.get? j = some job' := found'
  rw [Db.statusOf, row, Option.map_some, same, status]

/-- The operation deletes the row of the agent, and with it those of its jobs. -/
def DaemonOp.Deletes (d : Db) (a : String) : DaemonOp → Prop
  | deleteAgent b => b = a ∧ (d.agents.get? a).isSome ∧ d.cascadeBlocked a = false
  | insertAgent b _ _ _ _ => b = a ∧ "master:".toList.isPrefixOf a.toList = false ∧
      d.stateOf a = some .killed ∧ d.cascadeBlocked a = false
  | replaceKilledAgent s spec hash pid intent now => spec.agentId = a ∧
      (replaceKilledAgentAndRequeueJobSync d s spec hash pid intent now).isOk
  | _ => False

section Deletion

variable {d : Db} {a b : String} {job : Job}

theorem Db.statusOf_cascadeAgent (found : d.jobs.get? j = some job) (b : String) :
    (d.cascadeAgent b).statusOf j = if b = job.agentId then none else some job.status := by
  by_cases own : b = job.agentId
  · simp [statusOf, get?_cascadeAgent_jobs, found, own]
  · simp [statusOf, get?_cascadeAgent_jobs, found, own, Ne.symm own]

theorem Db.deleteAgent_cancelled_iff (found : d.jobs.get? j = some job)
    (cancelled : job.status = .cancelled) (b context : String) :
    (commit ((d.deleteAgent b context).map ((), ·)) d).statusOf j = some .cancelled ↔
      ¬(b = job.agentId ∧ (d.agents.get? b).isSome ∧ d.cascadeBlocked b = false) := by
  have same : d.statusOf j = some .cancelled := by rw [statusOf, found, ← cancelled]; rfl
  unfold deleteAgent
  split_ifs with absent blocked
  · exact iff_of_true same (by simp_all)
  · exact iff_of_true same (by simp_all)
  · show (d.cascadeAgent b).statusOf j = _ ↔ _
    rw [statusOf_cascadeAgent found, cancelled]
    simp_all [Option.isSome_iff_ne_none]

theorem insertAgentSync_jobs (d : Db) (b s p : String) (pid : Option Int) (now : Int) :
    (insertAgentSync d b s p .spawning pid now).2.jobs =
      if "master:".toList.isPrefixOf b.toList = false ∧ d.stateOf b = some .killed then
        (commit ((d.deleteAgent b "delete killed agent before insert").map ((), ·)) d).jobs
      else d.jobs := by
  unfold insertAgentSync Db.stateOf
  cases reserved : "master:".toList.isPrefixOf b.toList with
  | true => simp
  | false =>
    cases row : d.agents.get? b with
    | none =>
      simp
      split <;> rfl
    | some existing =>
      by_cases killed : existing.state = .killed
      swap
      · simp [killed]
      simp [killed]
      cases d.deleteAgent b "delete killed agent before insert" with
      | error e => rfl
      | ok d' =>
        dsimp only
        split <;> rfl

theorem JobFile.Step.not_cancelled (step : Step E x x') (queued : ∀ e ∈ E, e.2 = .queued)
    (h : ∀ job ∈ x.job, job.status ≠ .cancelled) : ∀ job ∈ x'.job, job.status ≠ .cancelled := by
  cases step with
  | touch trail touched => simpa [touched.status] using h
  | create trail new => simp [new]
  | move trail edge =>
    have entered := queued _ edge
    simp_all
  | ask => exact h

/-- The replacement may insert the job of the intent again, but then as a QUEUED one. -/
theorem replaceKilledAgent_ok_cancelled_iff {sessionId hash : String}
    (found : d.jobs.get? j = some job) (cancelled : job.status = .cancelled)
    (h : replaceKilledAgentAndRequeueJobSync d sessionId spec hash pid intent now = .ok (n, d')) :
    d'.statusOf j = some .cancelled ↔ spec.agentId ≠ job.agentId := by
  obtain ⟨d₁, d₂, killed, deleted, new, requeued⟩ :=
    replaceKilledAgentAndRequeueJobSync_ok h
  have files := (requeueCapturedIntent_side (S := { edges := [(.failed, .queued)] }) (.head _)
    requeued).files j
  have present := Db.isSome_of_stateOf killed
  obtain rfl : d₁ = d.cascadeAgent spec.agentId :=
    (Db.deleteAgent_ok deleted).resolve_left fun h => by simp [h.1] at present
  have row := Db.get?_cascadeAgent_jobs d spec.agentId j
  rw [found, ← new.jobs] at row
  by_cases own : spec.agentId = job.agentId
  · rw [Option.filter_some, if_neg (by simp [own])] at row
    refine iff_of_false ?_ fun spared => spared own
    have later := JobFile.kept_along (fun _ _ step => step.not_cancelled (by simp)) files
      (show ∀ job ∈ d₂.jobs.get? j, _ by simp [row])
    intro status
    obtain ⟨job', found', status'⟩ := Option.map_eq_some_iff.mp status
    exact later job' found' status'
  · rw [Option.filter_some, if_pos (by simp [Ne.symm own])] at row
    refine iff_of_true ?_ own
    obtain ⟨job', found', status, -⟩ := JobFile.kept_along
      (fun _ _ step => step.hasResult (by simp [JobStatus.edge]) (.inr cancelled)) files
      ⟨job, row, rfl, rfl, rfl⟩
    exact Option.map_eq_some_iff.mpr ⟨job', found', status.trans cancelled⟩

theorem DaemonOp.statusOf_cancelled_iff (op : DaemonOp) (found : d.jobs.get? j = some job)
    (cancelled : job.status = .cancelled) :
    (op.apply d).statusOf j = some .cancelled ↔ ¬op.Deletes d job.agentId := by
  have same : d.statusOf j = some .cancelled := by rw [Db.statusOf, found, ← cancelled]; rfl
  cases op with
  | deleteAgent b =>
    refine (Db.deleteAgent_cancelled_iff found cancelled b "delete agent").trans (not_congr ?_)
    exact and_congr_right fun own => own ▸ Iff.rfl
  | insertAgent b s p pid now =>
    show ((insertAgentSync d b s p .spawning pid now).2.jobs.get? j).map (·.status) = _ ↔
      ¬(b = job.agentId ∧ _ ∧ d.stateOf job.agentId = _ ∧ _)
    rw [insertAgentSync_jobs]
    split_ifs with frees
    · refine (Db.deleteAgent_cancelled_iff found cancelled b _).trans (not_congr ?_)
      refine and_congr_right fun own => ?_
      subst own
      exact ⟨fun h => ⟨frees.1, frees.2, h.2⟩, fun h => ⟨Db.isSome_of_stateOf frees.2, h.2.2⟩⟩
    · refine iff_of_true same ?_
      rintro ⟨rfl, free, killed, -⟩
      exact frees ⟨free, killed⟩
  | replaceKilledAgent s spec hash pid intent now =>
    show (commit (replaceKilledAgentAndRequeueJobSync d s spec hash pid intent now) d).statusOf j =
      _ ↔ ¬(_ ∧ (replaceKilledAgentAndRequeueJobSync d s spec hash pid intent now).isOk = true)
    cases replaced : replaceKilledAgentAndRequeueJobSync d s spec hash pid intent now with
    | error e => exact iff_of_true same (by simp [Except.isOk, Except.toBool])
    | ok r =>
      refine (replaceKilledAgent_ok_cancelled_iff found cancelled replaced).trans (not_congr ?_)
      exact (and_iff_left rfl).symm
  | _ => exact iff_of_true (statusOf_cancelled (fun deletes => deletes.elim) same) fun deletes => deletes

end Deletion

end Database

/-- If the handler is about to answer CANCELLED, the job is CANCELLED. -/
def CancelWorld.Truthful (w : CancelWorld) : Prop :=
  w.pc.reports = some "CANCELLED" → w.db.statusOf w.jobId = some .cancelled

/-- The mark finds the job still QUEUED, or cancelled by somebody else; and before the answer
is out nobody deletes the row. -/
def CancelAct.KeepsTruth (w : CancelWorld) : CancelAct → Prop
  | handler _ _ => w.pc = .markQueued →
      w.db.statusOf w.jobId = some .queued ∨ w.db.statusOf w.jobId = some .cancelled
  | daemon op => w.pc.reports = some "CANCELLED" → ∀ job, w.db.jobs.get? w.jobId = some job →
      ¬op.Deletes w.db job.agentId
  | registerPane _ _ | unregisterPane _ => True

namespace CancelWorld

variable {w : CancelWorld}

theorem truthful_of_silent (h : w.pc.reports ≠ some "CANCELLED") : w.Truthful :=
  fun reports => absurd reports h

theorem truthful_of_none (h : w.pc.reports = none) : w.Truthful :=
  truthful_of_silent (by simp [h])

theorem truthful_call {α : Type} {r : Except CcbdError (α × Db)} {next : α → CancelPc}
    (ok : ∀ x db, r = .ok (x, db) → ({ w with db := db, pc := next x } : CancelWorld).Truthful) :
    (w.call r next).Truthful := by
  unfold call
  split
  · exact ok _ _ rfl
  · exact truthful_of_none rfl

theorem truthful_handleJobCancel (other : w.pc ≠ .markQueued) (now : Int)
    (tmux : Except CcbdError Unit) : (w.handleJobCancel now tmux).Truthful := by
  unfold handleJobCancel
  split
  · split
    · exact truthful_of_none rfl
    rename_i job found
    split
    · exact truthful_of_none rfl
    · exact truthful_of_none rfl
    · intro reports
      have status : job.status.asDbStr = "CANCELLED" := Option.some.inj reports
      have cancelled : job.status = .cancelled := by
        cases e : job.status <;> simp [e, JobStatus.asDbStr] at status ⊢
      simp [Db.statusOf, found, cancelled]
  · exact absurd ‹_› other
  · exact truthful_call fun _ _ _ => truthful_of_none rfl
  · refine truthful_call fun changes db ok => ?_
    split_ifs with changed
    · exact fun _ => markDispatchedJobCancelledIfAgentIdleSync_statusOf changed ok
    · exact truthful_of_none rfl
  · split <;> exact truthful_of_none rfl
  · split
    · exact truthful_of_none rfl
    · exact truthful_of_none (CancelPc.reports_nextKey _ _ _)
  · split
    · exact truthful_of_none (CancelPc.reports_nextKey _ _ _)
    · exact truthful_of_none rfl
  · exact truthful_call fun _ _ _ => truthful_of_silent (by simp [answer, CancelPc.reports])
  · exact truthful_of_none rfl
  · rename_i e
    exact truthful_of_none (by rw [e]; rfl)

end CancelWorld

theorem CancelAct.truthful_iff (truthful : w.Truthful) (a : CancelAct) :
    (a.apply w).Truthful ↔ a.KeepsTruth w := by
  cases a with
  | registerPane | unregisterPane => exact iff_of_true truthful trivial
  | daemon op =>
    refine forall_congr' fun reports => ?_
    obtain ⟨job, found, cancelled⟩ := Option.map_eq_some_iff.mp (truthful reports)
    refine (op.statusOf_cancelled_iff found cancelled).trans ?_
    simp [found]
  | handler now tmux =>
    by_cases marks : w.pc = .markQueued
    · obtain ⟨n, d', ok, status⟩ := markQueuedJobCancelledSync_statusOf w.db w.jobId now
      have after : (handler now tmux).apply w =
          { w with db := d', pc := w.answer "CANCELLED" } := by
        simp [apply, CancelWorld.handleJobCancel, marks, CancelWorld.call, ok]
      rw [after]
      constructor
      · intro kept _
        exact status.mp (kept rfl)
      · intro kept _
        exact status.mpr (kept marks)
    · exact iff_of_true (CancelWorld.truthful_handleJobCancel marks now tmux)
        fun h => absurd h marks

/-- The handler's answers are true in every state of a run exactly if every mark of a QUEUED
job finds it QUEUED or CANCELLED, and no row is deleted before its answer is out. -/
theorem truthful_run {w w' : CancelWorld} {ts : List (Transition CancelWorld CancelAct)}
    (start : w.pc = .query) (run : Run CancelAct.Step w ts w') :
    (∀ t ∈ ts, t.post.Truthful) ↔ ∀ t ∈ ts, t.act.KeepsTruth t.pre := by
  refine run.forall_post_iff ?_ (CancelWorld.truthful_of_none (by rw [start]; rfl))
  rintro w a _ truthful rfl
  exact a.truthful_iff truthful

/-- A request to cancel `j1`, which waits in the queue of an idle agent. -/
def cancelQueued : CancelWorld where
  db := idleAgentDb
  panes := Table.empty.insert "a1" "%1"
  jobId := "j1"
  pc := .query

def undisturbedCancel : List (Transition CancelWorld CancelAct) :=
  trace CancelAct.apply cancelQueued [.handler 1 (.ok ()), .handler 2 (.ok ()), .handler 3 (.ok ())]

theorem truthful_run_undisturbed :
    (∀ t ∈ undisturbedCancel, t.act.KeepsTruth t.pre) ∧
      ∀ t ∈ undisturbedCancel, t.post.Truthful := by
  rw [undisturbedCancel, truthful_run rfl (Run.of_list _ _), and_self]
  simp only [trace, List.forall_mem_cons, List.not_mem_nil, false_implies, implies_true, and_true]
  refine ⟨?_, fun _ => .inl rfl, ?_⟩ <;> rintro ⟨⟩

/-- The job is dispatched after it was read. The mark changes nothing, and the answer is
CANCELLED all the same. -/
theorem not_truthful_dispatched :
    ¬∀ (w w' : CancelWorld) (ts : List (Transition CancelWorld CancelAct)), w.pc = .query →
      Run CancelAct.Step w ts w' → w'.Truthful := by
  intro h
  have truthful := h _ _ _ rfl (Run.of_list cancelQueued
    [.handler 1 (.ok ()), .daemon (.db (.dispatchQueuedJob "a1" 2)), .handler 3 (.ok ())])
  have status := truthful (by decide +kernel)
  exact absurd status (by decide +kernel)

/-! ## The keys -/

/-- The agent the handler is about to interrupt works on the job. -/
def CancelWorld.OnTarget (w : CancelWorld) : Prop :=
  ∀ a, w.pc.target = some a → w.db.Owns a w.jobId

/-- The job is the one that an operation on the agent finds in flight. -/
def Db.Current (d : Db) (a j : String) : Prop :=
  (queryDispatchedJobForAgentSync d a).map Prod.fst = some j

/-- The operation can take the job `j` of the agent `a` out of flight: it completes or gives up
the agent's current job, puts the agent down, deletes its row, or is about the job itself. -/
def DaemonOp.CanEnd (d : Db) (a j : String) : DaemonOp → Prop
  | db (.markerMatched _ b _) | db (.hookEvent _ b _ _ _ _ _ _) | db (.logEvent _ b _ _ _ _ _ _)
  | db (.ackFallbackStuck b _ _) | db (.markStuck b _ _) => b = a ∧ d.Current a j
  | db (.markUnknown b _ _ _) | db (.ackFallbackCrashed b _ _) | db (.markCrashed b _ _ _)
  | db (.markKilled b _ _ _) | insertAgent b _ _ _ _ | deleteAgent b => b = a
  | replaceKilledAgent _ spec _ _ _ _ => spec.agentId = a
  | db (.cancelIfAgentIdle k _) => k = j ∧ (d.agents.get? a).any fun agent =>
      agent.state = .idle || agent.state = .unknown
  | db (.forceCancel k _ _ _) | db (.markJobFailed k _ _) | db (.requeueIoFailure k _ _ _ _)
  | db (.requeueBeforeSend k _ _ _) => k = j
  | cleanTerminalSession s _ _ => d.isUpIn s a = true
  | reconcileStartup _ _ => (d.agents.get? a).any (isStartupCandidate ·.state) = true
  | _ => False

/-- When the handler reads the agent, the job is in flight with it. -/
def CancelAct.ReadsTarget (w : CancelWorld) : CancelAct → Prop
  | handler _ _ => ∀ a pane, w.pc = .queryAgent a pane → (w.db.agents.get? a).isSome →
      w.db.Owns a w.jobId
  | _ => True

/-- Moreover no operation that can end the flight runs as long as there are keys to send. -/
def CancelAct.KeepsTarget (w : CancelWorld) : CancelAct → Prop
  | daemon op => ∀ a, w.pc.target = some a → ¬op.CanEnd w.db a w.jobId
  | act => act.ReadsTarget w

section InFlight

variable {d d' : Db} {a b j k : String} {op : DaemonOp}

theorem JobFile.Step.inFlight (step : Step E x x') (still : ∀ e ∈ E, e.1 ≠ .dispatched)
    (h : ∃ job, x.job = some job ∧ job.agentId = a ∧ job.status = .dispatched) :
    ∃ job, x'.job = some job ∧ job.agentId = a ∧ job.status = .dispatched := by
  obtain ⟨job, found, owner, dispatched⟩ := h
  cases step with
  | touch trail touched =>
    cases found
    exact ⟨_, rfl, touched.owner.trans owner, touched.status.trans dispatched⟩
  | create => cases found
  | move trail edge =>
    cases found
    exact absurd dispatched (still _ edge)
  | ask =>
    cases found
    exact ⟨job, rfl, owner, dispatched⟩

/-- What makes no edge out of DISPATCHED and deletes no agent keeps jobs in flight. -/
theorem Db.Owns.of_edges (owns : d.Owns a j) (keeps : ¬op.DeletesAgents)
    (still : ∀ e ∈ op.edges, e.1 ≠ .dispatched) : (op.apply d).Owns a j :=
  JobFile.kept_along (P := fun x => ∃ job, x.job = some job ∧ job.agentId = a ∧
    job.status = .dispatched) (fun _ _ step => step.inFlight still) ((op.writes d).files keeps j) owns

theorem Db.Owns.of_row (owns : d.Owns a j) (same : d'.jobs.get? j = d.jobs.get? j) :
    d'.Owns a j := by
  unfold Db.Owns at *
  rwa [same]

theorem Db.Owns.of_modify {f g : Job → Job} (owns : d.Owns a j) (other : k ≠ j)
    (jobs : d'.jobs = (d.jobs.modify k f).modify k g) : d'.Owns a j := by
  refine owns.of_row ?_
  rw [jobs, Table.get?_modify_of_ne _ _ (Ne.symm other), Table.get?_modify_of_ne _ _ (Ne.symm other)]

theorem Db.Owns.goesDown (owns : d.Owns a j) (other : b ≠ a)
    (jobs : ∀ j, d'.jobs.get? j = (d.jobs.get? j).map fun job =>
      if job.agentId = b ∧ job.status = .dispatched then job.failWith reason now else job) :
    d'.Owns a j := by
  obtain ⟨job, found, owner, dispatched⟩ := owns
  refine ⟨job, ?_, owner, dispatched⟩
  simp [jobs, found, owner, Ne.symm other]

theorem Db.Owns.ne_of_query (owns : d.Owns a j) (spared : ¬(b = a ∧ d.Current a j))
    (head : queryDispatchedJobForAgentSync d b = some (k, job)) : k ≠ j := by
  rintro rfl
  obtain ⟨job', found', owner, -⟩ := owns
  obtain ⟨found, owner', -⟩ := queryDispatchedJobForAgentSync_some head
  cases found.symm.trans found'
  obtain rfl := owner'.symm.trans owner
  exact spared ⟨rfl, by simp [Db.Current, head]⟩

theorem Db.Owns.completion (owns : d.Owns a j) (spared : ¬(b = a ∧ d.Current a j))
    (h : CompletionEffect d b now d') : d'.Owns a j := by
  cases h with
  | untouched _ jobs | deferred _ _ _ jobs | idle _ _ _ _ jobs => exact owns.of_row (by rw [jobs])
  | settled _ _ dispatched _ jobs => exact owns.of_modify (owns.ne_of_query spared dispatched) jobs

theorem Db.Owns.markAgentCrashed (owns : d.Owns a j) (other : b ≠ a)
    (h : markAgentCrashedSync d b exit code now = .ok (n, d')) : d'.Owns a j := by
  rcases markAgentCrashedSync_ok h with ⟨-, rfl, -⟩ | ⟨-, agent, reason, -, -, -, -, down⟩
  · exact owns
  · exact owns.goesDown other down.jobs

theorem Db.Owns.deleteAgent (owns : d.Owns a j) (other : b ≠ a)
    (h : d.deleteAgent b context = .ok d') : d'.Owns a j := by
  obtain ⟨-, rfl⟩ | rfl := Db.deleteAgent_ok h
  · exact owns
  · obtain ⟨job, found, owner, dispatched⟩ := owns
    refine ⟨job, ?_, owner, dispatched⟩
    simp [Db.get?_cascadeAgent_jobs, found, owner, Ne.symm other]

theorem Db.Owns.sessionEnd (owns : d.Owns a j) (apart : d.isUpIn s a = false)
    (h : killTerminalAgents s reason now ids d = .ok (n, d')) : d'.Owns a j := by
  -- The agent stays as it is, so it is never the one whose turn it is.
  refine (killTerminalAgents_invariant (I := fun d => d.Owns a j ∧ d.isUpIn s a = false) ?_
    ⟨owns, apart⟩ h).1
  intro b d n d' ⟨owns, apart⟩ turn
  rcases killTerminalAgent_ok turn with ⟨-, rfl⟩ | ⟨up, down⟩
  · exact ⟨owns, apart⟩
  · have other : b ≠ a := by
      rintro rfl
      simp [apart] at up
    refine ⟨owns.goesDown other down.jobs, ?_⟩
    rwa [Db.isUpIn, down.agents, Table.get?_modify_of_ne _ _ (Ne.symm other)]

theorem Db.Owns.startupReconcile (owns : d.Owns a j)
    (apart : (d.agents.get? a).any (isStartupCandidate ·.state) = false)
    (h : startupReconcilePhaseCCrashDead now crashes d = .ok (n, d')) : d'.Owns a j := by
  refine (startupReconcilePhaseCCrashDead_invariant (I := fun d => d.Owns a j ∧
    (d.agents.get? a).any (isStartupCandidate ·.state) = false) ?_ ⟨owns, apart⟩ h).1
  intro crash d n d' ⟨owns, apart⟩ turn
  rcases crashDeadAgent_ok turn with rfl | ⟨candidate, down⟩
  · exact ⟨owns, apart⟩
  · have other : crash.agentId ≠ a := by
      rintro rfl
      simp [apart] at candidate
    refine ⟨owns.goesDown other down.jobs, ?_⟩
    rwa [down.agents, Table.get?_modify_of_ne _ _ (Ne.symm other)]

theorem Db.Owns.dbOp {op : DbOp} (owns : d.Owns a j) (spared : ¬(DaemonOp.db op).CanEnd d a j) :
    ((DaemonOp.db op).apply d).Owns a j := by
  have committed {α : Type} {r : Except CcbdError (α × Db)}
      (h : ∀ x d', r = .ok (x, d') → d'.Owns a j) : (commit r d).Owns a j := commit_induction owns h
  cases op with
  | markerMatched =>
    exact committed fun _ _ h => owns.completion spared (markAgentIdleMatchedOutcomeSyncInner_effect h)
  | hookEvent =>
    refine committed fun _ _ h => ?_
    rw [markAgentIdleHookEventOutcomeSync_eq] at h
    exact owns.completion spared (markAgentIdleEventOutcome_effect h)
  | logEvent =>
    refine committed fun _ _ h => ?_
    rw [markAgentIdleLogEventOutcomeSync_eq] at h
    exact owns.completion spared (markAgentIdleEventOutcome_effect h)
  | ackFallbackStuck =>
    refine committed fun _ d' h => ?_
    rcases fallbackAckToStuck_ok h with ⟨rfl, -⟩ | ⟨-, agent, -, -, ⟨-, jobs, -⟩ | settled⟩
    · exact owns
    · exact owns.of_row (by rw [jobs])
    · obtain ⟨k, job, e, head, -, jobs⟩ := settled
      exact owns.of_modify (owns.ne_of_query spared head) jobs
  | ackFallbackCrashed =>
    refine committed fun _ d' h => ?_
    unfold fallbackAckToCrashed at h
    split at h
    · exact owns.markAgentCrashed spared h
    · cases h
      exact owns
  | markStuck =>
    refine committed fun _ d' h => ?_
    rcases markAgentStuckOutcomeSync_ok h with rfl | ⟨-, agent, -, -, -, ⟨-, jobs⟩ | settled⟩
    · exact owns
    · exact owns.of_row (by rw [jobs])
    · obtain ⟨k, job, head, -, jobs⟩ := settled
      exact owns.of_modify (owns.ne_of_query spared head) jobs
  | markUnknown =>
    refine committed fun _ d' h => ?_
    rcases markAgentUnknownSync_ok h with rfl | ⟨-, jobs | ⟨k, job, head, jobs⟩ | jobs⟩
    · exact owns
    · exact owns.of_row (by rw [jobs])
    · exact owns.of_modify (owns.ne_of_query (fun own => spared own.1) head) jobs
    · exact owns.goesDown spared jobs
  | markCrashed => exact committed fun _ _ h => owns.markAgentCrashed spared h
  | markKilled =>
    refine committed fun _ d' h => ?_
    rcases markAgentKilledSyncInner_ok h with ⟨-, rfl, -⟩ | ⟨-, agent, -, -, -, down⟩
    · exact owns
    · exact owns.goesDown spared down.jobs
  | cancelIfAgentIdle k =>
    refine committed fun _ d' h => ?_
    obtain ⟨-, rfl, -⟩ | ⟨-, job, found, ⟨-, -, idle⟩, moved⟩ := guarded_ok h
    · exact owns
    · obtain ⟨job', t, -, rfl⟩ := transitJobState_ok moved
      refine owns.of_row (Table.get?_modify_of_ne _ _ ?_)
      rintro rfl
      obtain ⟨job₁, found₁, owner, -⟩ := owns
      cases found.symm.trans found₁
      exact spared ⟨rfl, owner ▸ idle⟩
  | forceCancel k =>
    refine committed fun _ d' h => ?_
    rcases forceCancelPendingDispatchedJobConnSync_ok h with rfl | ⟨t, rfl⟩
    · exact owns
    · exact owns.of_row (Table.get?_modify_of_ne _ _ (Ne.symm spared))
  | markJobFailed k =>
    refine committed fun _ d' h => ?_
    rcases markJobFailedConnSync_ok h with rfl | ⟨-, t, rfl⟩
    · exact owns
    · exact owns.of_modify spared (by simp; rfl)
  | requeueIoFailure k =>
    refine committed fun _ d' h => ?_
    rcases requeueRecoveredDispatchIoFailureSync_ok h with rfl | ⟨job, e, t, p, -, -, -, rfl⟩
    · exact owns
    · exact owns.of_modify spared (by simp; rfl)
  | requeueBeforeSend k =>
    refine committed fun _ d' h => ?_
    rcases requeueDispatchedJobBeforeSendSync_ok h with ⟨-, rfl⟩ | ⟨job, e, t, p, -, -, -, rfl⟩
    · exact owns
    · exact owns.of_modify spared (by simp; rfl)
  | _ => exact owns.of_edges (fun deletes => deletes.elim) (by simp [DaemonOp.edges, DbOp.edges])

/-- A job stays in flight through every operation that cannot end its flight. -/
theorem Db.Owns.daemonOp (owns : d.Owns a j) (spared : ¬op.CanEnd d a j) :
    (op.apply d).Owns a j := by
  cases op with
  | db op => exact owns.dbOp spared
  | cleanTerminalSession s reason now =>
    exact commit_induction (P := fun d => d.Owns a j) owns fun n d' h => owns.sessionEnd (Bool.eq_false_iff.mpr spared) h
  | reconcileStartup =>
    exact commit_induction (P := fun d => d.Owns a j) owns fun n d' h => owns.startupReconcile (Bool.eq_false_iff.mpr spared) h
  | insertAgent b s p pid now =>
    rcases insertAgentSync_cases d b s p .spawning pid now with same | ⟨d₁, deleted, same | new⟩
    · exact owns.of_row (by rw [DaemonOp.apply, same])
    · exact (owns.deleteAgent spared deleted).of_row (by rw [DaemonOp.apply, same])
    · exact (owns.deleteAgent spared deleted).of_row (by rw [DaemonOp.apply, new.jobs])
  | deleteAgent b =>
    refine commit_induction (P := fun d => d.Owns a j) owns fun _ d' h => ?_
    obtain ⟨d₁, deleted, same⟩ := map_eq_ok.mp h
    cases same
    exact owns.deleteAgent spared deleted
  | replaceKilledAgent =>
    refine commit_induction (P := fun d => d.Owns a j) owns fun _ d' h => ?_
    obtain ⟨d₁, d₂, -, deleted, new, requeued⟩ := replaceKilledAgentAndRequeueJobSync_ok h
    have kept : d₂.Owns a j := (owns.deleteAgent spared deleted).of_row (by rw [new.jobs])
    have files := (requeueCapturedIntent_side (S := { edges := [(.failed, .queued)] }) (.head _)
      requeued).files j
    exact JobFile.kept_along (P := fun x => ∃ job, x.job = some job ∧ job.agentId = a ∧
      job.status = .dispatched) (fun _ _ step => step.inFlight (by simp)) files kept
  | _ => exact owns.of_edges (by simp [DaemonOp.DeletesAgents]) (by simp [DaemonOp.edges])

end InFlight

namespace CancelWorld

variable {w : CancelWorld}

theorem onTarget_of_none (h : w.pc.target = none) : w.OnTarget := by
  intro a target
  rw [h] at target
  cases target

theorem onTarget_call {α : Type} {r : Except CcbdError (α × Db)} {next : α → CancelPc}
    (none : ∀ x, (next x).target = none) : (w.call r next).OnTarget := by
  unfold call
  split
  · exact onTarget_of_none (none _)
  · exact onTarget_of_none rfl

theorem onTarget_handleJobCancel (other : ∀ a pane, w.pc ≠ .queryAgent a pane)
    (onTarget : w.OnTarget) (now : Int) (tmux : Except CcbdError Unit) :
    (w.handleJobCancel now tmux).OnTarget := by
  unfold handleJobCancel
  split
  · split
    · exact onTarget_of_none rfl
    · split <;> exact onTarget_of_none rfl
  · exact onTarget_call fun _ => rfl
  · exact onTarget_call fun _ => rfl
  · refine onTarget_call fun changes => ?_
    split <;> rfl
  · split <;> exact onTarget_of_none rfl
  · exact absurd ‹_› (other _ _)
  · rename_i a pane key rest pc
    split
    · -- the next key goes where this one went
      intro b target
      have owns := onTarget a (by rw [pc]; rfl)
      cases rest with
      | nil => cases target
      | cons =>
        cases target
        exact owns
    · exact onTarget_of_none rfl
  · exact onTarget_call fun _ => rfl
  · exact onTarget_of_none rfl
  · exact onTarget

/-- Every provider has a key, so an agent that is found is interrupted. -/
theorem target_nextKey_cancelKeysyms (a pane provider : String) :
    (CancelPc.nextKey a pane (cancelKeysymsForProvider provider)).target = some a := by
  unfold cancelKeysymsForProvider
  split <;> rfl

theorem onTarget_queryAgent_iff (pc : w.pc = .queryAgent a pane) (now : Int)
    (tmux : Except CcbdError Unit) :
    (w.handleJobCancel now tmux).OnTarget ↔
      ((w.db.agents.get? a).isSome → w.db.Owns a w.jobId) := by
  unfold handleJobCancel
  rw [pc]
  cases found : w.db.agents.get? a with
  | none => simp [found, OnTarget, CancelPc.target]
  | some agent => simp [found, OnTarget, target_nextKey_cancelKeysyms]

end CancelWorld

theorem CancelAct.onTarget_handler_iff (onTarget : w.OnTarget) (now : Int)
    (tmux : Except CcbdError Unit) :
    ((handler now tmux).apply w).OnTarget ↔ (handler now tmux).ReadsTarget w := by
  by_cases reads : ∃ a pane, w.pc = .queryAgent a pane
  · obtain ⟨a, pane, pc⟩ := reads
    refine (CancelWorld.onTarget_queryAgent_iff pc now tmux).trans ?_
    constructor
    · intro owns a' pane' pc'
      cases pc.symm.trans pc'
      exact owns
    · intro owns
      exact owns a pane pc
  · push Not at reads
    exact iff_of_true (CancelWorld.onTarget_handleJobCancel reads onTarget now tmux)
      fun a pane pc => absurd pc (reads a pane)

theorem CancelAct.onTarget (onTarget : w.OnTarget) {act : CancelAct} (keeps : act.KeepsTarget w) :
    (act.apply w).OnTarget := by
  cases act with
  | handler now tmux => exact (onTarget_handler_iff onTarget now tmux).mpr keeps
  | daemon op => exact fun a target => (onTarget a target).daemonOp (keeps a target)
  | registerPane | unregisterPane => exact onTarget

theorem CancelAct.readsTarget (onTarget : w.OnTarget) {act : CancelAct}
    (after : (act.apply w).OnTarget) : act.ReadsTarget w := by
  cases act with
  | handler now tmux => exact (onTarget_handler_iff onTarget now tmux).mp after
  | _ => trivial

/-- Whenever the handler is about to send a key, its job is the one in flight, in every run in
which the job is in flight when the agent is read and no operation that can end the flight runs
while there are keys to send. The first of these conditions is necessary. -/
theorem onTarget_run {w w' : CancelWorld} {ts : List (Transition CancelWorld CancelAct)}
    (start : w.pc = .query) (run : Run CancelAct.Step w ts w') :
    ((∀ t ∈ ts, t.act.KeepsTarget t.pre) → ∀ t ∈ ts, t.post.OnTarget) ∧
      ((∀ t ∈ ts, t.post.OnTarget) → ∀ t ∈ ts, t.act.ReadsTarget t.pre) := by
  have first : w.OnTarget := CancelWorld.onTarget_of_none (by rw [start]; rfl)
  constructor
  · have keeps : ∀ w act w', w.OnTarget → act.KeepsTarget w → CancelAct.Step w act w' →
        w'.OnTarget := by
      rintro w act - onTarget keeps rfl
      exact CancelAct.onTarget onTarget keeps
    exact run.forall_transition keeps keeps first
  · intro onTarget t mem
    obtain ⟨step, -⟩ := run.rest_of_mem mem
    exact CancelAct.readsTarget (run.forall_pre first onTarget t mem) (step ▸ onTarget t mem)

/-- The handler up to the key, on a job that was dispatched before it started. -/
def cancelDispatched : List CancelAct :=
  [.daemon (.db (.dispatchQueuedJob "a1" 1)), .handler 2 (.ok ()), .handler 3 (.ok ()),
    .handler 4 (.ok ()), .handler 5 (.ok ()), .handler 6 (.ok ())]

/-- Another job is queued and another agent completes while there are keys to send. -/
theorem onTarget_run_others :
    cancelQueued.pc = .query ∧ ∀ t ∈ trace CancelAct.apply cancelQueued (cancelDispatched ++
      [.daemon (.db (.insertJob "j2" "a1" none "next" 7)),
        .daemon (.db (.logEvent .blank "a2" "claude" (some "done") "" 0 none 8))]),
      t.post.OnTarget := by
  refine ⟨rfl, (onTarget_run rfl (Run.of_list _ _)).1 ?_⟩
  simp only [cancelDispatched, List.cons_append, List.nil_append, trace, List.forall_mem_cons,
    List.not_mem_nil, false_implies, implies_true, and_true]
  refine ⟨?_, ?_, ?_, ?_, ?_, ?_, ?_, ?_⟩
  · rintro _ ⟨⟩
  · rintro _ _ ⟨⟩
  · rintro _ _ ⟨⟩
  · rintro _ _ ⟨⟩
  · rintro _ _ ⟨⟩
  · rintro _ _ ⟨⟩ _
    exact ⟨_, rfl, by decide +kernel, by decide +kernel⟩
  · exact fun _ _ ends => ends
  · rintro a target ⟨rfl, -⟩
    exact absurd target (by decide +kernel)

/-- The job completes before the key is sent, and the agent gets the next one. -/
theorem not_onTarget_next :
    ¬∀ (w w' : CancelWorld) (ts : List (Transition CancelWorld CancelAct)), w.pc = .query →
      Run CancelAct.Step w ts w' → w'.OnTarget := by
  intro h
  have onTarget := h _ _ _ rfl (Run.of_list cancelQueued
    (cancelDispatched ++ [.daemon (.db (.insertJob "j2" "a1" none "next" 7)),
      .daemon (.db (.logEvent .blank "a1" "claude" (some "done") "" 0 none 8)),
      .daemon (.db (.dispatchQueuedJob "a1" 9))]))
  exact absurd (onTarget "a1" (by decide +kernel)).statusOf (by decide +kernel)

end Ccbd
