import Ccbd.Dispatch.Refinement

/-!
# Cancelled jobs and the queue

A cancel request for a DISPATCHED job only sets `cancel_requested`; the requeue
functions put the job back to QUEUED with the flag still set. The candidate query of
`dispatchJobToAgentSync` does not look at the flag, so such a job is handed out again
whenever it is the oldest QUEUED job of an IDLE agent.
-/

namespace Ccbd

open Lib

/-- A job with `cancel_requested` set goes from QUEUED to DISPATCHED. -/
def DispatchesCancelled (db db' : Db) : Prop :=
  ∃ j job job', db.jobs.get? j = some job ∧ job.status = .queued ∧ job.cancelRequested = true ∧
    db'.jobs.get? j = some job' ∧ job'.status = .dispatched

/-- The condition on a step: a dispatch to an IDLE agent finds no cancel request on the
agent's oldest QUEUED job. -/
def DbOp.SkipsCancelled (db : Db) : DbOp → Prop
  | dispatchQueuedJob a _ => ∀ agent j job, db.agents.get? a = some agent → agent.state = .idle →
      nextQueuedJob db a = some (j, job) → job.cancelRequested = false
  | _ => True

theorem DispatchesCancelled.holds (h : DispatchesCancelled db db') :
    ∃ j job a, db.jobs.get? j = some job ∧ job.cancelRequested = true ∧ db'.board.Holds a j ∧
      ¬db.board.Holds a j := by
  obtain ⟨j, job, job', found, queued, cancel, found', dispatched⟩ := h
  have holds := Board.holds_board.mpr ⟨job', found', rfl, dispatched⟩
  refine ⟨j, job, job'.agentId, found, cancel, holds, fun held => ?_⟩
  obtain ⟨job₀, found₀, -, dispatched₀⟩ := Board.holds_board.mp held
  rw [found, Option.some.injEq] at found₀
  simp [← found₀, queued] at dispatched₀

theorem not_dispatchesCancelled_of_move (move : db.board.Move db'.board) :
    ¬DispatchesCancelled db db' := by
  intro h
  obtain ⟨j, job, a, -, -, held, free⟩ := h.holds
  exact free (move.holds_of_holds held)

theorem not_dispatchesCancelled_of_jobs (jobs : db'.jobs = db.jobs) :
    ¬DispatchesCancelled db db' := by
  rintro ⟨j, job, job', found, queued, -, found', dispatched⟩
  rw [jobs, found, Option.some.injEq] at found'
  simp [← found', queued] at dispatched

theorem dispatchesCancelled_dispatch (db : Db) (a : String) (now : Int) :
    ¬DispatchesCancelled db ((DbOp.dispatchQueuedJob a now).apply db) ↔
      (DbOp.dispatchQueuedJob a now).SkipsCancelled db := by
  constructor
  · intro h agent j job hagent hidle hnext
    by_contra hcancel
    obtain ⟨hjob, -, hqueued⟩ := nextQueuedJob_some hnext
    have dispatch := Board.dispatch_apply hagent hidle hnext now
    obtain ⟨job', found, -, dispatched⟩ :=
      Board.holds_board.mp (dispatch.holds_iff.mpr (.inr ⟨rfl, rfl⟩))
    exact h ⟨j, job, job', hjob, hqueued, by simpa using hcancel, found, dispatched⟩
  · intro skips
    refine commit_induction (P := fun db' => ¬DispatchesCancelled db db')
      (not_dispatchesCancelled_of_jobs rfl) fun r db' hok => ?_
    rcases Board.dispatch_of_ok hok with ⟨-, rfl⟩ | ⟨j, job, hnext, dispatch⟩
    · exact not_dispatchesCancelled_of_jobs rfl
    · intro h
      obtain ⟨j', job', a', found, cancel, held, free⟩ := h.holds
      rcases dispatch.holds_iff.mp held with held | ⟨rfl, -⟩
      · exact free held
      obtain ⟨agent, hagent, hidle⟩ := Option.map_eq_some_iff.mp dispatch.idle
      obtain ⟨hjob, -, -⟩ := nextQueuedJob_some hnext
      rw [hjob, Option.some.injEq] at found
      simp [skips agent _ job hagent hidle hnext, ← found] at cancel

theorem dispatchesCancelled_step {op : DbOp} (step : op.Step db db') :
    ¬DispatchesCancelled db db' ↔ op.SkipsCancelled db := by
  rw [step]
  by_cases hd : ∃ a now, op = .dispatchQueuedJob a now
  · obtain ⟨a, now, rfl⟩ := hd
    exact dispatchesCancelled_dispatch db a now
  push Not at hd
  have skips : op.SkipsCancelled db := by
    cases op <;> first | trivial | exact absurd rfl (hd _ _)
  refine iff_of_true ?_ skips
  by_cases h : ∃ a e now, op = .assertIdle a e now
  · obtain ⟨a, e, now, rfl⟩ := h
    refine commit_induction (P := fun db' => ¬DispatchesCancelled db db')
      (not_dispatchesCancelled_of_jobs rfl) fun n db' hok => ?_
    obtain ⟨-, -, -, -, -, -, -, jobs⟩ := assertStateToIdleSync_ok hok
    exact not_dispatchesCancelled_of_jobs jobs
  · push Not at h
    exact not_dispatchesCancelled_of_move (Board.move_apply op hd h)

/-- A run never hands out a cancelled job exactly when every dispatch of it finds the
oldest QUEUED job of its IDLE agent without a cancel request. -/
theorem dispatchesCancelled_run {db db' : Db} {ts : List (Transition Db DbOp)}
    (run : Run DbOp.Step db ts db') :
    (∀ t ∈ ts, ¬DispatchesCancelled t.pre t.post) ↔ ∀ t ∈ ts, t.act.SkipsCancelled t.pre :=
  run.forall_transition_iff (fun _ _ _ _ _ => trivial)
    (fun _ _ _ _ step => dispatchesCancelled_step step) trivial

def cancelledOnce : List (Transition Db DbOp) :=
  trace DbOp.apply idleAgentDb [.dispatchQueuedJob "a1" 1, .requestCancel "j1" 2]

/-- A cancel request after the dispatch that is never requeued. -/
theorem dispatchesCancelled_run_once :
    (∀ t ∈ cancelledOnce, t.act.SkipsCancelled t.pre) ∧
      ∀ t ∈ cancelledOnce, ¬DispatchesCancelled t.pre t.post := by
  rw [cancelledOnce, dispatchesCancelled_run (Run.of_list _ _), and_self]
  simp only [trace, List.forall_mem_cons]
  refine ⟨?_, trivial, by simp⟩
  intro agent j job _ _ hnext
  have found : nextQueuedJob idleAgentDb "a1" = some ("j1", _) := rfl
  rw [found, Option.some.injEq, Prod.mk.injEq] at hnext
  rw [← hnext.2]

/-- Cancelled in flight, requeued before the send, and handed out again. -/
theorem dispatchesCancelled_after_requeue :
    ¬∀ (db db' : Db) (ts : List (Transition Db DbOp)), Run DbOp.Step db ts db' →
      ∀ t ∈ ts, ¬DispatchesCancelled t.pre t.post := by
  intro h
  have none := h _ _ _ (Run.of_list idleAgentDb
    [.dispatchQueuedJob "a1" 1, .requestCancel "j1" 2, .requeueBeforeSend "j1" "a1"
        "dispatch readiness recheck refused before send" 3, .dispatchQueuedJob "a1" 4])
  simp only [trace, List.forall_mem_cons] at none
  exact none.2.2.2.1 ⟨"j1", _, _, rfl, by decide, by decide, rfl, by decide⟩

end Ccbd
