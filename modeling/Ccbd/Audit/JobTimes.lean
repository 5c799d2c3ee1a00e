import Ccbd.Audit.Writes

/-!
# The times of a job

The times and the reply of a job go with its status: `Job.TimesFollow` says how. The gate
writes the times; the reply is written before the gate and no requeue takes it back. The rule
holds for a job that goes back to the queue because no FAILED job has a reply: only a
settlement writes one, and it does not end in FAILED.
-/

namespace Ccbd

open Lib

/-- The columns that a job of this status has to have. -/
def Job.TimesFollow (job : Job) : Prop :=
  match job.status with
  | .queued => job.dispatchedAt = none ∧ job.dispatchedAtSeqId = none ∧ job.completedAt = none ∧
      job.replyText = none
  | .dispatched => job.dispatchedAt.isSome ∧ job.dispatchedAtSeqId.isSome ∧
      job.completedAt = none ∧ job.replyText = none
  | .completed | .cancelled | .failed => job.completedAt.isSome

/-- The rule that the operations keep: a FAILED job has no reply either. -/
structure Job.Timed (job : Job) : Prop where
  follow : job.TimesFollow
  unanswered : job.status = .failed → job.replyText = none

def Db.JobsTimed (d : Db) : Prop := ∀ j job, d.jobs.get? j = some job → job.Timed

/-! ## One job -/

theorem edge_sources {s t : JobStatus} (edge : s.edge t = true) :
    match t with
    | .dispatched => s = .queued
    | .failed => s = .queued ∨ s = .dispatched
    | .queued => s = .dispatched ∨ s = .failed
    | _ => True := by
  cases s <;> cases t <;> simp [JobStatus.edge] at edge ⊢

namespace Job.Timed

variable {job : Job} {now : Int}

theorem of_columns {job' : Job} (timed : job.Timed) (status : job'.status = job.status)
    (dispatchedAt : job'.dispatchedAt = job.dispatchedAt)
    (seqId : job'.dispatchedAtSeqId = job.dispatchedAtSeqId)
    (completedAt : job'.completedAt = job.completedAt) (reply : job'.replyText = job.replyText) :
    job'.Timed := by
  obtain ⟨follow, unanswered⟩ := timed
  refine ⟨?_, ?_⟩
  · unfold TimesFollow at *
    rwa [status, dispatchedAt, seqId, completedAt, reply]
  · rwa [status, reply]

theorem setErrorReason (timed : job.Timed) (e : Option String) : (job.setErrorReason e).Timed :=
  timed.of_columns rfl rfl rfl rfl rfl

theorem unanswered_of_open (timed : job.Timed) (status : job.status = .queued ∨
    job.status = .dispatched ∨ job.status = .failed) : job.replyText = none := by
  obtain ⟨follow, unanswered⟩ := timed
  unfold TimesFollow at follow
  rcases status with queued | dispatched | failed
  · rw [queued] at follow
    exact follow.2.2.2
  · rw [dispatched] at follow
    exact follow.2.2.2
  · exact unanswered failed

theorem fail (timed : job.Timed) (status : job.status = .queued ∨ job.status = .dispatched) :
    (job.enter .failed now).Timed := by
  refine ⟨rfl, fun _ => timed.unanswered_of_open ?_⟩
  grind

theorem settle (job : Job)
    (ends : toStatus = .completed ∨ toStatus = .cancelled) : (job.enter toStatus now).Timed := by
  rcases ends with rfl | rfl
  · exact ⟨rfl, fun failed => by cases failed⟩
  · exact ⟨rfl, fun failed => by cases failed⟩

theorem requeue (timed : job.Timed) (status : job.status = .dispatched ∨ job.status = .failed) :
    (job.enter .queued now).Timed := by
  have unanswered := timed.unanswered_of_open (.inr status)
  exact ⟨⟨rfl, rfl, rfl, unanswered⟩, fun failed => by cases failed⟩

theorem dispatch (timed : job.Timed) (status : job.status = .queued) (seqId : Nat) :
    ((job.enter .dispatched now).setDispatchedSeqId seqId).Timed := by
  have follow := timed.follow
  unfold TimesFollow at follow
  rw [status] at follow
  have columns : (job.enter .dispatched now).setDispatchedSeqId seqId =
      { job with
        status := .dispatched, dispatchedAt := some now, dispatchedAtSeqId := some seqId } := rfl
  exact ⟨⟨rfl, rfl, follow.2.2⟩, fun failed => by cases failed⟩

theorem move (timed : job.Timed) (m : JobMove) (legal : job.status.edge m.target = true) :
    (m.apply now job).Timed := by
  have sources := edge_sources legal
  cases m with
  | dispatch seqId => exact timed.dispatch sources seqId
  | settle reply cancelled =>
    cases cancelled
    · exact settle (job.setReplyText reply) (.inl rfl)
    · exact settle (job.setReplyText reply) (.inr rfl)
  | fail reason => exact (timed.setErrorReason _).fail sources
  | cancel => exact settle job (.inr rfl)
  | requeue errorReason =>
    have again : ((job.setErrorReason errorReason).enter .queued now).Timed :=
      (timed.setErrorReason errorReason).requeue sources
    exact again

end Job.Timed

/-! ## The table -/

namespace Db.JobsTimed

variable {d d' : Db} {j : String}

theorem of_jobs (timed : d.JobsTimed) (jobs : d'.jobs = d.jobs) : d'.JobsTimed := by
  unfold JobsTimed
  rw [jobs]
  exact timed

theorem modify (timed : d.JobsTimed) (jobs : d'.jobs = d.jobs.modify j f)
    (keeps : ∀ job, d.jobs.get? j = some job → job.Timed → (f job).Timed) : d'.JobsTimed := by
  intro k job' found'
  rw [jobs, Table.get?_modify] at found'
  split_ifs at found' with e
  · subst e
    obtain ⟨job, found, rfl⟩ := Option.map_eq_some_iff.mp found'
    exact keeps job found (timed k job found)
  · exact timed k job' found'

theorem insert (timed : d.JobsTimed) (fresh : d.jobs.get? j = none)
    (jobs : d'.jobs = d.jobs.insert j job) (new : job.Timed) : d'.JobsTimed := by
  intro k job' found
  rw [jobs, Table.get?_insert fresh] at found
  split_ifs at found
  · cases found
    exact new
  · exact timed k job' found

theorem cascadeAgent (timed : d.JobsTimed) (a : String) : (d.cascadeAgent a).JobsTimed := by
  intro k job found
  rw [Db.get?_cascadeAgent_jobs, Option.filter_eq_some_iff] at found
  exact timed k job found.1

end Db.JobsTimed

/-! ## The operations -/

section Writes

variable {S : Scope} {d d' : Db}

theorem SideWrite.timed (h : SideWrite S d d') (timed : d.JobsTimed) : d'.JobsTimed := by
  cases h with
  | @move j job row m now found edge legal =>
    refine timed.modify rfl fun job' found' good => good.move m ?_
    rw [found, Option.some.injEq] at found'
    exact found' ▸ legal
  | create fresh new =>
    obtain ⟨queued, dispatchedAt, seqId, completedAt, reply⟩ := new
    refine timed.insert fresh rfl ⟨?_, fun failed => by simp [queued] at failed⟩
    unfold Job.TimesFollow
    rw [queued]
    exact ⟨dispatchedAt, seqId, completedAt, reply⟩
  | ask => exact timed.modify rfl fun _ _ good => good.of_columns rfl rfl rfl rfl rfl
  | mark j marks =>
    refine timed.modify rfl fun job _ good => ?_
    obtain ⟨-, status, dispatchedAt, seqId, completedAt, reply⟩ := marks job
    exact good.of_columns status dispatchedAt seqId completedAt reply
  | note | review | cite | intent => exact timed.of_jobs rfl

end Writes

theorem DaemonOp.Writes.timed (h : Writes op d d') : d.JobsTimed → d'.JobsTimed :=
  h.keeps (fun _ _ _ write => write.timed) (fun _ _ _ _ timed => timed.of_jobs rfl)
    (fun _ _ timed => timed.of_jobs rfl) fun _ a timed => timed.cascadeAgent a

/-- In every database of a run the times of every job follow its status. -/
theorem jobTimes_follow_run {d₀ d : Db} {ts : List (Transition Db DaemonOp)}
    (start : d₀.JobsTimed) (run : Run DaemonOp.Step d₀ ts d) :
    ∀ t ∈ ts, ∀ j job, t.post.jobs.get? j = some job → job.TimesFollow := by
  refine Run.forall_transition (I := Db.JobsTimed) (C := fun _ _ => True) ?_ ?_ run start
    fun _ _ => trivial
  · rintro d op d' timed - rfl
    exact (op.writes d).timed timed
  · rintro d op d' timed - rfl j job found
    exact ((op.writes d).timed timed j job found).follow

theorem Db.oneSession_jobsTimed : Db.oneSession.JobsTimed := by
  intro j job found
  cases found

/-- A job that is dispatched and put back into the queue before its prompt is sent. -/
theorem jobTimes_follow_run_requeued :
    ∃ d ts, Run DaemonOp.Step Db.oneSession ts d ∧
      (∀ t ∈ ts, ∀ j job, t.post.jobs.get? j = some job → job.TimesFollow) ∧
      ∃ job, d.jobs.get? "j1" = some job ∧ job.status = .queued := by
  have run := Run.of_list (f := DaemonOp.apply) Db.oneSession
    (firstDispatch ++ [.db (.requeueBeforeSend "j1" "a1" "PANE_NOT_READY" 5)])
  exact ⟨_, _, run, jobTimes_follow_run Db.oneSession_jobsTimed run, _, rfl, rfl⟩

end Ccbd
