import Ccbd.Audit.Trails

/-!
# Settlement

Between two consecutive dispatches a job is settled at most once, and what a settled job
has as its result stays. The first is read off the trail: once DISPATCHED, a job gets back
into the queue directly or over FAILED. It needs that nothing fails the job while it waits
in the queue, which only `mark_job_failed` could do.
-/

namespace Ccbd

open Lib

/-! ## Trails -/

def JobStatus.isSettled (s : JobStatus) : Bool := s = .completed || s = .cancelled || s = .failed

/-- The row records a change to COMPLETED, CANCELLED or FAILED. -/
def JobTransition.settles (r : JobTransition) : Bool := r.newStatus.any (·.isSettled)

/-- Between two consecutive dispatches there is at most one settlement. -/
def SettlesOnce (trail : List JobTransition) : Prop :=
  ∀ before r between r' after, trail = before ++ r :: (between ++ r' :: after) →
    r.Moves .queued .dispatched → r'.Moves .queued .dispatched →
    (∀ x ∈ between, ¬x.Moves .queued .dispatched) → between.countP (·.settles) ≤ 1

/-- Neither a failure in the queue nor a late completion. -/
def JobTransition.Ordinary (r : JobTransition) : Prop :=
  ¬r.Moves .queued .failed ∧ ¬r.Moves .failed .completed

/-- How often a job can still be settled on its way back into the queue, if it can get
there without a dispatch. -/
def JobStatus.settlementsLeft : JobStatus → Option Nat
  | queued | failed => some 0
  | dispatched => some 1
  | completed | cancelled => none

/-- An edge uses up the settlement it makes. -/
theorem JobStatus.settlementsLeft_of_edge {s t : JobStatus} (edge : s.edge t = true)
    (left : t.settlementsLeft = some n) (inQueue : (s, t) ≠ (.queued, .failed))
    (undispatched : (s, t) ≠ (.queued, .dispatched)) :
    ∃ m, s.settlementsLeft = some m ∧ n + t.isSettled.toNat ≤ m := by
  cases s <;> cases t <;> simp_all [JobStatus.edge, settlementsLeft, isSettled]
  all_goals omega

theorem exists_settlementsLeft {between : List JobTransition}
    (chain : (r :: (between ++ [r'])).IsChain fun r r' => r'.oldStatus = r.newStatus)
    (reached : r.newStatus = some s) (queued : r'.oldStatus = some .queued)
    (rows : ∀ x ∈ between, (x.IsEdge ∨ x.IsRequest) ∧ x.Ordinary ∧ ¬x.Moves .queued .dispatched) :
    ∃ n, s.settlementsLeft = some n ∧ between.countP (·.settles) ≤ n := by
  -- by induction on the rows: each takes the job to a status with fewer settlements left
  induction between generalizing r s with
  | nil =>
    have next : r'.oldStatus = r.newStatus := (List.isChain_cons_cons.mp chain).1
    rw [queued, reached] at next
    cases next
    exact ⟨0, rfl, Nat.le_refl 0⟩
  | cons m rest ih =>
    obtain ⟨next, chain⟩ := List.isChain_cons_cons.mp chain
    obtain ⟨pair, ordinary, undispatched⟩ := rows m List.mem_cons_self
    have old : m.oldStatus = some s := next.trans reached
    have rest_rows := fun x mem => rows x (List.mem_cons_of_mem m mem)
    rcases pair with ⟨s', t, ⟨old', new⟩, edge⟩ | ⟨⟨old', new⟩, -⟩
    · obtain rfl : s' = s := by simpa [old] using old'.symm
      obtain ⟨n, left, count⟩ := ih chain new rest_rows
      obtain ⟨total, most, used⟩ := JobStatus.settlementsLeft_of_edge edge left
        (by rintro ⟨⟩; exact ordinary.1 ⟨old, new⟩) (by rintro ⟨⟩; exact undispatched ⟨old, new⟩)
      have settles : m.settles = t.isSettled := by simp [JobTransition.settles, new]
      refine ⟨total, most, ?_⟩
      rw [List.countP_cons, settles]
      cases settled : t.isSettled <;> simp [settled] at used ⊢ <;> omega
    · obtain rfl : s = .dispatched := by simpa [old] using old'
      obtain ⟨n, left, count⟩ := ih chain new rest_rows
      refine ⟨n, left, ?_⟩
      simpa [JobTransition.settles, new, JobStatus.isSettled] using count

theorem FaithfulTrail.settlesOnce (faithful : FaithfulTrail trail status)
    (ordinary : ∀ r ∈ trail, r.Ordinary) : SettlesOnce trail := by
  rintro before r between r' after rfl dispatch redispatch undispatched
  have chain : (r :: (between ++ [r'])).IsChain fun r r' => r'.oldStatus = r.newStatus := by
    refine faithful.chain.infix ⟨before, after, ?_⟩
    simp
  have rows : ∀ x ∈ between,
      (x.IsEdge ∨ x.IsRequest) ∧ x.Ordinary ∧ ¬x.Moves .queued .dispatched := by
    intro x mem
    refine ⟨faithful.pairs x ?_, ordinary x (by simp [mem]), undispatched x mem⟩
    cases before <;> simp [mem]
  obtain ⟨n, left, count⟩ := exists_settlementsLeft chain dispatch.2 redispatch.1 rows
  cases left
  exact count

/-! ## Operations -/

/-- The operation fails a job that waits in the queue. -/
def DaemonOp.FailsQueued (d : Db) (j : String) : DaemonOp → Prop
  | db (.markJobFailed k _ _) => k = j ∧ (d.jobs.get? j).map (·.status) = some .queued
  | _ => False

theorem JobFile.Step.ordinary
    (step : Step E x x') (queued : (.queued, .failed) ∉ E) (late : (.failed, .completed) ∉ E)
    (rows : ∀ r ∈ x.trail, r.Ordinary) : ∀ r ∈ x'.trail, r.Ordinary := by
  have extended : ∀ {trail : List JobTransition} {row : JobTransition},
      (∀ r ∈ trail, r.Ordinary) → row.Ordinary → ∀ r ∈ trail ++ [row], r.Ordinary := by
    intro trail row rows last r mem
    rcases List.mem_append.mp mem with mem | mem
    · exact rows r mem
    · rwa [List.mem_singleton.mp mem]
  cases step with
  | touch => exact rows
  | create trail queued reports | ask trail dispatched reports =>
    refine extended rows ⟨?_, ?_⟩ <;> simp [reports.moves_iff]
  | move trail edge owner reports =>
    refine extended rows ⟨fun moves => queued ?_, fun moves => late ?_⟩ <;>
    · obtain ⟨old, new⟩ := reports.moves_iff.mp moves
      rwa [Option.some.inj old, Option.some.inj new] at edge

theorem DaemonOp.ordinary {op : DaemonOp} (owned : (d.file j).Owned) (spared : ¬op.FailsQueued d j)
    (rows : ∀ r ∈ d.trail j, r.Ordinary) : ∀ r ∈ (op.apply d).trail j, r.Ordinary := by
  have along : ∀ {E : List (JobStatus × JobStatus)} {d' : Db}, d.Files E d' →
      (.queued, .failed) ∉ E → (.failed, .completed) ∉ E → ∀ r ∈ d'.trail j, r.Ordinary := by
    intro E d' files queued late
    exact JobFile.kept_along (fun _ _ step => step.ordinary queued late) (files j) rows
  by_cases fails : ∃ k reason now, op = .db (.markJobFailed k reason now)
  · obtain ⟨k, reason, now, rfl⟩ := fails
    refine commit_induction (P := fun d' => ∀ r ∈ d'.trail j, r.Ordinary) rows fun n d' h => ?_
    rcases markJobFailedConnSync_files h with rfl | ⟨job, found, status, files, others⟩
    · exact rows
    · by_cases e : j = k
      · subst e
        have status : job.status = .dispatched := by
          refine status.resolve_left fun queued => spared ⟨rfl, ?_⟩
          rw [found, Option.map_some, queued]
        rw [status] at files
        exact along files (by simp) (by simp)
      · have same : d'.trail j = d.trail j := congrArg JobFile.trail (others j e)
        rwa [same]
  · have edges : (.queued, .failed) ∉ op.edges ∧ (.failed, .completed) ∉ op.edges := by
      cases op with
      | db op =>
        cases op with
        | markJobFailed => exact absurd ⟨_, _, _, rfl⟩ fails
        | _ => simp [DaemonOp.edges, DbOp.edges]
      | _ => simp [DaemonOp.edges]
    exact (op.change owned).kept (fun _ _ step => step.ordinary edges.1 edges.2) (by simp) rows

/-! ## Results -/

/-- The row has the status and the result of a job. -/
def JobFile.HasResult (job : Job) (file : JobFile) : Prop :=
  ∃ job', file.job = some job' ∧ job'.status = job.status ∧ job'.replyText = job.replyText ∧
    job'.completedAt = job.completedAt

theorem JobFile.Step.hasResult {job : Job}
    (step : Step E x x') (legal : ∀ e ∈ E, e.1.edge e.2 = true) (final : job.status.IsFinal)
    (h : x.HasResult job) : x'.HasResult job := by
  obtain ⟨job₁, found, status, reply, completed⟩ := h
  have final₁ : job₁.status.IsFinal := by rwa [status]
  cases step with
  | touch trail touched =>
    cases found
    obtain ⟨reply', completed'⟩ := touched.result final₁
    exact ⟨_, rfl, touched.status.trans status, reply'.trans reply, completed'.trans completed⟩
  | create => cases found
  | move trail edge =>
    cases found
    -- no edge leaves a final status
    have out := legal _ edge
    rcases final₁ with e | e <;> simp [e, JobStatus.edge] at out
  | ask trail dispatched =>
    cases found
    rcases final₁ with e | e <;> rw [e] at dispatched <;> cases dispatched

/-- The transition keeps the result of a settled job whose row it keeps. -/
def KeepsResult (j : String) (t : Transition Db DaemonOp) : Prop :=
  ∀ job job', t.pre.jobs.get? j = some job → t.post.jobs.get? j = some job' →
    ¬t.act.Replaces job.agentId → job.status.IsFinal →
    job'.status = job.status ∧ job'.replyText = job.replyText ∧ job'.completedAt = job.completedAt

theorem DaemonOp.keepsResult (op : DaemonOp) (owned : (d.file j).Owned) :
    KeepsResult j ⟨d, op, op.apply d⟩ := by
  intro job job' found found' kept final
  have steps : Relation.ReflTransGen (JobFile.Step op.edges) (d.file j) ((op.apply d).file j) := by
    have change := op.change owned
    have exists' : ((op.apply d).file j).job = some job' := found'
    revert change exists'
    generalize (op.apply d).file j = x'
    intro change exists'
    cases change with
    | steps h => exact h
    | gone => cases exists'
    | renewed h =>
      obtain ⟨owner, found'', replaces⟩ := h
      rw [found] at found''
      cases found''
      exact absurd replaces kept
  obtain ⟨job₁, found₁, same⟩ := JobFile.kept_along
    (fun _ _ step => step.hasResult op.edge_of_mem_edges final) steps ⟨job, found, rfl, rfl, rfl⟩
  cases found'.symm.trans found₁
  exact same

/-! ## Runs -/

/-- Every settled job keeps its result, and a job that nothing fails in the queue is
settled at most once between two dispatches. -/
theorem settlesOnce_run {d₀ d : Db} {ts : List (Transition Db DaemonOp)} {j : String}
    (start : (d₀.file j).Sound) (run : Run DaemonOp.Step d₀ ts d) :
    (∀ t ∈ ts, KeepsResult j t) ∧
      ((∀ r ∈ d₀.trail j, r.Ordinary) → (∀ t ∈ ts, ¬t.act.FailsQueued t.pre j) →
        SettlesOnce (d.trail j)) := by
  constructor
  · refine run.forall_transition (I := fun d => (d.file j).Sound) (C := fun _ _ => True)
      ?_ ?_ start fun _ _ => trivial
    · rintro d op d' sound - rfl
      exact op.sound sound
    · rintro d op d' sound - rfl
      exact op.keepsResult sound.toOwned
  · intro ordinary spared
    obtain ⟨sound, rows⟩ : (d.file j).Sound ∧ ∀ r ∈ d.trail j, r.Ordinary := by
      refine run.invariant (I := fun d => (d.file j).Sound ∧ ∀ r ∈ d.trail j, r.Ordinary)
        (C := fun d op => ¬op.FailsQueued d j) ?_ ⟨start, ordinary⟩ spared
      rintro d op d' ⟨sound, rows⟩ spared rfl
      exact ⟨op.sound sound, DaemonOp.ordinary sound.toOwned spared rows⟩
    cases found : d.jobs.get? j with
    | none =>
      have empty : d.trail j = [] := sound.absent found
      rw [empty]
      intro before r between r' after split
      simp at split
    | some job => exact (sound.faithful job found).settlesOnce rows

/-- A job fails with its agent UNKNOWN, is put back, dispatched again and fails again. -/
def failedTwice : List DaemonOp := firstDispatch ++
  [.db (.markUnknown "a1" "PANE_GONE" "e1" 5), .db (.assertIdle "a1" "e1" 6),
    .db (.requeueInterrupted
      { agentId := "a1", sessionId := "s1", provider := "claude", previousState := .busy
        crashedStateVersion := 1, interruptedJobId := some "j1"
        interruptedJobStatus := some .dispatched, interruptedJob := none, action := .revive
        reason := "AGENT_UNEXPECTED_EXIT" } 7),
    .db (.dispatchQueuedJob "a1" 8), .db (.markCrashed "a1" none "AGENT_UNEXPECTED_EXIT" 9)]

theorem settlesOnce_run_requeued :
    ((failedTwice.foldl DaemonOp.apply Db.oneSession).trail "j1").map
        (fun r => (r.oldStatus, r.newStatus)) =
      [(none, some .queued), (some .queued, some .dispatched), (some .dispatched, some .failed),
        (some .failed, some .queued), (some .queued, some .dispatched),
        (some .dispatched, some .failed)] ∧
      (∀ t ∈ trace DaemonOp.apply Db.oneSession failedTwice, KeepsResult "j1" t) ∧
      SettlesOnce ((failedTwice.foldl DaemonOp.apply Db.oneSession).trail "j1") := by
  have result := settlesOnce_run (Db.oneSession_sound "j1") (Run.of_list _ failedTwice)
  refine ⟨by decide +kernel, result.1, result.2 (fun _ mem => nomatch mem) ?_⟩
  simp [failedTwice, firstDispatch, trace, DaemonOp.FailsQueued]

end Ccbd
