import Ccbd.Audit.Writes

/-!
# The file of a job

The file of a job is its row together with its rows in `job_transitions`. All the operations
on running agents do to a file is a sequence of four steps: columns that are not the status,
the creation of the job, a change of status in the scope of the operation with the row that
records it, and the row of a cancel request.
-/

namespace Ccbd

open Lib

/-- The `job_transitions` rows of a job, oldest first. -/
def Db.trail (d : Db) (jobId : String) : List JobTransition :=
  (d.jobTransitions.select fun _ t => t.jobId = jobId).map Prod.snd

structure JobFile where
  job : Option Job
  trail : List JobTransition

def Db.file (d : Db) (jobId : String) : JobFile := ⟨d.jobs.get? jobId, d.trail jobId⟩

def JobStatus.IsFinal (s : JobStatus) : Prop := s = .completed ∨ s = .cancelled

/-- The status and the owner stay, and of a settled job the result. -/
structure Job.Touched (job job' : Job) : Prop where
  status : job'.status = job.status
  owner : job'.agentId = job.agentId
  result : job.status.IsFinal → job'.replyText = job.replyText ∧ job'.completedAt = job.completedAt

inductive JobFile.Step (edges : List (JobStatus × JobStatus)) : JobFile → JobFile → Prop
  | touch {job job' : Job} (trail : List JobTransition) (h : job.Touched job') :
      Step edges ⟨some job, trail⟩ ⟨some job', trail⟩
  | create {job : Job} {row : JobTransition} (trail : List JobTransition)
      (queued : job.status = .queued) (reports : row.Reports job.agentId none (some .queued)) :
      Step edges ⟨none, trail⟩ ⟨some job, trail ++ [row]⟩
  | move {job job' : Job} {row : JobTransition} (trail : List JobTransition)
      (edge : (job.status, job'.status) ∈ edges) (owner : job'.agentId = job.agentId)
      (reports : row.Reports job.agentId (some job.status) (some job'.status)) :
      Step edges ⟨some job, trail⟩ ⟨some job', trail ++ [row]⟩
  | ask {job : Job} {row : JobTransition} (trail : List JobTransition)
      (dispatched : job.status = .dispatched)
      (reports : row.Reports job.agentId (some .dispatched) (some .dispatched))
      (request : row.IsCancelRequest) : Step edges ⟨some job, trail⟩ ⟨some job, trail ++ [row]⟩

open Db

theorem Db.file_modifyJob_of_ne {d : Db} (h : j ≠ jobId) :
    (d.modifyJob jobId f).file j = d.file j := by
  simp [file, trail, modifyJob, Table.get?_modify_of_ne _ _ h]

/-- Every file makes steps along the edges. -/
def Db.Files (edges : List (JobStatus × JobStatus)) (d d' : Db) : Prop :=
  ∀ j, Relation.ReflTransGen (JobFile.Step edges) (d.file j) (d'.file j)

/-! ## Rules -/

namespace Db.Files

variable {E : List (JobStatus × JobStatus)} {d : Db}

theorem refl (d : Db) : Files E d d := fun _ => .refl

theorem trans (h : Files E d d') (h' : Files E d' d'') : Files E d d'' :=
  fun j => (h j).trans (h' j)

theorem of_tables (jobs : d'.jobs = d.jobs) (trs : d'.jobTransitions = d.jobTransitions) :
    Files E d d' := by
  intro j
  have same : d'.file j = d.file j := by simp only [file, trail, jobs, trs]
  rw [same]

theorem modifyJob (h : ∀ job, d.jobs.get? jobId = some job → job.Touched (f job)) :
    Files E d (d.modifyJob jobId f) := by
  intro j
  by_cases e : j = jobId
  · subst e
    cases found : d.jobs.get? j with
    | none =>
      have same : (d.modifyJob j f).file j = d.file j := by
        simp [Db.file, found, Db.trail, Db.modifyJob]
      rw [same]
    | some job =>
      have before : d.file j = ⟨some job, d.trail j⟩ := by simp only [Db.file, found]
      have after : (d.modifyJob j f).file j = ⟨some (f job), d.trail j⟩ := by
        simp [Db.file, found, Db.trail, Db.modifyJob]
      rw [before, after]
      exact .single (.touch _ (h job found))
  · rw [Db.file_modifyJob_of_ne e]

end Db.Files

theorem Db.trail_appendJobTransition (d : Db) (t : JobTransition) (j : String) :
    (d.appendJobTransition t).trail j = if t.jobId = j then d.trail j ++ [t] else d.trail j := by
  by_cases e : t.jobId = j <;>
    simp [trail, appendJobTransition, AutoTable.append, AutoTable.select, e]

theorem Db.file_appendJobTransition (d : Db) (row : JobTransition) (j : String) :
    (d.appendJobTransition row).file j =
      if row.jobId = j then ⟨(d.file j).job, (d.file j).trail ++ [row]⟩ else d.file j := by
  simp only [file, trail_appendJobTransition]
  split_ifs <;> rfl

/-! ## What is written to the files -/

section Writes

variable {d : Db} {j : String}

theorem Db.file_of_some (found : d.jobs.get? j = some job) : d.file j = ⟨some job, d.trail j⟩ := by
  simp [file, found]

/-- A job is written together with a row about it. -/
theorem Db.Files.recorded {d₁ : Db} (others : ∀ k, k ≠ j → d₁.file k = d.file k)
    (rowJob : row.jobId = j) (steps : Relation.ReflTransGen (JobFile.Step E) (d.file j)
      ⟨(d₁.file j).job, (d₁.file j).trail ++ [row]⟩) : d.Files E (d₁.appendJobTransition row) := by
  intro k
  rw [file_appendJobTransition]
  split_ifs with e
  · have here : k = j := e.symm.trans rowJob
    subst here
    exact steps
  · rw [others k fun here => e (rowJob.trans here.symm)]

theorem SideWrite.files (h : SideWrite S d d') : d.Files S.edges d' := by
  cases h with
  | @move j job row m now found edge legal rowJob reports =>
    refine .recorded (fun k other => file_modifyJob_of_ne other) rowJob ?_
    have moved : (d.modifyJob j (m.apply now)).file j = ⟨some (m.apply now job), d.trail j⟩ := by
      simp [file, found, trail, modifyJob]
    rw [file_of_some found, moved]
    rw [← m.apply_status now job] at edge reports
    exact .single (.move _ edge (m.apply_agentId now job) reports)
  | @create id job row fresh new rowJob reports =>
    have inserted : ∀ k, (d.jobs.insert id job).get? k = if k = id then some job else d.jobs.get? k :=
      Table.get?_insert fresh job
    refine .recorded (fun k other => ?_) rowJob ?_
    · simp [file, inserted, other, trail]
    · have before : d.file id = ⟨none, d.trail id⟩ := by simp only [file, fresh]
      have after : ({ d with jobs := d.jobs.insert id job } : Db).file id =
          ⟨some job, d.trail id⟩ := by simp [file, inserted, trail]
      rw [before, after]
      exact .single (.create _ new.1 reports)
  | @ask j job row found dispatched rowJob reports request =>
    refine .recorded (fun k other => file_modifyJob_of_ne other) rowJob ?_
    have asked : (d.modifyJob j Job.requestCancel).file j = ⟨some job.requestCancel, d.trail j⟩ := by
      simp [file, found, trail, modifyJob]
    rw [file_of_some found, asked]
    refine .tail (.single (.touch _ ?_)) (.ask _ dispatched reports request)
    exact ⟨rfl, rfl, fun _ => ⟨rfl, rfl⟩⟩
  | mark j marks =>
    exact .modifyJob fun job _ => ⟨(marks job).status, (marks job).owner,
      fun _ => ⟨(marks job).replyText, (marks job).completedAt⟩⟩
  | note | review | cite | intent => exact .of_tables rfl rfl

theorem SideWrites.files (h : SideWrites S d d') : d.Files S.edges d' :=
  h.lift .refl (fun _ _ _ => .trans) fun _ _ => SideWrite.files

theorem Turn.files (h : Turn S a d d') : d.Files S.edges d' :=
  h.lift .refl (fun _ _ _ => .trans) (fun _ _ => SideWrite.files)
    (fun _ _ _ _ _ _ _ => .of_tables rfl rfl) (fun _ _ _ => .of_tables rfl rfl)
    fun _ _ _ => .of_tables rfl rfl

theorem Turns.files (h : Turns S ids d d') : d.Files S.edges d' :=
  h.lift .refl (fun _ _ _ => .trans) fun _ _ _ => Turn.files

end Writes

theorem markJobFailedConnSync_files (h : markJobFailedConnSync d jobId reason now = .ok (n, d')) :
    d' = d ∨ ∃ job, d.jobs.get? jobId = some job ∧
      (job.status = .queued ∨ job.status = .dispatched) ∧ d.Files [(job.status, .failed)] d' ∧
      ∀ j, j ≠ jobId → d'.file j = d.file j := by
  obtain ⟨-, rfl, -⟩ | ⟨-, job, found, status, gate⟩ := guarded_ok h
  · exact .inl rfl
  · have side : SideWrites { edges := [(job.status, .failed)] } d d' :=
      transitJobState_failed_side (.head _) gate
    refine .inr ⟨job, found, status, side.files, fun j other => ?_⟩
    obtain ⟨_, row, -, -, -, hrow, -, rfl⟩ := transitJobState_reports gate
    rw [file_appendJobTransition, if_neg fun e => other (e.symm.trans hrow),
      file_modifyJob_of_ne other, file_modifyJob_of_ne other]

end Ccbd
