import Ccbd.Audit.Files
import Mathlib.Data.List.Chain

/-!
# The trail of a job

The `job_transitions` rows of a job tell its whole history: they start with its creation,
each row takes up the status the row before it left, and the last one tells the status of
the job. Rows leave a trail only together with the job.
-/

namespace Ccbd

open Lib

/-! ## What the daemon does to a file -/

/-- The rows belong to the owner of the job; a missing job has none. -/
structure JobFile.Owned (file : JobFile) : Prop where
  absent : file.job = none → file.trail = []
  owner : ∀ job, file.job = some job → ∀ r ∈ file.trail, r.agentId = job.agentId

/-- An operation makes steps, or deletes the file, or replaces it by a new one. -/
inductive JobFile.Change (E : List (JobStatus × JobStatus)) (replaced : Prop) :
    JobFile → JobFile → Prop
  | steps {x x' : JobFile} (h : Relation.ReflTransGen (Step E) x x') : Change E replaced x x'
  | gone (x : JobFile) : Change E replaced x ⟨none, []⟩
  | renewed (x : JobFile) {x' : JobFile} (h : replaced)
      (fresh : Relation.ReflTransGen (Step E) ⟨none, []⟩ x') : Change E replaced x x'

variable {s t : JobStatus} {trail : List JobTransition} {replaced : Prop} {owner : String}

theorem JobFile.kept_along {P : JobFile → Prop} (keeps : ∀ x x', Step E x x' → P x → P x')
    (steps : Relation.ReflTransGen (Step E) x x') (start : P x) : P x' := by
  induction steps with
  | refl => exact start
  | tail _ last ih => exact keeps _ _ last ih

theorem JobFile.Change.kept {P : JobFile → Prop} (h : Change E replaced x x')
    (keeps : ∀ x x', Step E x x' → P x → P x') (empty : P ⟨none, []⟩) (start : P x) : P x' := by
  cases h with
  | steps h => exact kept_along keeps h start
  | gone => exact empty
  | renewed _ fresh => exact kept_along keeps fresh empty

section Daemon

variable {d d' : Db} {a j : String}

/-- The cascade of a deleted agent takes its jobs with all their rows, and no other row. -/
theorem file_cascadeAgent (owned : (d.file j).Owned) (a : String) :
    (d.cascadeAgent a).file j = d.file j ∨
      (∃ job, d.jobs.get? j = some job ∧ job.agentId = a) ∧
        (d.cascadeAgent a).file j = ⟨none, []⟩ := by
  have rows : (d.cascadeAgent a).trail j =
      (d.trail j).filter fun t => !(decide (t.agentId = a) || d.ownsJob a j) := by
    simp only [Db.trail, Db.cascadeAgent, AutoTable.select, AutoTable.deleteWhere,
      List.filter_filter, List.filter_map]
    congr 1
    refine List.filter_congr fun r _ => ?_
    by_cases e : r.2.jobId = j <;> simp [e]
  simp only [Db.file, rows, Db.get?_cascadeAgent_jobs]
  cases found : d.jobs.get? j with
  | none =>
    have empty : d.trail j = [] := owned.absent found
    exact .inl (by rw [empty]; rfl)
  | some job =>
    have owner : ∀ r ∈ d.trail j, r.agentId = job.agentId := owned.owner job found
    by_cases e : job.agentId = a
    · have gone :
          (d.trail j).filter (fun t => !(decide (t.agentId = a) || d.ownsJob a j)) = [] := by
        rw [List.filter_eq_nil_iff]
        intro r mem
        simp [owner r mem, e]
      exact .inr ⟨⟨job, rfl, e⟩, by rw [gone]; simp [e]⟩
    · have kept : (d.trail j).filter (fun t => !(decide (t.agentId = a) || d.ownsJob a j)) =
          d.trail j := by
        rw [List.filter_eq_self]
        intro r mem
        simp [owner r mem, e, Db.ownsJob, found]
      exact .inl (by rw [kept]; simp [e])

theorem file_deleteAgent (owned : (d.file j).Owned) (h : d.deleteAgent a context = .ok d') :
    d'.file j = d.file j ∨
      (∃ job, d.jobs.get? j = some job ∧ job.agentId = a) ∧ d'.file j = ⟨none, []⟩ := by
  obtain ⟨-, rfl⟩ | rfl := Db.deleteAgent_ok h
  · exact .inl rfl
  · exact file_cascadeAgent owned a

end Daemon

namespace DaemonOp

theorem Writes.files (h : Writes op d d') (keeps : ¬op.DeletesAgents) : d.Files op.edges d' := by
  cases h with
  | turns edges writes => exact edges ▸ writes.files
  | rows | event => exact .of_tables rfl rfl
  | freed deletes | replaced deletes => exact absurd deletes keeps

variable {d : Db} {j : String}

theorem Writes.change (owned : (d.file j).Owned) (h : Writes op d d') :
    JobFile.Change op.edges (∃ job, d.jobs.get? j = some job ∧ op.Replaces job.agentId)
      (d.file j) (d'.file j) := by
  cases h with
  | turns edges writes => exact .steps (edges ▸ writes.files j)
  | rows | event => exact .steps .refl
  | @freed a context d₁ _ deleted =>
    show JobFile.Change _ _ _ (d₁.file j)
    rcases file_deleteAgent owned deleted with same | ⟨-, gone⟩
    · rw [same]
      exact .steps .refl
    · rw [gone]
      exact .gone _
  | replaced _ replaces deleted agents specs requeued =>
    have steps := requeued.files j
    rcases file_deleteAgent owned deleted with same | ⟨⟨job, found, rfl⟩, gone⟩
    · exact .steps (same ▸ steps)
    · exact .renewed _ ⟨job, found, replaces⟩ (gone ▸ steps)

theorem change (owned : (d.file j).Owned) (op : DaemonOp) :
    JobFile.Change op.edges (∃ job, d.jobs.get? j = some job ∧ op.Replaces job.agentId)
      (d.file j) ((op.apply d).file j) :=
  (op.writes d).change owned

end DaemonOp

/-! ## Faithful trails -/

/-- The row records the change from `s` to `t`. -/
def JobTransition.Moves (r : JobTransition) (s t : JobStatus) : Prop :=
  r.oldStatus = some s ∧ r.newStatus = some t

theorem JobTransition.Reports.moves_iff {r : JobTransition} {old new : Option JobStatus}
    (h : r.Reports owner old new) : r.Moves s t ↔ old = some s ∧ new = some t := by
  rw [Moves, h.old, h.new]

/-- The row records an edge of the transition table. -/
def JobTransition.IsEdge (r : JobTransition) : Prop := ∃ s t, r.Moves s t ∧ s.edge t = true

/-- The row records a cancel request of a dispatched job. -/
def JobTransition.IsRequest (r : JobTransition) : Prop :=
  r.Moves .dispatched .dispatched ∧ r.IsCancelRequest

structure FaithfulTrail (trail : List JobTransition) (status : JobStatus) : Prop where
  first : trail.head?.map (fun r => (r.oldStatus, r.newStatus)) = some (none, some .queued)
  chain : trail.IsChain fun r r' => r'.oldStatus = r.newStatus
  pairs : ∀ r ∈ trail.tail, r.IsEdge ∨ r.IsRequest
  last : trail.getLast?.map (·.newStatus) = some (some status)

theorem faithfulTrail_singleton (reports : row.Reports owner none (some .queued)) :
    FaithfulTrail [row] .queued where
  first := by simp [reports.old, reports.new]
  chain := List.isChain_singleton row
  pairs := by simp
  last := by simp [reports.new]

theorem FaithfulTrail.append (h : FaithfulTrail trail s) (moves : row.Moves s t)
    (pair : row.IsEdge ∨ row.IsRequest) : FaithfulTrail (trail ++ [row]) t := by
  obtain ⟨first, rest, rfl⟩ : ∃ first rest, trail = first :: rest := by
    cases trail with
    | nil => cases h.first
    | cons first rest => exact ⟨first, rest, rfl⟩
  refine ⟨h.first, ?_, ?_, ?_⟩
  · refine List.isChain_append.mpr ⟨h.chain, List.isChain_singleton row, ?_⟩
    intro r newest r' here
    have row' : r' = row := by simpa using here.symm
    have status : r.newStatus = some s := by
      have last := h.last
      rw [Option.mem_def.mp newest, Option.map_some] at last
      exact Option.some.inj last
    rw [row', moves.1, status]
  · intro r mem
    rcases List.mem_append.mp (show r ∈ rest ++ [row] from mem) with mem | mem
    · exact h.pairs r mem
    · rwa [List.mem_singleton.mp mem]
  · rw [List.getLast?_concat, Option.map_some, moves.2]

structure JobFile.Sound (file : JobFile) : Prop extends file.Owned where
  faithful : ∀ job, file.job = some job → FaithfulTrail file.trail job.status

theorem JobFile.sound_empty : JobFile.Sound ⟨none, []⟩ where
  absent _ := rfl
  owner _ found := nomatch found
  faithful _ found := nomatch found

theorem JobFile.sound_some {job : Job} :
    JobFile.Sound ⟨some job, trail⟩ ↔
      (∀ r ∈ trail, r.agentId = job.agentId) ∧ FaithfulTrail trail job.status := by
  constructor
  · intro h
    exact ⟨h.owner job rfl, h.faithful job rfl⟩
  · rintro ⟨owner, faithful⟩
    refine ⟨⟨nofun, ?_⟩, ?_⟩ <;> rintro _ ⟨⟩
    · exact owner
    · exact faithful

theorem JobFile.Step.sound (step : Step E x x')
    (legal : ∀ e ∈ E, e.1.edge e.2 = true) (sound : x.Sound) : x'.Sound := by
  have extended : ∀ {trail : List JobTransition} {row : JobTransition} {owner : String},
      (∀ r ∈ trail, r.agentId = owner) → row.agentId = owner →
        ∀ r ∈ trail ++ [row], r.agentId = owner := by
    intro trail row owner rows last r mem
    rcases List.mem_append.mp mem with mem | mem
    · exact rows r mem
    · rwa [List.mem_singleton.mp mem]
  cases step with
  | touch trail touched =>
    rw [sound_some] at sound ⊢
    rwa [touched.status, touched.owner]
  | create trail queued reports =>
    have empty : trail = [] := sound.absent rfl
    subst empty
    rw [sound_some, queued]
    exact ⟨extended (fun _ mem => nomatch mem) reports.owner, faithfulTrail_singleton reports⟩
  | move trail edge owner reports =>
    rw [sound_some] at sound ⊢
    rw [owner]
    have moves := And.intro reports.old reports.new
    exact ⟨extended sound.1 reports.owner, sound.2.append moves (.inl ⟨_, _, moves, legal _ edge⟩)⟩
  | ask trail dispatched reports request =>
    rw [sound_some, dispatched] at sound
    rw [sound_some, dispatched]
    have moves := And.intro reports.old reports.new
    exact ⟨extended sound.1 reports.owner, sound.2.append moves (.inr ⟨moves, request⟩)⟩

/-- Every operation makes changes of the transition table only. -/
theorem DaemonOp.edge_of_mem_edges (op : DaemonOp) : ∀ e ∈ op.edges, e.1.edge e.2 = true := by
  cases op with
  | db op => cases op <;> simp [edges, DbOp.edges, JobStatus.edge]
  | _ => simp [edges, JobStatus.edge]

theorem DaemonOp.sound (op : DaemonOp) (sound : (d.file j).Sound) : ((op.apply d).file j).Sound :=
  (op.change sound.toOwned).kept (fun _ _ step => step.sound op.edge_of_mem_edges)
    JobFile.sound_empty sound

/-- After every run of the daemon the trail of every job is faithful. -/
theorem faithfulTrail_run {d₀ d : Db} {ts : List (Transition Db DaemonOp)}
    (start : ∀ j, (d₀.file j).Sound) (run : Run DaemonOp.Step d₀ ts d) :
    ∀ j job, d.jobs.get? j = some job → FaithfulTrail (d.trail j) job.status := by
  intro j job found
  have sound : (d.file j).Sound := by
    refine run.invariant (I := fun d => (d.file j).Sound) (C := fun _ _ => True) ?_ (start j)
      fun _ _ => trivial
    rintro d op d' sound - rfl
    exact op.sound sound
  exact sound.faithful job found

theorem Db.oneSession_sound (j : String) : (Db.oneSession.file j).Sound := JobFile.sound_empty

/-- A job is dispatched, asked to cancel and fails with its agent. -/
def failedJobDb : Db :=
  List.foldl DaemonOp.apply Db.oneSession (firstDispatch ++
    [.db (.requestCancel "j1" 5), .db (.markCrashed "a1" none "AGENT_UNEXPECTED_EXIT" 6)])

theorem faithfulTrail_run_failed :
    (failedJobDb.jobs.get? "j1").map (·.status) = some .failed ∧
      (failedJobDb.trail "j1").map (fun r => (r.oldStatus, r.newStatus)) =
        [(none, some .queued), (some .queued, some .dispatched),
          (some .dispatched, some .dispatched), (some .dispatched, some .failed)] ∧
      ∀ j job, failedJobDb.jobs.get? j = some job →
        FaithfulTrail (failedJobDb.trail j) job.status :=
  ⟨by decide +kernel, by decide +kernel, faithfulTrail_run Db.oneSession_sound (Run.of_list _ _)⟩

end Ccbd
