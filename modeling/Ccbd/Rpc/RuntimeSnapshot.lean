import Ccbd.Db.Jobs

/-!
# Jobs in a runtime snapshot

A snapshot of a workspace lists its live jobs and the recently settled ones, the oldest first
and at most 500 of them. A live job is left out as soon as 500 listed jobs are older.
-/

namespace Ccbd

open Lib

namespace RuntimeSnapshot

/-- The agent is of a session in the workspace; no workspace stands for all of them. -/
def inWorkspace (db : Db) (workspacePath : Option String) (agentId : String) : Bool :=
  (db.agents.get? agentId).any fun agent =>
    (db.sessions.get? agent.sessionId).any fun session =>
      workspacePath.all (session.absolutePath = ·)

def isLive (job : Job) : Bool := job.status = .queued || job.status = .dispatched

/-- Live, or settled since the cutoff. -/
def isListed (cutoff : Int) (job : Job) : Bool :=
  isLive job || cutoff ≤ job.completedAt.getD job.createdAt

/-- `ORDER BY created_at ASC, id ASC`. -/
def createdOrder (x y : String × Job) : Bool :=
  x.2.createdAt < y.2.createdAt || (x.2.createdAt = y.2.createdAt && x.1 ≤ y.1)

def isSelected (db : Db) (workspacePath : Option String) (cutoff : Int) (job : Job) : Bool :=
  inWorkspace db workspacePath job.agentId && isListed cutoff job

def queryRuntimeJobs (db : Db) (workspacePath : Option String) (cutoff : Int) :
    List (String × Job) :=
  (db.jobs.selectOrderBy (fun _ job => isSelected db workspacePath cutoff job) createdOrder).take 500

/-- How many jobs that the query selects come before a job. -/
def rank (db : Db) (workspacePath : Option String) (cutoff : Int) (row : String × Job) : Nat :=
  (db.jobs.select fun _ job => isSelected db workspacePath cutoff job).countP
    fun other => !createdOrder row other

instance : IsTrans (String × Job) (createdOrder · ·) where
  trans a b c := by
    simp only [createdOrder, Bool.or_eq_true, Bool.and_eq_true, decide_eq_true_eq]
    grind [String.le_trans]

instance : Std.Total (α := String × Job) (createdOrder · ·) where
  total a b := by
    simp only [createdOrder, Bool.or_eq_true, Bool.and_eq_true, decide_eq_true_eq]
    grind [String.le_total]

theorem eq_of_createdOrder (le : createdOrder x y = true) (ge : createdOrder y x = true) :
    x.1 = y.1 := by
  simp only [createdOrder, Bool.or_eq_true, Bool.and_eq_true, decide_eq_true_eq] at le ge
  grind [String.le_antisymm]

theorem mem_queryRuntimeJobs_iff (found : db.jobs.get? jobId = some job)
    (selected : isSelected db workspacePath cutoff job = true) :
    (jobId, job) ∈ queryRuntimeJobs db workspacePath cutoff ↔
      rank db workspacePath cutoff (jobId, job) < 500 := by
  let rows := db.jobs.select fun _ job => isSelected db workspacePath cutoff job
  have keys : (rows.map Prod.fst).Nodup := db.jobs.nodup.sublist (List.filter_sublist.map _)
  have perm := List.perm_insertionSort (createdOrder · ·) rows
  have distinct := List.pairwise_map.mp ((perm.map Prod.fst).nodup_iff.mpr keys)
  have sorted : (rows.insertionSort (createdOrder · ·)).Pairwise fun a b => !createdOrder b a := by
    refine ((List.pairwise_insertionSort _ rows).and distinct).imp ?_
    rintro a b ⟨le, other⟩
    by_contra ge
    exact other (eq_of_createdOrder le (by simpa using ge))
  have asymm (a b : String × Job) (h : (!createdOrder b a) = true) : (!createdOrder a b) = false := by
    rcases Std.Total.total (r := (createdOrder · ·)) a b with e | e <;> simp_all
  rw [rank, ← perm.countP_eq]
  exact Table.mem_take_iff_countP_lt asymm sorted (Table.mem_selectOrderBy.mpr ⟨found, selected⟩) 500

/-- The snapshot has every live job of the workspace. -/
def LiveVisible (db : Db) (workspacePath : Option String) (cutoff : Int) : Prop :=
  ∀ jobId job, db.jobs.get? jobId = some job → inWorkspace db workspacePath job.agentId = true →
    isLive job = true → (jobId, job) ∈ queryRuntimeJobs db workspacePath cutoff

theorem liveVisible_iff (db : Db) (workspacePath : Option String) (cutoff : Int) :
    LiveVisible db workspacePath cutoff ↔ ∀ jobId job, db.jobs.get? jobId = some job →
      inWorkspace db workspacePath job.agentId = true → isLive job = true →
      rank db workspacePath cutoff (jobId, job) < 500 := by
  refine forall₄_congr fun jobId job found inside => forall_congr' fun live => ?_
  exact mem_queryRuntimeJobs_iff found (by simp [isSelected, isListed, inside, live])

def jobOf (status : JobStatus) (createdAt : Int) : Job where
  agentId := "a1"
  requestId := none
  promptText := "task"
  status := status
  createdAt := createdAt
  completedAt := some 0

def crowd : List (String × Job) :=
  (List.range 500).map fun i => (String.ofList (List.replicate i 'j'), jobOf .completed 0)

theorem nodup_crowd : ((("live", jobOf .queued 1) :: crowd).map Prod.fst).Nodup := by
  rw [List.map_cons, crowd, List.map_map]
  refine List.nodup_cons.mpr ⟨fun mem => ?_, List.nodup_range.map fun i k same => ?_⟩
  · obtain ⟨i, -, same⟩ := List.mem_map.mp mem
    have mem : 'l' ∈ List.replicate i 'j' := by simpa using congrArg ('l' ∈ ·.toList) same
    cases List.eq_of_mem_replicate mem
  · simpa using congrArg (·.toList.length) same

/-- Five hundred settled jobs, and a queued one after them. -/
def crowded : Db :=
  { Db.oneSession with
    agents := Table.empty.insert "a1"
      { sessionId := "s1", provider := "claude", state := .busy, createdAt := 0, updatedAt := 0 }
    jobs := ⟨("live", jobOf .queued 1) :: crowd, nodup_crowd⟩ }

theorem not_liveVisible_crowded : ¬∀ db workspacePath cutoff, LiveVisible db workspacePath cutoff := by
  intro visible
  have shown := visible crowded none 0 "live" (jobOf .queued 1) (by decide) (by decide) rfl
  rw [mem_queryRuntimeJobs_iff (by decide) (by decide)] at shown
  have all : ∀ row ∈ crowd, (!createdOrder ("live", jobOf .queued 1) row &&
      isSelected crowded none 0 row.2) = true := by
    intro row mem
    obtain ⟨i, -, rfl⟩ := List.mem_map.mp mem
    rfl
  have before : crowd.length ≤ rank crowded none 0 ("live", jobOf .queued 1) := by
    rw [rank, Table.select, List.countP_filter, ← List.countP_eq_length.mpr all]
    exact (List.sublist_cons_self _ _).countP_le
  simp [crowd] at before
  omega

end RuntimeSnapshot

end Ccbd
