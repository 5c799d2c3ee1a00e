import Ccbd.Dispatch.DeadAgents

/-!
# Dispatches and histories over whole runs

What every single write does, every operation does (`DaemonOp.Writes.lift`), and then every run:
a job is handed to an agent by a dispatch only, and the history of the jobs is never rewritten.
-/

namespace Ccbd

open Lib Db

variable {op : DaemonOp} {d₀ d d' : Db} {a j : String} {ts : List (Transition Db DaemonOp)}

/-- The table `job_transitions` is a later one. -/
def Db.Ages (d d' : Db) : Prop := d.jobTransitions.Ages d'.jobTransitions

theorem DaemonOp.ages (op : DaemonOp) (d : Db) : d.Ages (op.apply d) := by
  refine Writes.lift (R := Db.Ages) (fun _ => .refl _) (fun _ _ _ => .trans)
    (fun S d d' _ write => ?_) (fun _ _ _ _ => .refl _) (fun _ _ => .refl _)
    (fun d _ => d.jobTransitions.ages_deleteWhere _) (op.writes d)
  cases write with
  | move | create | ask => exact d.jobTransitions.ages_append _
  | note | mark | review | cite | intent => exact .refl _

/-- The history of the jobs is never rewritten: between any two databases of a run, whatever is
deleted, the rows of `job_transitions` that are left keep key and content, and no key is used a
second time. -/
theorem jobTransitions_neverRewritten (run : Run DaemonOp.Step d₀ ts d) :
    d₀.Ages d ∧ (∀ t ∈ ts, d₀.Ages t.pre ∧ t.pre.Ages t.post) ∧
      ts.Pairwise fun t t' => t.post.Ages t'.pre := by
  refine run.relates (fun d => .refl _) (fun _ _ _ => .trans) ?_
  rintro d op d' rfl
  exact op.ages d

/-- The history of the first dispatch lasts until the agent is deleted. -/
theorem jobTransitions_neverRewritten_firstDispatch :
    ∃ d₀ d ts, d₀.jobTransitions.rows.length = 2 ∧ d.jobTransitions.rows = [] ∧
      Run DaemonOp.Step d₀ ts d ∧ d₀.Ages d ∧ (∀ t ∈ ts, d₀.Ages t.pre ∧ t.pre.Ages t.post) ∧
      ts.Pairwise fun t t' => t.post.Ages t'.pre := by
  have run := Run.of_list (f := DaemonOp.apply) (firstDispatch.foldl DaemonOp.apply oneSession)
    [.db (.ackMarkBusy "a1" "MARKER" 5), .db (.markJobFailed "j1" "send failed" 6),
      .deleteAgent "a1"]
  exact ⟨_, _, _, by decide +kernel, by decide +kernel, run, jobTransitions_neverRewritten run⟩

/-- The operation hands an IDLE agent its oldest QUEUED job. -/
def DaemonOp.HandsOver (op : DaemonOp) (d : Db) (a j : String) : Prop :=
  d.stateOf a = some .idle ∧
    ∃ now job, op = .db (.dispatchQueuedJob a now) ∧ nextQueuedJob d a = some (j, job)

theorem DaemonOp.owns_or_handsOver (op : DaemonOp) (owns : (op.apply d).Owns a j) :
    d.Owns a j ∨ op.HandsOver d a j := by
  by_cases dispatches : ∃ b now, op = .db (.dispatchQueuedJob b now)
  · obtain ⟨b, now, rfl⟩ := dispatches
    revert owns
    refine commit_induction (P := fun d' => d'.Owns a j → _) .inl fun r d' h owns => ?_
    rcases Board.dispatch_of_ok h with ⟨-, rfl⟩ | ⟨k, job, next, dispatch⟩
    · exact .inl owns
    · rcases dispatch.holds_iff.mp (Board.holds_board.mpr owns) with before | ⟨rfl, rfl⟩
      · exact .inl (Board.holds_board.mp before)
      · exact .inr ⟨dispatch.idle, now, job, rfl, next⟩
  · have undispatched : ∀ e ∈ op.edges, e.2 ≠ .dispatched := by
      cases op with
      | db op => cases op <;> simp_all [edges, DbOp.edges]
      | _ => simp [edges]
    refine .inl ((op.writes d).lift (R := fun d d' => d'.Owns a j → d.Owns a j) (fun _ => id)
      (fun _ _ _ first later => first ∘ later) (fun S _ _ same write => ?_) (fun _ _ _ _ => id)
      (fun _ _ => id) (fun _ _ owns => (owns_cascadeAgent owns).1) owns)
    exact write.owns (same ▸ undispatched)

/-- In every run an agent holds a job only if it held the job before, or some operation of the
run handed it over: the agent was IDLE then, and the job the oldest of its QUEUED ones. -/
theorem held_byDispatch (run : Run DaemonOp.Step d₀ ts d) (owns : d.Owns a j) :
    d₀.Owns a j ∨ ∃ t ∈ ts, t.act.HandsOver t.pre a j := by
  by_contra none
  push Not at none
  refine run.invariant (I := fun d => ¬d.Owns a j) (C := fun d op => ¬op.HandsOver d a j) ?_
    none.1 none.2 owns
  rintro d op _ free other rfl owns
  exact (op.owns_or_handsOver owns).elim free other

theorem held_byDispatch_firstDispatch :
    (firstDispatch.foldl DaemonOp.apply oneSession).Owns "a1" "j1" ∧
      ∃ t ∈ trace DaemonOp.apply oneSession firstDispatch, t.act.HandsOver t.pre "a1" "j1" := by
  have owns : (firstDispatch.foldl DaemonOp.apply oneSession).Owns "a1" "j1" := ⟨_, rfl, rfl, rfl⟩
  have free : ¬oneSession.Owns "a1" "j1" := by
    rintro ⟨job, found, -⟩
    cases found
  exact ⟨owns, (held_byDispatch (Run.of_list _ _) owns).resolve_left free⟩

end Ccbd
