import Ccbd.Dispatch.Refinement

/-!
# One dispatched job per agent

`Db.Exclusive` is the property the dispatcher relies on: an agent owns at most one
DISPATCHED job, an IDLE agent none. Every operation keeps it except
`assertStateToIdleSync`, which keeps it exactly when the asserted agent owns no
DISPATCHED job.
-/

namespace Ccbd

open Lib

structure Db.Exclusive (db : Db) : Prop where
  atMostOne : ∀ a, (db.agents.get? a).isSome → ∀ j j', db.Owns a j → db.Owns a j' → j = j'
  idleFree : ∀ a agent, db.agents.get? a = some agent → agent.state = .idle → ∀ j, ¬db.Owns a j

/-- The condition on a step: an assertion that passes the checks of
`assertStateToIdleSync` names an agent without a DISPATCHED job. -/
def DbOp.AssertsFree (db : Db) : DbOp → Prop
  | assertIdle a e _ => ∀ evidence agent, db.evidence.get? e = some evidence →
      evidence.agentId = a → db.agents.get? a = some agent →
      (agent.state = .unknown ∨ agent.state = .waitingForAck) → ∀ j, ¬db.Owns a j
  | _ => True

theorem Db.exclusive_iff_board {db : Db} : db.Exclusive ↔ db.board.Exclusive := by
  have hagent : ∀ a, (db.board.agent a).isSome = (db.agents.get? a).isSome := by
    simp [Db.board]
  constructor
  · intro h
    refine ⟨fun a ha j j' hj hj' => ?_, fun a ha j hj => ?_⟩
    · exact h.atMostOne a (hagent a ▸ ha) j j' (Board.holds_board.mp hj) (Board.holds_board.mp hj')
    · obtain ⟨agent, found, idle⟩ := Option.map_eq_some_iff.mp ha
      exact h.idleFree a agent found idle j (Board.holds_board.mp hj)
  · intro h
    refine ⟨fun a ha j j' hj hj' => ?_, fun a agent found idle j hj => ?_⟩
    · exact h.atMostOne a (hagent a ▸ ha) j j' (Board.holds_board.mpr hj)
        (Board.holds_board.mpr hj')
    · exact h.idleFree a (by simp [Db.board, found, idle]) j (Board.holds_board.mpr hj)

theorem exclusive_assertIdle (hdb : db.Exclusive) (a e : String) (now : Int) :
    ((DbOp.assertIdle a e now).apply db).Exclusive ↔ (DbOp.assertIdle a e now).AssertsFree db := by
  constructor
  · intro h evidence agent hevidence howner hagent hstate j hj
    obtain ⟨⟨n, db'⟩, hok⟩ := assertStateToIdleSync_succeeds hevidence howner hagent hstate now
    obtain ⟨-, -, -, -, -, -, agents, jobs⟩ := assertStateToIdleSync_ok hok
    have hpost : (DbOp.assertIdle a e now).apply db = db' := by simp [DbOp.apply, hok, commit]
    rw [hpost] at h
    refine h.idleFree a (agent.enterSub .idle "Asserted" now) ?_ rfl j ?_
    · simp [agents, hagent]
    · simpa [Db.Owns, jobs] using hj
  · intro free
    refine commit_induction hdb fun n db' hok => ?_
    obtain ⟨evidence, agent, hevidence, howner, hagent, hstate, agents, jobs⟩ :=
      assertStateToIdleSync_ok hok
    have move : db.board.Move db'.board := by
      refine Board.move_of_idle agents jobs (fun _ => rfl) fun j hj => ?_
      exact free evidence agent hevidence howner hagent hstate j (Board.holds_board.mp hj)
    exact Db.exclusive_iff_board.mpr (move.exclusive (Db.exclusive_iff_board.mp hdb))

theorem exclusive_dispatch (hdb : db.Exclusive) (a : String) (now : Int) :
    ((DbOp.dispatchQueuedJob a now).apply db).Exclusive := by
  refine commit_induction hdb fun r db' hok => ?_
  rcases Board.dispatch_of_ok hok with ⟨-, rfl⟩ | ⟨j, job, -, dispatch⟩
  · exact hdb
  · exact Db.exclusive_iff_board.mpr (dispatch.exclusive (Db.exclusive_iff_board.mp hdb))

theorem exclusive_step {op : DbOp} (hdb : db.Exclusive) (step : op.Step db db') :
    db'.Exclusive ↔ op.AssertsFree db := by
  rw [step]
  by_cases h : ∃ a e now, op = .assertIdle a e now
  · obtain ⟨a, e, now, rfl⟩ := h
    exact exclusive_assertIdle hdb a e now
  push Not at h
  have free : op.AssertsFree db := by
    cases op <;> first | trivial | exact absurd rfl (h _ _ _)
  refine iff_of_true ?_ free
  by_cases hd : ∃ a now, op = .dispatchQueuedJob a now
  · obtain ⟨a, now, rfl⟩ := hd
    exact exclusive_dispatch hdb a now
  · push Not at hd
    have move : db.board.Move (op.apply db).board := Board.move_apply op hd h
    exact Db.exclusive_iff_board.mpr (move.exclusive (Db.exclusive_iff_board.mp hdb))

/-- A run of the operations visits only exclusive databases exactly when each of its
assertions names an agent without a DISPATCHED job. -/
theorem exclusive_run {db db' : Db} {ts : List (Transition Db DbOp)} (start : db.Exclusive)
    (run : Run DbOp.Step db ts db') :
    (∀ t ∈ ts, t.post.Exclusive) ↔ ∀ t ∈ ts, t.act.AssertsFree t.pre :=
  run.forall_post_iff (fun _ _ _ hdb step => exclusive_step hdb step) start

theorem Db.exclusive_of_none_dispatched {db : Db}
    (h : ∀ row ∈ db.jobs.rows, row.2.status ≠ .dispatched) : db.Exclusive :=
  ⟨fun a _ j _ hj => absurd hj (Db.not_owns h a j), fun a _ _ _ j => Db.not_owns h a j⟩

/-- An UNKNOWN agent with an evidence row and a QUEUED job. -/
def unknownAgentDb : Db :=
  { Db.oneSession with
    agents := Table.empty.insert "a1"
      { sessionId := "s1", provider := "claude", state := .unknown, createdAt := 0, updatedAt := 0 }
    events := AutoTable.empty.append
      { agentId := "a1", eventType := "state_change", payload := .null, createdAt := 0 }
    evidence := Table.empty.insert "e1" { agentId := "a1", eventSeqId := 1, createdAt := 0 }
    jobs := Table.empty.insert "j1"
      { agentId := "a1", requestId := none, promptText := "task", createdAt := 0 } }

/-- One assertion, and the dispatch it makes possible. -/
theorem exclusive_run_asserted :
    unknownAgentDb.Exclusive ∧
      ∀ t ∈ trace DbOp.apply unknownAgentDb [.assertIdle "a1" "e1" 1, .dispatchQueuedJob "a1" 2],
        t.post.Exclusive := by
  have start : unknownAgentDb.Exclusive := Db.exclusive_of_none_dispatched (by decide)
  refine ⟨start, (exclusive_run start (Run.of_list _ _)).mpr ?_⟩
  simp only [trace, List.forall_mem_cons]
  exact ⟨fun _ _ _ _ _ _ => Db.not_owns (by decide) "a1", trivial, by simp⟩

/-- The same evidence row accepts a second assertion while the job is in flight. -/
theorem not_exclusive_reasserted :
    ¬∀ (db db' : Db) (ts : List (Transition Db DbOp)), db.Exclusive → Run DbOp.Step db ts db' →
      db'.Exclusive := by
  intro h
  have start : unknownAgentDb.Exclusive := Db.exclusive_of_none_dispatched (by decide)
  have final := h _ _ _ start (Run.of_list _
    [.assertIdle "a1" "e1" 1, .dispatchQueuedJob "a1" 2, .assertIdle "a1" "e1" 3])
  exact final.idleFree "a1" _ rfl (by decide) "j1" ⟨_, rfl, by decide, by decide⟩

end Ccbd
