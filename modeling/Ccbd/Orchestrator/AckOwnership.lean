import Ccbd.Orchestrator.Dispatcher
import Ccbd.Rpc.AckEffects

/-!
# Watchers and the dispatches they belong to

A watcher, or the stability timer, should act only on the dispatch it was started for.
It holds only the agent id, so it keeps to its own dispatch as long as its steps come while
no other job of the agent is in flight, or the agent is in a state they do not act on.
-/

namespace Ccbd

open Lib

/-- The agent and the job whose dispatch started the task that takes the step. -/
def DispatchAct.startedFor (w : DispatchWorld) : DispatchAct → Option (String × String)
  | act i _ _ _ | poll i _ | scan i _ | reopen i _ =>
    w.watchers[i]?.map fun watcher => (watcher.agentId, watcher.jobId)
  | timer i _ => w.timers[i]?.map fun timer => (timer.agentId, timer.jobId)
  | _ => none

/-- Another job than `jobId` changes its status, or its agent stops waiting for it. -/
def ActsOnOther (db db' : Db) (agentId jobId : String) : Prop :=
  ∃ j, j ≠ jobId ∧ (db'.statusOf j ≠ db.statusOf j ∨
    db.Owns agentId j ∧ db.stateOf agentId = some .waitingForAck ∧
      db'.stateOf agentId ≠ some .waitingForAck)

/-- A task started for one dispatch acts on another. -/
def TouchesOther (t : Transition DispatchWorld DispatchAct) : Prop :=
  ∃ agentId jobId, t.act.startedFor t.pre = some (agentId, jobId) ∧
    ActsOnOther t.pre.db t.post.db agentId jobId

/-- The condition on a step: the agent is in no state the step acts on, or has no other
job in flight. -/
def DispatchAct.KeepsToOwn (w : DispatchWorld) : DispatchAct → Prop
  | act i _ _ _ => ∀ watcher, w.watchers[i]? = some watcher →
      (∀ s, w.db.stateOf watcher.agentId = some s → watcher.pc.actsOn s = false) ∨
        ∀ j, w.db.Owns watcher.agentId j → j = watcher.jobId
  | timer i _ => ∀ timer, w.timers[i]? = some timer →
      w.db.stateOf timer.agentId ≠ some .waitingForAck ∨
        ∀ j, w.db.Owns timer.agentId j → j = timer.jobId
  | _ => True

theorem not_actsOnOther_of_effect {requeues : Prop} (effect : AckEffect db agentId requeues db')
    (own : ∀ j, db.Owns agentId j → j = jobId) : ¬ActsOnOther db db' agentId jobId := by
  rintro ⟨j, hne, h | ⟨owns, -, -⟩⟩
  · exact h (effect.statusOf_of_not_owns fun owns => hne (own j owns))
  · exact hne (own j owns)

theorem not_actsOnOther_of_inactive (jobs : db'.jobs = db.jobs)
    (waits : db.stateOf agentId = some .waitingForAck → db'.agents = db.agents) :
    ¬ActsOnOther db db' agentId jobId := by
  rintro ⟨j, -, h | ⟨-, pre, post⟩⟩
  · exact h (by simp [Db.statusOf, jobs])
  · rw [Db.stateOf, waits pre] at post
    exact post pre

theorem not_actsOnOther_act (found : w.watchers[i]? = some watcher)
    (cond : (DispatchAct.act i env stabilizing now).KeepsToOwn w) :
    ¬ActsOnOther w.db (watcher.act env stabilizing w.db now).2 watcher.agentId watcher.jobId := by
  rcases cond watcher found with inactive | own
  · obtain ⟨jobs, waits⟩ := watcher.act_inactive env stabilizing w.db now inactive
    exact not_actsOnOther_of_inactive jobs waits
  · exact not_actsOnOther_of_effect (watcher.act_effect env stabilizing w.db now) own

theorem not_actsOnOther_timer (found : w.timers[i]? = some timer)
    (cond : (DispatchAct.timer i now).KeepsToOwn w) :
    ¬ActsOnOther w.db (commit (spawnDispatchAckStabilityBusy w.db timer.agentId now) w.db)
      timer.agentId timer.jobId := by
  rcases cond timer found with inactive | own
  · rw [spawnDispatchAckStabilityBusy_inactive inactive]
    exact not_actsOnOther_of_inactive rfl fun _ => rfl
  · exact not_actsOnOther_of_effect (ackEffect_stabilityBusy now : AckEffect _ _ False _) own

theorem touchesOther_step (step : w.Step a w')
    (cond : a.KeepsToOwn w) : ¬TouchesOther ⟨w, a, w'⟩ := by
  rw [step]
  rintro ⟨agentId, jobId, started, acts⟩
  cases a with
  | act i env stabilizing now =>
    obtain ⟨watcher, found, e⟩ := Option.map_eq_some_iff.mp started
    cases e
    simp only [DispatchWorld.apply, found] at acts
    exact not_actsOnOther_act found cond acts
  | timer i now =>
    obtain ⟨timer, found, e⟩ := Option.map_eq_some_iff.mp started
    cases e
    simp only [DispatchWorld.apply, found] at acts
    exact not_actsOnOther_timer found cond acts
  | poll | scan | reopen =>
    simp only [DispatchWorld.apply, DispatchWorld.db_stepWatcher] at acts
    exact not_actsOnOther_of_inactive rfl (fun _ => rfl) acts
  | other | dispatch | recheckState | recheckJob | guard | requeue | send => cases started

/-- In a run whose watchers and timers all take their steps under the condition, none of
them acts on a dispatch it was not started for. -/
theorem touchesOther_run {w w' : DispatchWorld} {ts : List (Transition DispatchWorld DispatchAct)}
    (run : Run DispatchWorld.Step w ts w') (cond : ∀ t ∈ ts, t.act.KeepsToOwn t.pre) :
    ∀ t ∈ ts, ¬TouchesOther t :=
  run.forall_transition (fun _ _ _ _ _ _ => trivial)
    (fun _ _ _ _ hc step => touchesOther_step step hc) trivial cond

/-- The first job is completed by its hook within the stability window, the second one
is dispatched. -/
def nextTask : List DispatchAct :=
  [.other (.insertJob "j2" "a1" none "next" 2),
    .other (.hookEvent .blank "a1" "claude" "Stop" none (some "done") none 3),
    .dispatch "a1" "claude" (some "prompt") 4]

def timerInTime : List (Transition DispatchWorld DispatchAct) :=
  trace DispatchWorld.apply { db := idleAgentDb } (sendTask ++ .timer 0 2 :: nextTask)

/-- The timer fires before the agent is given its second job. -/
theorem touchesOther_run_own :
    (∀ t ∈ timerInTime, t.act.KeepsToOwn t.pre) ∧ ∀ t ∈ timerInTime, ¬TouchesOther t := by
  suffices own : ∀ t ∈ timerInTime, t.act.KeepsToOwn t.pre from
    ⟨own, touchesOther_run (Run.of_list _ _) own⟩
  rw [timerInTime]
  simp only [sendTask, nextTask, List.cons_append, List.nil_append, trace, List.forall_mem_cons]
  refine ⟨trivial, trivial, trivial, trivial, trivial, ?_, trivial, trivial, trivial, by simp⟩
  intro timer found
  obtain rfl : _ = timer := Option.some.inj found
  exact .inr fun j => Db.eq_of_owns (by decide)

/-- The timer of the first dispatch moves the agent out of WAITING_FOR_ACK for the second. -/
theorem touchesOther_late_timer :
    ¬∀ (w w' : DispatchWorld) (ts : List (Transition DispatchWorld DispatchAct)),
      Run DispatchWorld.Step w ts w' → ∀ t ∈ ts, ¬TouchesOther t := by
  intro h
  have none := h _ _ _ (Run.of_list { db := idleAgentDb } (sendTask ++ nextTask ++ [.timer 0 5]))
  simp only [sendTask, nextTask, List.cons_append, List.nil_append, trace, List.forall_mem_cons]
    at none
  refine none.2.2.2.2.2.2.2.2.1 ⟨"a1", "j1", rfl, "j2", by decide, .inr ⟨?_, by decide, by decide⟩⟩
  exact ⟨_, rfl, by decide, by decide⟩

/-! ## A requeue before the send -/

/-- The agent is at work, with no job to work on: it is given none, and none of its own
ends. -/
def Db.Stranded (db : Db) (a : String) : Prop :=
  (db.stateOf a = some .waitingForAck ∨ db.stateOf a = some .busy) ∧ ∀ j, ¬db.Owns a j

section Requeued

variable {db db' : Db} {j a reason : String} {now : Int}

theorem requeued_tables (h : requeueDispatchedJobBeforeSendSync db j a reason now = .ok (1, db')) :
    (∃ e, db'.jobs = (db.jobs.modify j (·.setErrorReason e)).modify j (·.enter .queued now)) ∧
      db'.agents = db.agents.modify a (restoreIdle [.waitingForAck] now) := by
  rcases requeueDispatchedJobBeforeSendSync_ok h with ⟨none, -⟩ | ⟨job, e, t, p, -, -, -, rfl⟩
  · cases none
  · exact ⟨⟨e, rfl⟩, rfl⟩

theorem owns_requeued (h : requeueDispatchedJobBeforeSendSync db j a reason now = .ok (1, db')) :
    db'.Owns a k ↔ k ≠ j ∧ db.Owns a k := by
  obtain ⟨⟨e, jobs⟩, -⟩ := requeued_tables h
  rw [Db.Owns, jobs, Table.modify_modify, Table.get?_modify]
  by_cases same : k = j
  · simp [same]
  · simp [same, Db.Owns]

theorem stateOf_requeued (h : requeueDispatchedJobBeforeSendSync db j a reason now = .ok (1, db')) :
    db'.stateOf a ≠ some .waitingForAck ∧
      (db'.stateOf a = some .busy ↔ db.stateOf a = some .busy) := by
  rw [Db.stateOf, Db.stateOf, (requeued_tables h).2, Table.get?_modify_self]
  cases db.agents.get? a with
  | none => simp
  | some agent =>
    by_cases waits : agent.state = .waitingForAck
    · simp [restoreIdle, waits]
    · simp [restoreIdle, waits]

/-- The requeue leaves the agent usable, just if no timer has made it BUSY meanwhile or it
has another job in flight. -/
theorem requeue_usable_iff
    (requeued : requeueDispatchedJobBeforeSendSync db j a reason now = .ok (1, db')) :
    ¬db'.Stranded a ↔ (db.stateOf a = some .busy → ∃ other, other ≠ j ∧ db.Owns a other) := by
  obtain ⟨acked, busy⟩ := stateOf_requeued requeued
  have stranded : db'.Stranded a ↔
      db.stateOf a = some .busy ∧ ∀ other, ¬(other ≠ j ∧ db.Owns a other) := by
    simp [Db.Stranded, busy, acked, owns_requeued requeued]
  rw [stranded]
  push Not
  rfl

end Requeued

/-- The refused dispatch of an agent that still waits. -/
theorem requeue_usable_waiting :
    ∃ db', requeueDispatchedJobBeforeSendSync (DispatchWorld.apply { db := idleAgentDb }
        (.dispatch "a1" "claude" (some "prompt") 1)).db "j1" "a1" "refused" 2 = .ok (1, db') ∧
      ¬db'.Stranded "a1" := by
  have count : (requeueDispatchedJobBeforeSendSync (DispatchWorld.apply { db := idleAgentDb }
      (.dispatch "a1" "claude" (some "prompt") 1)).db "j1" "a1" "refused" 2).map Prod.fst =
      .ok 1 := by decide
  obtain ⟨⟨n, db'⟩, requeued, rfl⟩ := map_eq_ok.mp count
  exact ⟨db', requeued, (requeue_usable_iff requeued).mpr fun busy => absurd busy (by decide)⟩

/-- Whenever the loop gives a dispatch back, the agent stays usable. -/
def RequeueLeavesUsable : Prop :=
  ∀ (db : Db) (w : DispatchWorld) (ts : List (Transition DispatchWorld DispatchAct)),
    Run DispatchWorld.Step { db := db } ts w → ∀ cycle reason, w.phase = .refused cycle reason →
      ∀ now db', requeueDispatchedJobBeforeSendSync w.db cycle.jobId cycle.agentId reason now =
        .ok (1, db') → ¬db'.Stranded cycle.agentId

/-- The timer of the first dispatch makes the agent BUSY for the second, which is refused for
that and requeued. -/
theorem not_requeueLeavesUsable : ¬RequeueLeavesUsable := by
  intro usable
  have run := Run.of_list (f := DispatchWorld.apply) { db := idleAgentDb }
    (sendTask ++ nextTask ++ [.timer 0 5, .recheckState])
  refine usable _ _ _ run _ _ rfl 6 _ rfl ⟨.inr (by decide), ?_⟩
  exact Db.not_owns (by decide) "a1"

end Ccbd
