import Ccbd.Orchestrator.Dispatcher
import Ccbd.Rpc.AckEffects

/-!
# At most one delivery

A job whose prompt was sent should not be put back into the queue by the
acknowledgement path. The watcher starts after the send, so its "before the send"
reasons are never true of its own dispatch. The property holds exactly as long as no
fallback with such a reason finds a sent job in flight.
-/

namespace Ccbd

open Lib

/-- The steps of the acknowledgement path: those of the watchers, and the functions it is
made of, called with any arguments. -/
def DispatchAct.isAckPath : DispatchAct → Bool
  | act .. | poll .. | scan .. | reopen .. | timer .. => true
  | other (.ackMarkBusy ..) | other (.ackFallbackStuck ..) | other (.ackFallbackCrashed ..) => true
  | _ => false

/-- A sent job goes from DISPATCHED to QUEUED. -/
def DispatchWorld.RequeuesIn (w : DispatchWorld) (db' : Db) : Prop :=
  ∃ j ∈ w.sent, w.db.statusOf j = some .dispatched ∧ db'.statusOf j = some .queued

/-- A step of the acknowledgement path puts a job that was sent back into the queue. -/
def RequeuesSent (t : Transition DispatchWorld DispatchAct) : Prop :=
  t.act.isAckPath = true ∧ t.pre.RequeuesIn t.post.db

/-- A fallback whose reason counts as one before the send does not meet the sent job of a
WAITING_FOR_ACK agent. -/
def DispatchWorld.FallbackBeforeSend (w : DispatchWorld) (agentId reason : String) : Prop :=
  safePreSend reason = true → w.db.stateOf agentId = some .waitingForAck →
    ∀ j job, queryDispatchedJobForAgentSync w.db agentId = some (j, job) → j ∉ w.sent

/-- The condition on a step. -/
def DispatchAct.FallsBackBeforeSend (w : DispatchWorld) : DispatchAct → Prop
  | act i _ _ _ => ∀ watcher reason, w.watchers[i]? = some watcher →
      watcher.pc = .fallbackStuck reason → w.FallbackBeforeSend watcher.agentId reason
  | other (.ackFallbackStuck a reason _) => w.FallbackBeforeSend a reason
  | _ => True

theorem fallbackAckToStuck_requeues (db : Db) (agentId : String)
    (safe : safePreSend reason = true) (now : Int) (j : String) :
    (db.statusOf j = some .dispatched ∧
      (commit (fallbackAckToStuck db agentId reason now) db).statusOf j = some .queued) ↔
    db.stateOf agentId = some .waitingForAck ∧
      ∃ job, queryDispatchedJobForAgentSync db agentId = some (j, job) := by
  constructor
  · rintro ⟨pre, post⟩
    have effect :
        AckEffect db agentId True (commit (fallbackAckToStuck db agentId reason now) db) :=
      ackEffect_fallbackStuck (fun _ => trivial) now
    refine ⟨?_, (effect.requeued pre post).2⟩
    by_contra hstate
    rw [fallbackAckToStuck_inactive hstate, pre] at post
    cases post
  · rintro ⟨hstate, job, dispatched⟩
    obtain ⟨agent, hagent, hs⟩ := Option.map_eq_some_iff.mp hstate
    obtain ⟨⟨n, db'⟩, hok⟩ := fallbackAckToStuck_succeeds hagent hs dispatched reason now
    obtain ⟨hjob, -, hd⟩ := queryDispatchedJobForAgentSync_some dispatched
    refine ⟨by simp [Db.statusOf, hjob, hd], ?_⟩
    simp only [hok, commit]
    rcases fallbackAckToStuck_ok hok with ⟨-, hne⟩ | ⟨-, _, -, -, h | h⟩
    · exact absurd hs (hne agent hagent)
    · simp [h.1] at dispatched
    · obtain ⟨jobId, job', e, dispatched', -, jobs⟩ := h
      rw [dispatched, Option.some.injEq, Prod.mk.injEq] at dispatched'
      simp [Db.statusOf, jobs, ← dispatched'.1, hjob, safe]

theorem not_requeuesIn_of_effect {w : DispatchWorld}
    (h : AckEffect w.db agentId False db') : ¬w.RequeuesIn db' := by
  rintro ⟨j, -, pre, post⟩
  exact (h.requeued pre post).1

theorem requeuesIn_fallback (w : DispatchWorld) (agentId reason : String) (now : Int) :
    ¬w.RequeuesIn (commit (fallbackAckToStuck w.db agentId reason now) w.db) ↔
      w.FallbackBeforeSend agentId reason := by
  by_cases safe : safePreSend reason = true
  · constructor
    · intro h _ hstate j job dispatched sent
      exact h ⟨j, sent, (fallbackAckToStuck_requeues w.db agentId safe now j).mpr
        ⟨hstate, job, dispatched⟩⟩
    · rintro h ⟨j, sent, moved⟩
      obtain ⟨hstate, job, dispatched⟩ :=
        (fallbackAckToStuck_requeues w.db agentId safe now j).mp moved
      exact h safe hstate j job dispatched sent
  · exact iff_of_true (not_requeuesIn_of_effect (ackEffect_fallbackStuck safe now))
      fun h => absurd h safe

open DispatchAct

theorem requeuesIn_act
    (found : w.watchers[i]? = some watcher) (env : CompletionEnv) (stabilizing : Bool) (now : Int) :
    ¬w.RequeuesIn (watcher.act env stabilizing w.db now).2 ↔
      (act i env stabilizing now).FallsBackBeforeSend w := by
  by_cases h : ∃ reason, watcher.pc = .fallbackStuck reason
  · obtain ⟨reason, hpc⟩ := h
    have hact : (watcher.act env stabilizing w.db now).2 =
        commit (fallbackAckToStuck w.db watcher.agentId reason now) w.db := by
      simp [AckWatcher.act, hpc]
    rw [hact, requeuesIn_fallback]
    constructor
    · intro hf watcher' reason' found' hpc'
      rw [found, Option.some.injEq] at found'
      subst found'
      rw [hpc, AckPc.fallbackStuck.injEq] at hpc'
      exact hpc' ▸ hf
    · exact fun hf => hf watcher reason found hpc
  · refine iff_of_true ?_ ?_
    · rintro ⟨j, -, pre, post⟩
      obtain ⟨reason, hpc, -⟩ := ((watcher.act_effect env stabilizing w.db now).requeued pre post).1
      exact h ⟨reason, hpc⟩
    · intro watcher' reason found' hpc
      rw [found, Option.some.injEq] at found'
      exact absurd ⟨reason, found' ▸ hpc⟩ h

theorem not_requeuesIn_self (w : DispatchWorld) : ¬w.RequeuesIn w.db :=
  not_requeuesIn_of_effect (.agentOnly rfl : AckEffect w.db "" False w.db)

open DispatchWorld

theorem requeuesSent_step (step : w.Step a w') :
    ¬RequeuesSent ⟨w, a, w'⟩ ↔ a.FallsBackBeforeSend w := by
  rw [RequeuesSent, step]
  cases a with
  | act i env stabilizing now =>
    simp only [isAckPath, true_and, apply]
    cases found : w.watchers[i]? with
    | none =>
      exact iff_of_true (not_requeuesIn_self w) (by simp [FallsBackBeforeSend, found])
    | some watcher => exact requeuesIn_act found env stabilizing now
  | other op =>
    cases op <;> simp only [isAckPath, true_and, Bool.false_eq_true, false_and,
      not_false_eq_true, FallsBackBeforeSend, iff_true]
    case ackFallbackStuck a reason now => exact requeuesIn_fallback w a reason now
    case ackMarkBusy a reason now =>
      exact not_requeuesIn_of_effect (ackEffect_markBusy reason now)
    case ackFallbackCrashed a reason now =>
      exact not_requeuesIn_of_effect (ackEffect_fallbackCrashed reason now)
  | timer i now =>
    simp only [isAckPath, true_and, apply]
    refine iff_of_true ?_ trivial
    split
    · exact not_requeuesIn_of_effect (ackEffect_stabilityBusy now)
    · exact not_requeuesIn_self w
  | poll | scan | reopen =>
    simp only [isAckPath, true_and, apply, db_stepWatcher]
    exact iff_of_true (not_requeuesIn_self w) trivial
  | dispatch | recheckState | recheckJob | guard | requeue | send =>
    exact iff_of_true (by simp [isAckPath]) trivial

/-- In a run of the dispatch world the acknowledgement path never requeues a sent job
exactly when every fallback with a "before the send" reason misses the sent jobs. -/
theorem requeuesSent_run {w w' : DispatchWorld} {ts : List (Transition DispatchWorld DispatchAct)}
    (run : Run Step w ts w') :
    (∀ t ∈ ts, ¬RequeuesSent t) ↔ ∀ t ∈ ts, t.act.FallsBackBeforeSend t.pre :=
  run.forall_transition_iff (fun _ _ _ _ _ => trivial)
    (fun _ _ _ _ step => requeuesSent_step step) trivial

/-- The turn of the loop in which `tmux capture-pane` fails. -/
def captureFailed : AckAnswers where
  loopAt := 50
  paneRegistered := true
  parserRegistered := true
  capture := none
  now := 100
  meaningfulDiff := false
  seedMatches := false
  parserMatches := false

def captureFailedBusy : List (Transition DispatchWorld DispatchAct) :=
  trace apply { db := idleAgentDb }
    (sendTask ++ [.timer 0 2, .poll 0 captureFailed, .act 0 .blank false 3])

/-- The stability timer marks the agent BUSY before the capture fails. -/
theorem requeuesSent_run_busy :
    (∀ t ∈ captureFailedBusy, t.act.FallsBackBeforeSend t.pre) ∧
      ∀ t ∈ captureFailedBusy, ¬RequeuesSent t := by
  rw [captureFailedBusy, requeuesSent_run (Run.of_list _ _), and_self]
  simp only [sendTask, List.cons_append, List.nil_append, trace, List.forall_mem_cons]
  refine ⟨trivial, trivial, trivial, trivial, trivial, trivial, trivial, ?_, by simp⟩
  intro watcher reason found _ _ hstate
  obtain rfl : _ = watcher := Option.some.inj found
  exact absurd hstate (by decide)

/-- The capture fails right after the send, and the sent job is queued again. -/
theorem requeuesSent_capture_failed :
    ¬∀ (w w' : DispatchWorld) (ts : List (Transition DispatchWorld DispatchAct)),
      Run Step w ts w' → ∀ t ∈ ts, ¬RequeuesSent t := by
  intro h
  have none := h _ _ _ (Run.of_list { db := idleAgentDb }
    (sendTask ++ [.poll 0 captureFailed, .act 0 .blank false 2]))
  simp only [sendTask, List.cons_append, List.nil_append, trace, List.forall_mem_cons] at none
  refine none.2.2.2.2.2.2.1 ⟨rfl, "j1", ?_, ?_, ?_⟩
  · decide
  · decide
  · decide

end Ccbd
