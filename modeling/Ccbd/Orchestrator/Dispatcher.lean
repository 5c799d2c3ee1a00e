import Ccbd.Dispatch.Operations
import Ccbd.Rpc.AckWatcher

/-!
# The dispatch cycle and the tasks it starts

`run_once_with_recovery_respawn` takes one agent at a time: it dispatches the oldest
queued job, checks again that the agent waits for this job, asks the guard, and sends
the prompt. After a successful send it starts the stability timer and the watcher of
`Ccbd.Rpc.AckWatcher`, and goes on. These tasks outlive the cycle, so a step of the
world is a step of any of them, or a transaction of some other task of the daemon. The
branches that give a dispatch up (no pane, no parser, a failed send) are among the latter.
-/

namespace Ccbd

open Lib

/-- What the loop knows of the dispatch it is working on. -/
structure DispatchCycle where
  agentId : String
  provider : String
  jobId : String
  captureBaseline : Option String
deriving Repr

/-- `wait_for_pre_send_dispatchable` reads the agent's state (`dispatched`) and then its
dispatched job (`waiting`). -/
inductive DispatchPhase where
  | idle
  | dispatched (cycle : DispatchCycle)
  | waiting (cycle : DispatchCycle)
  | ready (cycle : DispatchCycle)
  | permitted (cycle : DispatchCycle)
  | refused (cycle : DispatchCycle) (reason : String)
deriving Repr

/-- A pending `spawn_dispatch_ack_stability_busy`. As for the watcher, `jobId` is the
job of the dispatch it belongs to and is never read. -/
structure StabilityTimer where
  agentId : String
  jobId : String
deriving Repr

structure DispatchWorld where
  db : Db
  phase : DispatchPhase := .idle
  watchers : List AckWatcher := []
  timers : List StabilityTimer := []
  /-- The jobs whose prompt reached the pane, by `send_text_to_pane_with_options`. -/
  sent : List String := []

/-- A step, with what its surroundings answer. -/
inductive DispatchAct where
  | other (op : DbOp)
  | dispatch (agentId provider : String) (captureBaseline : Option String) (now : Int)
  | recheckState
  | recheckJob
  | guard (permit : Bool)
  | requeue (now : Int)
  | send (sendOk parserRegistered allowDirectIdle : Bool) (clock : Nat)
  | poll (i : Nat) (answers : AckAnswers)
  | scan (i : Nat) (outcome : PromptRunOutcome)
  | reopen (i : Nat) (matched : Bool)
  | act (i : Nat) (env : CompletionEnv) (stabilizing : Bool) (now : Int)
  | timer (i : Nat) (now : Int)

/-- The first half of the check before the send. -/
def recheckState (db : Db) (cycle : DispatchCycle) : DispatchPhase :=
  match (db.agents.get? cycle.agentId).map (·.state) with
  | none => .refused cycle "dispatch readiness recheck refused before send: target_missing"
  | some AgentState.waitingForAck => .waiting cycle
  | some _ =>
    .refused cycle "dispatch readiness recheck refused before send: target_not_waiting_for_ack"

/-- The second half. -/
def recheckJob (db : Db) (cycle : DispatchCycle) : DispatchPhase :=
  if (queryDispatchedJobForAgentSync db cycle.agentId).any (·.1 = cycle.jobId) then .ready cycle
  else .refused cycle "dispatch readiness recheck refused before send: current_job_not_dispatched"

namespace DispatchWorld

/-- The tasks a successful send starts. -/
def afterSend (w : DispatchWorld) (cycle : DispatchCycle) (parserRegistered allowDirectIdle : Bool)
    (clock : Nat) : DispatchWorld :=
  let w := { w with
    phase := .idle
    sent := cycle.jobId :: w.sent
    timers := w.timers ++ [⟨cycle.agentId, cycle.jobId⟩] }
  match parserRegistered, cycle.captureBaseline with
  | true, some baseline =>
    { w with
      watchers := w.watchers ++ [{
        agentId := cycle.agentId, provider := cycle.provider, baseline := baseline
        allowDirectIdle := allowDirectIdle, jobId := cycle.jobId, startedAt := clock }] }
  | _, _ => w

/-- A step of watcher `i` that stays out of the database, if it stands where the step
begins. -/
def stepWatcher (w : DispatchWorld) (i : Nat) (stands : AckPc → Bool)
    (f : AckWatcher → AckWatcher) : DispatchWorld :=
  match w.watchers[i]? with
  | some watcher =>
    if stands watcher.pc then { w with watchers := w.watchers.set i (f watcher) } else w
  | none => w

theorem db_stepWatcher (w : DispatchWorld) (i : Nat) (stands : AckPc → Bool)
    (f : AckWatcher → AckWatcher) : (w.stepWatcher i stands f).db = w.db := by
  unfold stepWatcher
  split
  · split_ifs <;> rfl
  · rfl

def apply (w : DispatchWorld) : DispatchAct → DispatchWorld
  | .other op => { w with db := op.apply w.db }
  | .dispatch agentId provider captureBaseline now =>
    match w.phase, dispatchQueuedJob w.db agentId now with
    | .idle, .ok (some d, db) =>
      { w with db := db, phase := .dispatched ⟨agentId, provider, d.jobId, captureBaseline⟩ }
    | _, _ => w
  | .recheckState =>
    match w.phase with
    | .dispatched cycle => { w with phase := Ccbd.recheckState w.db cycle }
    | _ => w
  | .recheckJob =>
    match w.phase with
    | .waiting cycle => { w with phase := Ccbd.recheckJob w.db cycle }
    | _ => w
  | .guard permit =>
    match w.phase with
    | .ready cycle =>
      { w with
        phase := if permit then .permitted cycle
          else .refused cycle "dispatch readiness recheck refused before send" }
    | _ => w
  | .requeue now =>
    match w.phase with
    | .refused cycle reason =>
      { w with
        phase := .idle
        db := commit (requeueDispatchedJobBeforeSendSync w.db cycle.jobId cycle.agentId reason now)
          w.db }
    | _ => w
  | .send sendOk parserRegistered allowDirectIdle clock =>
    match w.phase with
    | .permitted cycle =>
      if sendOk then w.afterSend cycle parserRegistered allowDirectIdle clock
      else { w with phase := .idle }
    | _ => w
  | .poll i answers => w.stepWatcher i (· matches .polling) (·.poll answers)
  | .scan i outcome => w.stepWatcher i (· matches .scanning) (·.scan outcome)
  | .reopen i matched => w.stepWatcher i (· matches .reopening) (·.reopen matched)
  | .act i env stabilizing now =>
    match w.watchers[i]? with
    | some watcher =>
      let (watcher, db) := watcher.act env stabilizing w.db now
      { w with db := db, watchers := w.watchers.set i watcher }
    | none => w
  | .timer i now =>
    match w.timers[i]? with
    | some timer =>
      { w with
        db := commit (spawnDispatchAckStabilityBusy w.db timer.agentId now) w.db
        timers := w.timers.eraseIdx i }
    | none => w

def Step (w : DispatchWorld) (a : DispatchAct) (w' : DispatchWorld) : Prop := w' = w.apply a

end DispatchWorld

/-- A dispatch to the agent of `idleAgentDb`, up to the successful send. -/
def sendTask : List DispatchAct :=
  [.dispatch "a1" "claude" (some "prompt") 1, .recheckState, .recheckJob, .guard true,
    .send true true true 0]

end Ccbd
