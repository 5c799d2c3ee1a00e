import Ccbd.Dispatch.Operations
import Ccbd.Lib.Slots

/-!
# Log monitors

`prepare_log_monitor_before_send` registers a monitor for the agent and starts its task,
which tails the provider's log until the turn is complete. The registry is keyed by the
agent id. The task cancels by that key when it leaves its loop; by then a later dispatch
may have registered its own monitor. The other tasks of the daemon make transactions and
call `registry::cancel` themselves.
-/

namespace Ccbd

open Lib

/-- Offsets in the log files, and the files in which a user entry was seen. -/
structure LogReadState where
  cursors : List (String × Nat)
  userEntrySeenPaths : List String := []
deriving DecidableEq, Repr

/-- A complete turn in the log. -/
structure LogCompletion where
  turnId : Option String
  reply : Option String
  rawPath : String
  rawOffset : Nat
deriving Repr

def maxLogMonitorWaitMs : Nat := 15 * 60 * 1000

def logMonitorObservedProgress (before after : LogReadState) : Bool :=
  after.cursors.any fun c => ((before.cursors.lookup c.1).getD 0) < c.2

/-- Where the task of a monitor stands. -/
inductive MonitorPc where
  | selecting
  | checking
  | expired
  | querying
  | reading
  | ticking (completions : List LogCompletion) (read : LogReadState)
  | finishing (completed : Bool) (read : LogReadState)
  | leaving
  | done
deriving Repr

/-- A monitor: its entry in the registry (`provider`, `logRoot`, `entryState`) and the
variables of its task. -/
structure LogMonitor where
  provider : String
  logRoot : String
  entryState : LogReadState
  state : LogReadState
  deadline : Nat
  pc : MonitorPc := .selecting
deriving Repr

structure MonitorWorld where
  db : Db
  monitors : Slots String LogMonitor := Slots.empty

/-- A step, with what its surroundings answer. -/
inductive MonitorAct where
  | other (op : DbOp)
  | prepare (agentId provider logRoot : String) (cursors : List (String × Nat)) (clock : Nat)
  | cancelByOther (agentId : String)
  | select (i : Nat) (timer : Bool)
  | checkDeadline (i clock : Nat)
  | queryState (i : Nat) (dbError : Bool)
  | read (i : Nat) (outcome : Option (List LogCompletion × LogReadState))
  | tick (i : Nat) (env : CompletionEnv) (now : Int)
  | finish (i clock : Nat)
  | cancel (i : Nat)

namespace LogMonitor

def goto (m : LogMonitor) (pc : MonitorPc) : LogMonitor := { m with pc := pc }

/-- `tokio::select!`: a used channel ends the loop; if both branches are ready either one
may be taken. -/
def select (m : LogMonitor) (signalled timer : Bool) : LogMonitor :=
  if timer then m.goto .checking else if signalled then m.goto .done else m

def checkDeadline (m : LogMonitor) (clock : Nat) : LogMonitor :=
  m.goto (if m.deadline ≤ clock then .expired else .querying)

/-- A failed query ends the loop without a cancel. -/
def queryState (m : LogMonitor) (dbError : Bool) (state : Option AgentState) : LogMonitor :=
  if dbError then m.goto .done
  else if state = some .waitingForAck ∨ state = some .busy then m.goto .reading
  else m.goto .leaving

/-- An unreadable log keeps the loop going. -/
def read (m : LogMonitor) : Option (List LogCompletion × LogReadState) → LogMonitor
  | none => m.goto .selecting
  | some (completions, state) => m.goto (.ticking completions state)

/-- After the tick: new progress extends the deadline, a completed turn ends the loop. -/
def finish (m : LogMonitor) (clock : Nat) (completed : Bool) (read : LogReadState) : LogMonitor :=
  { m with
    state := read
    deadline := if logMonitorObservedProgress m.state read then clock + maxLogMonitorWaitMs
      else m.deadline
    pc := if completed then .leaving else .selecting }

end LogMonitor

namespace MonitorWorld

/-- The task of monitor `i` with its agent, if it stands where the step begins. -/
def standing (w : MonitorWorld) (i : Nat) (p : MonitorPc → Bool) : Option (String × LogMonitor) :=
  w.monitors.tasks[i]?.filter fun task => p task.2.pc

/-- One completion of the log: the loop ends with the first one that changes something. -/
def tickOne (w : MonitorWorld) (i : Nat) (agentId : String) (m : LogMonitor) (env : CompletionEnv)
    (now : Int) : MonitorWorld :=
  match m.pc with
  | .ticking [] read => { w with monitors := w.monitors.modify i (·.goto (.finishing false read)) }
  | .ticking (c :: rest) read =>
    let r := markAgentIdleLogEventOutcomeSync env w.db agentId m.provider c.reply c.rawPath
      c.rawOffset c.turnId now
    let completed := match r with
      | .ok (outcome, _) => decide (0 < outcome.changes)
      | .error _ => false
    { db := commit r w.db
      monitors := w.monitors.modify i (·.goto
        (if completed then .finishing true read else .ticking rest read)) }
  | _ => w

/-- `registry::update_state` writes to whatever entry the agent has. -/
def updateState (monitors : Slots String LogMonitor) (agentId : String) (state : LogReadState) :
    Slots String LogMonitor :=
  match monitors.entry agentId with
  | some j => monitors.modify j ({ · with entryState := state })
  | none => monitors

def apply (w : MonitorWorld) : MonitorAct → MonitorWorld
  | .other op => { w with db := op.apply w.db }
  | .prepare agentId provider logRoot cursors clock =>
    { w with
      monitors := w.monitors.register agentId
        { provider := provider, logRoot := logRoot, entryState := ⟨cursors, []⟩
          state := ⟨cursors, []⟩, deadline := clock + maxLogMonitorWaitMs } }
  | .cancelByOther agentId => { w with monitors := w.monitors.cancel agentId }
  | .select i timer =>
    match w.standing i (· matches .selecting) with
    | some _ => { w with monitors := w.monitors.modify i (·.select (w.monitors.signalled i) timer) }
    | none => w
  | .checkDeadline i clock =>
    match w.standing i (· matches .checking) with
    | some _ => { w with monitors := w.monitors.modify i (·.checkDeadline clock) }
    | none => w
  | .queryState i dbError =>
    match w.standing i (· matches .querying) with
    | some (agentId, _) =>
      { w with monitors := w.monitors.modify i (·.queryState dbError (w.db.stateOf agentId)) }
    | none => w
  | .read i outcome =>
    match w.standing i (· matches .reading) with
    | some _ => { w with monitors := w.monitors.modify i (·.read outcome) }
    | none => w
  | .tick i env now =>
    match w.standing i (· matches .ticking ..) with
    | some (agentId, m) => w.tickOne i agentId m env now
    | none => w
  | .finish i clock =>
    match w.standing i (· matches .finishing ..) with
    | some (agentId, { pc := .finishing completed read, .. }) =>
      { w with
        monitors := (updateState w.monitors agentId read).modify i (·.finish clock completed read) }
    | _ => w
  | .cancel i =>
    match w.standing i (· matches .leaving | .expired) with
    | some (agentId, _) =>
      { w with monitors := (w.monitors.cancel agentId).modify i (·.goto .done) }
    | none => w

def Step (w : MonitorWorld) (a : MonitorAct) (w' : MonitorWorld) : Prop := w' = w.apply a

end MonitorWorld

/-- The monitor whose task takes the step. -/
def MonitorAct.monitor : MonitorAct → Option Nat
  | select i _ | checkDeadline i _ | queryState i _ | read i _ | tick i _ _ | finish i _
  | cancel i => some i
  | other _ | prepare .. | cancelByOther _ => none

/-- A monitor's task removes the registration of another monitor or uses its channel. -/
def DisturbsOtherMonitor (t : Transition MonitorWorld MonitorAct) : Prop :=
  ∃ i, t.act.monitor = some i ∧ t.pre.monitors.DisturbsOther t.post.monitors i

/-- The condition on a step: a task that cancels has not been signalled itself, or finds
no entry for its agent. -/
def MonitorAct.CancelsOwn (w : MonitorWorld) : MonitorAct → Prop
  | cancel i => ∀ agentId m, w.standing i (· matches .leaving | .expired) = some (agentId, m) →
      w.monitors.signalled i = false ∨ w.monitors.entry agentId = none
  | _ => True

namespace MonitorWorld

variable {w : MonitorWorld}

theorem keyOf_of_standing
    (h : w.standing i p = some (agentId, m)) : w.monitors.keyOf i = some agentId := by
  obtain ⟨found, -⟩ := Option.filter_eq_some_iff.mp h
  simp [Slots.keyOf, found]

/-- The monitors of the world keep their entries and channels. -/
def SameRegistry (w w' : MonitorWorld) : Prop :=
  w'.monitors.entry = w.monitors.entry ∧ w'.monitors.signalled = w.monitors.signalled

theorem sameRegistry_tickOne (agentId : String) (m : LogMonitor) (env : CompletionEnv) (now : Int) :
    w.SameRegistry (w.tickOne i agentId m env now) := by
  unfold tickOne
  split <;> exact ⟨rfl, rfl⟩

theorem sameRegistry_apply (h : a.monitor = some i) (hc : a ≠ .cancel i) :
    w.SameRegistry (w.apply a) := by
  cases a with
  | other | prepare | cancelByOther => cases h
  | select | checkDeadline | queryState | read =>
    simp only [apply]
    split <;> exact ⟨rfl, rfl⟩
  | tick =>
    simp only [apply]
    split
    · exact sameRegistry_tickOne ..
    · exact ⟨rfl, rfl⟩
  | finish =>
    simp only [apply]
    split
    · unfold updateState
      split <;> exact ⟨rfl, rfl⟩
    · exact ⟨rfl, rfl⟩
  | cancel => cases h; exact absurd rfl hc

end MonitorWorld

theorem disturbsOtherMonitor_cancel (w : MonitorWorld) (i : Nat) :
    ¬w.monitors.DisturbsOther (w.apply (.cancel i)).monitors i ↔
      (MonitorAct.cancel i).CancelsOwn w := by
  cases h : w.standing i (· matches .leaving | .expired) with
  | none =>
    simp only [MonitorWorld.apply, h]
    exact iff_of_true (Slots.not_disturbsOther_of_eq rfl rfl) (by simp [MonitorAct.CancelsOwn, h])
  | some task =>
    obtain ⟨agentId, m⟩ := task
    have rule := Slots.disturbsOther_cancel (MonitorWorld.keyOf_of_standing h)
    simp only [MonitorWorld.apply, h, MonitorAct.CancelsOwn, Option.some.injEq, Prod.mk.injEq]
    constructor
    · rintro hd _ _ ⟨rfl, rfl⟩
      exact rule.mp hd
    · intro hc
      exact rule.mpr (hc agentId m ⟨rfl, rfl⟩)

theorem disturbsOtherMonitor_step (step : w.Step a w') :
    ¬DisturbsOtherMonitor ⟨w, a, w'⟩ ↔ a.CancelsOwn w := by
  rw [step]
  by_cases hc : ∃ i, a = .cancel i
  · obtain ⟨i, rfl⟩ := hc
    rw [← disturbsOtherMonitor_cancel w i]
    simp [DisturbsOtherMonitor, MonitorAct.monitor]
  · push Not at hc
    have own : a.CancelsOwn w := by
      cases a <;> first | trivial | exact absurd rfl (hc _)
    refine iff_of_true ?_ own
    rintro ⟨i, hi, disturbs⟩
    obtain ⟨entry, signalled⟩ := MonitorWorld.sameRegistry_apply hi (hc i)
    exact Slots.not_disturbsOther_of_eq entry signalled disturbs

/-- In a run no monitor's task disturbs another monitor exactly when every task that
cancels has not been signalled itself, or finds no entry for its agent. -/
theorem disturbsOtherMonitor_run {w w' : MonitorWorld}
    {ts : List (Transition MonitorWorld MonitorAct)} (run : Run MonitorWorld.Step w ts w') :
    (∀ t ∈ ts, ¬DisturbsOtherMonitor t) ↔ ∀ t ∈ ts, t.act.CancelsOwn t.pre :=
  run.forall_transition_iff (fun _ _ _ _ _ => trivial)
    (fun _ _ _ _ step => disturbsOtherMonitor_step step) trivial

/-- The first monitor reads the end of the first job's turn. -/
def readTurn : List MonitorAct :=
  [.other (.dispatchQueuedJob "a1" 1), .prepare "a1" "claude" "/logs" [("/logs/t.jsonl", 0)] 0,
    .select 0 true, .checkDeadline 0 250, .queryState 0 false,
    .read 0 (some ([⟨some "t1", some "done", "/logs/t.jsonl", 80⟩], ⟨[("/logs/t.jsonl", 80)], []⟩)),
    .tick 0 .blank 2]

def leavesAlone : List (Transition MonitorWorld MonitorAct) :=
  trace MonitorWorld.apply { db := idleAgentDb } (readTurn ++ [.finish 0 260, .cancel 0])

/-- The monitor leaves before the next dispatch. -/
theorem disturbsOtherMonitor_run_alone :
    (∀ t ∈ leavesAlone, t.act.CancelsOwn t.pre) ∧ ∀ t ∈ leavesAlone, ¬DisturbsOtherMonitor t := by
  rw [leavesAlone, disturbsOtherMonitor_run (Run.of_list _ _), and_self]
  simp only [readTurn, List.cons_append, List.nil_append, trace, List.forall_mem_cons]
  refine ⟨trivial, trivial, trivial, trivial, trivial, trivial, trivial, trivial, ?_, by simp⟩
  intro agentId m _
  exact .inl (by decide)

/-- The second job is dispatched between the completion and the first monitor's cancel,
which removes the second monitor. -/
theorem disturbsOtherMonitor_next_dispatch :
    ¬∀ (w w' : MonitorWorld) (ts : List (Transition MonitorWorld MonitorAct)),
      Run MonitorWorld.Step w ts w' → ∀ t ∈ ts, ¬DisturbsOtherMonitor t := by
  intro h
  have none := h _ _ _ (Run.of_list { db := idleAgentDb } (readTurn ++
    [.other (.insertJob "j2" "a1" none "next" 3), .other (.dispatchQueuedJob "a1" 4),
      .prepare "a1" "claude" "/logs" [("/logs/t.jsonl", 80)] 255, .finish 0 260, .cancel 0]))
  simp only [readTurn, List.cons_append, List.nil_append, trace, List.forall_mem_cons] at none
  exact none.2.2.2.2.2.2.2.2.2.2.2.1 ⟨0, rfl, 1, by decide, .inl ⟨"a1", by decide, by decide⟩⟩

end Ccbd
