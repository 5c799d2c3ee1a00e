import Ccbd.Db.StateMachine
import Ccbd.Lib.Procedure

/-!
# The health check

The watcher observes an agent, judges its layers and escalates: an alert if only the
completion layer is dead, STUCK otherwise. The escalation is a sequence of separate
transactions. Its alerts, and its second report of a STUCK agent, are stored as
`state_change` events. So are the alerts of the watcher that compares the panes of working agents
from tick to tick.
-/

namespace Ccbd

open Lib

inductive CompletionSignalKind where
  | logOnly
deriving DecidableEq, Repr

/-- The `completion_signal` of the provider's manifest; all manifests have the same. -/
def completionSignal (_provider : String) : CompletionSignalKind := .logOnly

inductive HealthLayer where
  | tmux
  | predicate
  | completion
deriving DecidableEq, Repr

def HealthLayer.asStr : HealthLayer → String
  | tmux => "tmux"
  | predicate => "predicate"
  | completion => "completion"

structure HealthCheckObservation where
  agentId : String
  provider : String
  state : AgentState
  paneCapture : String
  paneCaptureOk : Bool
  lastOutputTs : Option Int
  lastMarkerTs : Option Int
  dispatchedAt : Option Int
  nowTs : Int

structure HealthCheckResult where
  alive : Bool
  deadLayers : List HealthLayer
  lastProgressTs : Int
deriving DecidableEq, Repr

/-- `i64::saturating_sub`. -/
def saturatingSub (a b : Int) : Int :=
  max (-9223372036854775808) (min 9223372036854775807 (a - b))

def isWorkingState : AgentState → Bool
  | .waitingForAck | .busy => true
  | _ => false

/-- `detect` is the startup probe of a provider on a pane. -/
def healthCheckObserve (detect : String → String → Bool) (o : HealthCheckObservation)
    (stuckThresholdSecs : Int) : HealthCheckResult :=
  let lastProgressTs :=
    max (max (o.lastMarkerTs.getD 0) (o.lastOutputTs.getD 0)) (o.dispatchedAt.getD 0)
  let tmux := if o.paneCaptureOk then [] else [HealthLayer.tmux]
  let predicate := if o.state = .spawning && !detect o.provider o.paneCapture then
    [HealthLayer.predicate] else []
  let completion := if isWorkingState o.state && 0 < lastProgressTs &&
      stuckThresholdSecs < saturatingSub o.nowTs lastProgressTs then
    [HealthLayer.completion] else []
  let deadLayers := tmux ++ predicate ++ completion
  { alive := deadLayers.isEmpty, deadLayers := deadLayers, lastProgressTs := lastProgressTs }

/-! ## Payloads -/

def stoppedUndeclaredPayload (state : AgentState) (jobId : Option String) (elapsedSecs : Int) :
    Json :=
  .obj [("elapsed_secs", .num elapsedSecs), ("from", .str state.asDbStr),
    ("job_id", Json.ofOptStr jobId), ("reason", .str "STOPPED_UNDECLARED_ALERT"),
    ("to", .str state.asDbStr)]

def healthStuckPayload (state : AgentState) (jobId : Option String) (deadLayers : List HealthLayer)
    (elapsedSecs : Int) : Json :=
  .obj [("elapsed_secs", .num elapsedSecs), ("from", .str state.asDbStr),
    ("job_id", Json.ofOptStr jobId), ("reason", .str "HEALTH_CHECK_STUCK"),
    ("signal_kinds", .arr (deadLayers.map fun layer => .str ("health:" ++ layer.asStr))),
    ("to", .str "STUCK")]

def queuedStarvationPayload (jobId : String) (elapsedSecs : Int) : Json :=
  .obj [("elapsed_secs", .num elapsedSecs), ("from", .str "QUEUED"), ("job_id", .str jobId),
    ("reason", .str "QUEUED_STARVATION_ALERT"), ("to", .str "QUEUED")]

structure StuckSignal where
  agentId : String
  signalKinds : List String
  elapsedSecs : Int

def paneDiffStuckPayload (signal : StuckSignal) (state : AgentState) (jobId : Option String) :
    Json :=
  .obj [("elapsed_secs", .num signal.elapsedSecs), ("from", .str state.asDbStr),
    ("job_id", Json.ofOptStr jobId), ("reason", .str "PANE_DIFF_STUCK_ALERT"),
    ("signal_kinds", .arr (signal.signalKinds.map .str)), ("to", .str state.asDbStr)]

def uiRecapturePayload (paneText : String) (state : AgentState) (jobId : Option String) : Json :=
  .obj [("from", .str state.asDbStr), ("job_id", Json.ofOptStr jobId),
    ("pane_text", .str paneText), ("reason", .str "UI_RECAPTURE_ALERT"),
    ("to", .str state.asDbStr)]

/-! ## Escalation -/

/-- The two transactions after the agent was marked: read its job, report. -/
def reportHealthStuck (o : HealthCheckObservation) (result : HealthCheckResult) (now : Int) :
    EStateM CcbdError Db Unit := do
  let db ← get
  let jobId := (queryDispatchedJobForAgentSync db o.agentId).map Prod.fst
  let _ ← atomic fun db => insertEventSync db o.agentId none "state_change"
    (healthStuckPayload o.state jobId result.deadLayers
      (saturatingSub o.nowTs result.lastProgressTs)) now

def alertStoppedUndeclared (o : HealthCheckObservation) (result : HealthCheckResult) (now : Int) :
    EStateM CcbdError Db Nat := do
  let db ← get
  let jobId := (queryDispatchedJobForAgentSync db o.agentId).map Prod.fst
  let _ ← atomic fun db => insertEventSync db o.agentId none "state_change"
    (stoppedUndeclaredPayload o.state jobId (saturatingSub o.nowTs result.lastProgressTs)) now
  return 0

/-- The agent is marked, and reported if the mark took effect. -/
def markAndReportStuck (o : HealthCheckObservation) (result : HealthCheckResult) (now : Int) :
    EStateM CcbdError Db Nat := do
  let outcome ← atomic fun db => markAgentStuckOutcomeSync db o.agentId "HEALTH_CHECK_STUCK" now
  if outcome.changes = 0 then return 0
  else do
    reportHealthStuck o result now
    return outcome.changes

def escalateHealthStuck (detect : String → String → Bool) (o : HealthCheckObservation)
    (stuckThresholdSecs now : Int) : EStateM CcbdError Db Nat :=
  let result := healthCheckObserve detect o stuckThresholdSecs
  if result.alive || !isActiveState o.state then pure 0
  else if result.deadLayers.contains .completion && o.paneCaptureOk &&
      completionSignal o.provider = .logOnly then
    alertStoppedUndeclared o result now
  else markAndReportStuck o result now

/-- An alert of the pane watcher: it reads the state of the agent and its job, and stores them. -/
def alertPaneDiff (agentId : String) (payload : AgentState → Option String → Json) (now : Int) :
    EStateM CcbdError Db Unit := do
  let state := ((← get).stateOf agentId).getD .busy
  let jobId := (queryDispatchedJobForAgentSync (← get) agentId).map Prod.fst
  let _ ← atomic fun db =>
    insertEventSync db agentId none "state_change" (payload state jobId) now

def escalatePaneDiffStuck (signal : StuckSignal) (now : Int) : EStateM CcbdError Db Unit :=
  alertPaneDiff signal.agentId (paneDiffStuckPayload signal) now

def escalatePaneDiffUiRecapture (agentId paneText : String) (now : Int) :
    EStateM CcbdError Db Unit :=
  alertPaneDiff agentId (uiRecapturePayload paneText) now

end Ccbd
