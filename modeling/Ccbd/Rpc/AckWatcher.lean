import Ccbd.Db.StateMachine
import Ccbd.Rpc.Ack

/-!
# The acknowledgement watcher

`spawn_new_capture_seed` as a state machine. A poll asks the registries and tmux and
decides the next step without touching the database; their answers are arguments. Between a
decision and the database step it leads to, other tasks run, so the two are separate steps.
-/

namespace Ccbd

open Lib

def captureSeedStabilityMs : Nat := 500
def ackDeadlineMs : Nat := 5000

def isPromptHandlingProvider (provider : String) : Bool :=
  provider = "codex" || provider = "claude"

def isParkWhitelisted (blockReason : String) : Bool :=
  blockReason = "trust_path_01" || blockReason = "codex_update_01" ||
    "master_resolve_".toList.isPrefixOf blockReason.toList ||
    "user_".toList.isPrefixOf blockReason.toList

/-- What the scan for an interactive prompt found on the screen. -/
inductive PromptRunOutcome where
  | noActionNeeded (depth : Nat)
  | retryLater (depth : Nat)
  | pending (blockReason : String) (payload : Json)
  | depthExceeded (payload : Json)
  | executorFailed
deriving Repr

/-- Where a watcher stands: between two polls, or before its next step. -/
inductive AckPc where
  | polling
  | scanning
  | parkCheck (outcome : PromptRunOutcome)
  | parkMark (blockReason : String) (payload : Json)
  | emitUnknown (payload : Json)
  | stabilityBusy (polledAt : Nat)
  | visualBusy
  | reopening
  | markIdle
  | fallbackStuck (reason : String)
  | fallbackCrashedCheck (reason : String)
  | fallbackCrashedMark (reason : String)
  | done
deriving Repr

/-- A running watcher. The source knows the dispatch it was started for only by its
agent id; `jobId` records the job for the statements and is never read. -/
structure AckWatcher where
  agentId : String
  provider : String
  baseline : String
  allowDirectIdle : Bool
  jobId : String
  startedAt : Nat
  processedLen : Nat := 0
  busyMarked : Bool := false
  lastMeaningfulDiffAt : Option Nat := none
  pc : AckPc := .polling
deriving Repr

/-- What one turn of the loop is told. `meaningfulDiff` is `is_meaningful_diff` of the
baseline and the capture, `seedMatches` the marker scan of the capture alone,
`parserMatches` the marker scan of the agent's parser. -/
structure AckAnswers where
  loopAt : Nat
  paneRegistered : Bool
  parserRegistered : Bool
  capture : Option String
  now : Nat
  meaningfulDiff : Bool
  seedMatches : Bool
  parserMatches : Bool
deriving Repr

namespace AckWatcher

variable (w : AckWatcher)

/-- The end of a turn without a new difference: stop once the screen is stable. -/
def settle (now : Nat) : AckWatcher :=
  if w.lastMeaningfulDiffAt.any (captureSeedStabilityMs ≤ now - ·) then { w with pc := .done }
  else { w with pc := .polling }

/-- A turn with a capture that differs from the baseline. -/
def pollDiff (x : AckAnswers) (capture : String) : AckWatcher :=
  let firstMeaningfulDiff := w.lastMeaningfulDiffAt.isNone
  let w := { w with lastMeaningfulDiffAt := some x.now }
  if firstMeaningfulDiff && !w.busyMarked then
    { w with pc := if isPromptHandlingProvider w.provider then .scanning else .visualBusy }
  else if !w.baseline.toList.isPrefixOf capture.toList &&
      !capture.toList.tails.any w.baseline.toList.isPrefixOf then
    { w with pc := if w.allowDirectIdle && x.seedMatches then .markIdle else .polling }
  else if !w.baseline.toList.isPrefixOf capture.toList then
    { w with pc := .fallbackStuck "capture_baseline_mismatch_during_ack" }
  else
    let suffixLen := capture.utf8ByteSize - w.baseline.utf8ByteSize
    if suffixLen ≤ w.processedLen then { w with pc := .polling }
    else
      { w with
        processedLen := suffixLen
        pc := if w.allowDirectIdle && x.parserMatches then .markIdle else .polling }

/-- One turn of the loop, up to its first database step. -/
def poll (x : AckAnswers) : AckWatcher :=
  if w.startedAt + ackDeadlineMs ≤ x.loopAt then
    { w with pc := .fallbackStuck "ack_deadline_timeout" }
  else if !x.paneRegistered then
    { w with pc := .fallbackCrashedCheck "pane_unregistered_during_ack" }
  else if !x.parserRegistered then
    { w with pc := .fallbackCrashedCheck "reader_unregistered_during_ack" }
  else match x.capture with
  | none => { w with pc := .fallbackStuck "tmux_capture_failed_during_ack" }
  | some capture =>
    if x.meaningfulDiff then w.pollDiff x capture
    else if !w.busyMarked && captureSeedStabilityMs ≤ x.now - w.startedAt then
      { w with pc := .stabilityBusy x.now }
    else w.settle x.now

/-- The scan for a prompt has run. -/
def scan : PromptRunOutcome → AckWatcher
  | .noActionNeeded 0 => { w with pc := .visualBusy }
  | .noActionNeeded (_ + 1) =>
    { w with pc := .polling, processedLen := 0, lastMeaningfulDiffAt := none }
  | .retryLater _ => { w with pc := .visualBusy }
  | .executorFailed => { w with pc := .visualBusy }
  | outcome => { w with pc := .parkCheck outcome }

/-- The parser was scanned after the idle scan was opened again. -/
def reopen (matched : Bool) : AckWatcher :=
  { w with busyMarked := true, pc := if matched then .markIdle else .polling }

/-- What the park check does with an unknown prompt, given the agent's state and whether
the screen still changes. -/
def park (stabilizing : Bool) (outcome : PromptRunOutcome) : Option AgentState → AckWatcher
  | none | some .waitingForAck | some .busy => { w with pc := .visualBusy }
  | some state =>
    if state = .spawning && stabilizing then { w with pc := .visualBusy }
    else match outcome with
    | .pending blockReason payload =>
      if isParkWhitelisted blockReason then { w with pc := .parkMark blockReason payload }
      else { w with pc := .emitUnknown payload }
    | .depthExceeded payload => { w with pc := .emitUnknown payload }
    | _ => { w with pc := .visualBusy }

/-- After an attempt to mark the agent BUSY. `ackMarkBusyOrResolveOnce` runs under the
connection's lock and never answers `deferred`, so there is nothing to retry. -/
def busyMark (next : AckWatcher) : Except CcbdError (AckBusyOutcome × Db) → AckWatcher
  | .ok (.markedBusy, _) | .ok (.alreadyBusy, _) => next
  | _ => { w with pc := .done }

/-- The database step the watcher stands before. -/
def act (env : CompletionEnv) (stabilizing : Bool) (db : Db) (now : Int) : AckWatcher × Db :=
  match w.pc with
  | .parkCheck outcome =>
    (w.park stabilizing outcome ((db.agents.get? w.agentId).map (·.state)), db)
  | .parkMark blockReason payload =>
    let r := markPromptPendingAndEmitUnknownSync db w.agentId blockReason payload now
    ({ w with pc := if r.isOk then .done else .visualBusy }, commit r db)
  | .emitUnknown payload =>
    -- the insert fails for an agent that is gone; the watcher goes on either way
    ({ w with pc := .visualBusy },
      if (db.agents.get? w.agentId).isSome then
        db.appendEvent w.agentId "UNKNOWN_PROMPT_DETECTED" payload now
      else db)
  | .stabilityBusy polledAt =>
    let r := ackMarkBusyOrResolveOnce db w.agentId "ACK_STABILITY_WINDOW" now
    (w.busyMark ({ w with busyMarked := true }.settle polledAt) r, commit r db)
  | .visualBusy =>
    let r := ackMarkBusyOrResolveOnce db w.agentId "ACK_VISUAL_DIFF" now
    (w.busyMark { w with pc := .reopening } r, commit r db)
  | .markIdle =>
    ({ w with pc := .done }, commit (markAgentIdleMatchedOutcomeSync env db w.agentId now) db)
  | .fallbackStuck reason =>
    ({ w with pc := .done }, commit (fallbackAckToStuck db w.agentId reason now) db)
  | .fallbackCrashedCheck reason =>
    ({ w with
      pc := if fallbackAckToCrashedProceeds db w.agentId then .fallbackCrashedMark reason
        else .done }, db)
  | .fallbackCrashedMark reason =>
    ({ w with pc := .done }, commit (markAgentCrashedSync db w.agentId none reason now) db)
  | .polling | .scanning | .reopening | .done => (w, db)

end AckWatcher

end Ccbd
