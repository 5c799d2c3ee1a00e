import Ccbd.Lib.Procedure
import Ccbd.Prompt.Actions

/-!
# The prompt runner

The runner looks at a pane again and again. A screen it knows is answered with the actions that
were saved for it, one that shows an idle prompt is probed with a letter that is then deleted,
and an unknown screen that does not change may be shown to a model, whose answer is carried out
if it is safe and sure enough.

The pane, the knowledge base behind the classification and the model answer as they like, from a
world of their own. What is typed is recorded with where it came from.
-/

namespace Ccbd.Prompt

open Lib Reply

/-! ## What the runner works with -/

/-- The values of `f64`. -/
inductive F64 where
  | nan
  | negInf
  | posInf
  | finite (value : Rat)
deriving DecidableEq, Repr

/-- The comparison `<`, which is false of anything that is not a number. -/
def F64.lt : F64 → F64 → Bool
  | nan, _ | _, nan => false
  | negInf, negInf => false
  | negInf, _ => true
  | posInf, _ => false
  | _, negInf => false
  | _, posInf => true
  | finite a, finite b => a < b

/-- The number that `0.8` stands for. -/
def confidenceThreshold : F64 := .finite (3602879701896397 / 4503599627370496)

abbrev Hash := List UInt8

inductive GateSkipReason where
  | sameHash
  | idleMarker
  | emptyCapture
deriving DecidableEq, Repr

inductive PromptGateDecision where
  | skip (reason : GateSkipReason) (sanitizedHash : Hash)
  | knownAction (caseId : String) (actions : List PromptAction) (sanitizedHash : Hash)
  | unknown (sanitizedHash : Hash) (sanitizedText : String)
  | lookupFailed (error : String) (sanitizedHash : Hash) (sanitizedText : String)
deriving DecidableEq, Repr

structure LlmOutcome where
  category : String
  action : List PromptAction
  confidence : F64
  safe : Bool
  suggestedRegex : Option String
deriving DecidableEq, Repr

inductive LlmError where
  | missingKey
  | timeout
  | transport (details : String)
  | invalidResponse (details : String)
  | invalidOutput (details : String)
deriving DecidableEq, Repr

structure NewPromptExperience where
  id : String
  provider : Option String
  fingerprintRegex : String
  action : List PromptAction
  category : String
  confidence : F64
  source : String
  triggerState : Option String

/-- Text functions of libraries. -/
structure PromptTexts where
  sanitizePaneText : String → String
  hashSanitizedText : String → Hash
  hashHex : Hash → String
  regexEscape : String → String
  isAlphanumeric : Char → Bool

/-- The world answers each call and changes as it likes. -/
structure RunnerContext (σ : Type) where
  provider : String
  currentState : String
  capturePane : σ → Except CcbdError String × σ
  sendKeyLiteral : String → σ → Except CcbdError Unit × σ
  sendKeyKeysym : String → σ → Except CcbdError Unit × σ
  classifyCapture : Option Hash → String → σ → PromptGateDecision × σ
  llmClassifier : Option (String → String → String → σ → Except LlmError LlmOutcome × σ)
  promptExperience : Option (NewPromptExperience → σ → Except CcbdError Unit × σ)
  texts : PromptTexts

/-- Where a key comes from. -/
inductive KeyOrigin where
  | probe
  | known (caseId : String)
  | llm (outcome : LlmOutcome)

structure SentKey where
  origin : KeyOrigin
  key : ValidatedAction

/-- The world, and what has been typed into the pane. -/
structure Runner (σ : Type) where
  world : σ
  sent : List SentKey

structure PromptSnapshot where
  sanitizedHash : Hash
  sanitizedText : String
deriving DecidableEq, Repr

inductive PromptRunOutcome where
  | noActionNeeded (depth : Nat)
  | retryLater (depth : Nat)
  | pending (snapshot : PromptSnapshot) (depth : Nat) (blockReason : String)
  | depthExceeded (snapshot : PromptSnapshot) (depth : Nat)
  | executorFailed (error : CcbdError) (depth : Nat)

def isPromptHandlingProvider (provider : String) : Bool :=
  provider = "codex" ∨ provider = "claude"

def isLlmSteadyState (state : String) : Bool := state = "IDLE" ∨ state = "BUSY"

variable {σ : Type}

abbrev RunnerM (σ : Type) := EStateM CcbdError (Runner σ)

/-- A call that the world answers. -/
def ask {α : Type} (call : σ → α × σ) : RunnerM σ α := fun r =>
  .ok (call r.world).1 { r with world := (call r.world).2 }

variable (ctx : RunnerContext σ)

def send (origin : KeyOrigin) (key : ValidatedAction) : RunnerM σ Unit := do
  modify fun r => { r with sent := r.sent ++ [⟨origin, key⟩] }
  let result ← match key with
    | .key value => ask (ctx.sendKeyKeysym value)
    | .literal value => ask (ctx.sendKeyLiteral value)
  ofResult result

/-! ## The input probe -/

def trimStart (line : List Char) : List Char := line.dropWhile isWhitespace

/-- The text after the prompt sign of claude, if there is one. -/
def claudeInputLinePayload (line : List Char) : Option (List Char) :=
  match trimStart line with
  | '❯' :: rest => if trim rest = [] then none else some (trim rest)
  | _ => none

def isClaudeGhostPlaceholder (payload : List Char) : Bool := "Try \"".toList.isPrefixOf payload

def isClaudeEmptyInputLine (line : List Char) : Bool :=
  (trimStart line).head? = some '❯' ∧ (claudeInputLinePayload line).all isClaudeGhostPlaceholder

def captureContainsClaudeModelMarker (texts : PromptTexts) (capture : String) : Bool :=
  (capture.toList.splitOnP (!texts.isAlphanumeric ·)).any fun token =>
    String.ofList token ∈ ["Sonnet", "Opus", "Haiku"]

def inputProbeLiteral (provider : String) : String :=
  if provider = "codex" ∨ provider = "claude" then "x" else ""

def isInputCandidate (texts : PromptTexts) (provider capture : String) : Bool :=
  if provider = "codex" then
    (lines capture.toList).any fun line => (trimStart line).head? = some '›'
  else if provider = "claude" then
    captureContainsClaudeModelMarker texts capture &&
      (lines capture.toList).any isClaudeEmptyInputLine
  else false

def probeEchoed (provider capture probe : String) : Bool :=
  if provider = "codex" then
    (lines capture.toList).any fun line => ("› " ++ probe).toList.isPrefixOf (trimStart line)
  else if provider = "claude" then
    (lines capture.toList).any fun line => claudeInputLinePayload line = some probe.toList
  else false

def canInputProbeCaptureAttempts : Nat := 3

/-- Captures until one shows what is waited for. A capture that fails after one that did not ends
the wait. -/
def waitForProbe (ctx : RunnerContext σ) (reached : String → Bool) :
    Nat → Bool → RunnerM σ Bool
  | 0, _ => pure false
  | attempts + 1, capturedOnce => do
    match ← ask ctx.capturePane with
    | .ok capture => if reached capture then pure true else waitForProbe ctx reached attempts true
    | .error err => if capturedOnce then pure false else throw err

def waitForProbeEcho (probe : String) : RunnerM σ Bool :=
  waitForProbe ctx (probeEchoed ctx.provider · probe) canInputProbeCaptureAttempts false

def waitForProbeCleanup (probe : String) : RunnerM σ Bool :=
  waitForProbe ctx (!probeEchoed ctx.provider · probe) canInputProbeCaptureAttempts false

/-- Whether the pane takes input; an error is that of the pane. -/
def confirmCanInput (capture : String) : RunnerM σ Bool := do
  let probe := inputProbeLiteral ctx.provider
  if probe = "" ∨ isInputCandidate ctx.texts ctx.provider capture = false then pure false
  else
    send ctx .probe (.literal probe)
    if ← waitForProbeEcho ctx probe then
      send ctx .probe (.key "BSpace")
      waitForProbeCleanup ctx probe
    else
      send ctx .probe (.key "BSpace")
      pure false

/-! ## Actions -/

def executeActions (origin : KeyOrigin) (actions : List PromptAction) : RunnerM σ Unit := do
  let _ ← forEach (fun action : PromptAction =>
    match action.validate with
    | .ok key => send ctx origin key
    | .error err => throw err.toCcbdError) actions

inductive LlmSlowPathDecision where
  | action (outcome : LlmOutcome)
  | pending (reason : String)
  | notAttempted

def llmErrorBlockReason : LlmError → String
  | .timeout => "llm_timeout"
  | .transport _ | .invalidResponse _ | .invalidOutput _ => "llm_error"
  | .missingKey => "unknown_prompt"

/-- What is learned from an answer. -/
def experienceOf (sanitizedText : String) (outcome : LlmOutcome) : NewPromptExperience where
  id := "llm-haiku-4.5:" ++ ctx.provider ++ ":" ++
    ctx.texts.hashHex (ctx.texts.hashSanitizedText sanitizedText)
  provider := some ctx.provider
  fingerprintRegex := (outcome.suggestedRegex.filter (trimmed · ≠ "")).getD
    (ctx.texts.regexEscape sanitizedText)
  action := outcome.action
  category := outcome.category
  confidence := outcome.confidence
  source := "llm-haiku-4.5"
  triggerState := some ctx.currentState

def tryLlmSlowPath (capture sanitizedText : String) : RunnerM σ LlmSlowPathDecision := do
  if isLlmSteadyState ctx.currentState = false then pure .notAttempted
  else if isPromptHandlingProvider ctx.provider = false then pure .notAttempted
  else
    match ctx.llmClassifier with
    | none => pure .notAttempted
    | some classifyPrompt =>
      match ← ask (classifyPrompt capture ctx.provider ctx.currentState) with
      | .error .missingKey => pure .notAttempted
      | .error err => pure (.pending (llmErrorBlockReason err))
      | .ok outcome =>
        if outcome.safe = false then pure (.pending "llm_unsafe")
        else if outcome.confidence.lt confidenceThreshold then pure (.pending "llm_low_confidence")
        else
          match ctx.promptExperience with
          | none => pure (.action outcome)
          | some record =>
            let _ ← ask (record (experienceOf ctx sanitizedText outcome))
            pure (.action outcome)

variable {ctx}

/-! ## The chain -/

structure UnknownStability where
  lastHash : Option Hash := none
  lastText : Option String := none
  stableScans : Nat := 0
  totalScans : Nat := 0

def unknownStableScanThreshold : Nat := 3

/-- Records a scan; it is stable when the same screen was seen often enough. -/
def UnknownStability.record (u : UnknownStability) (hash : Hash) (text : String) :
    UnknownStability × Bool :=
  let u := { u with totalScans := u.totalScans + 1 }
  let u := if u.lastHash = some hash then { u with stableScans := u.stableScans + 1 }
    else { u with lastHash := some hash, lastText := some text, stableScans := 1 }
  (u, unknownStableScanThreshold ≤ u.stableScans)

def UnknownStability.lastSnapshot (u : UnknownStability) : Option PromptSnapshot := do
  return ⟨← u.lastHash, ← u.lastText⟩

/-- The variables of the loop. -/
structure ChainState where
  depth : Nat := 0
  previousHash : Option Hash := none
  sameHashSkips : Nat := 0
  emptyCaptureSkips : Nat := 0
  unknownStability : UnknownStability := {}
  matchedCaseId : Option String := none

/-- A turn ends the chain or goes on with new variables. -/
inductive Turn where
  | done (outcome : PromptRunOutcome)
  | again (st : ChainState)

section

variable (ctx : RunnerContext σ) (maxDepth : Nat)

variable (st : ChainState)

def ChainState.blockReason : String := st.matchedCaseId.getD "unknown_prompt"

def snapshotOf (hash : Hash) (capture : String) : PromptSnapshot :=
  ⟨hash, ctx.texts.sanitizePaneText capture⟩

/-- Actions are carried out; the chain goes on when all were sent. -/
def runActions (origin : KeyOrigin) (actions : List PromptAction) (st : ChainState)
    (hash : Hash) : RunnerM σ Turn := do
  match ← attempt (executeActions ctx origin actions) with
  | .error err => pure (.done (.executorFailed err st.depth))
  | .ok () =>
    pure (.again { st with
      depth := st.depth + 1
      previousHash := some hash
      sameHashSkips := 0
      emptyCaptureSkips := 0 })

/-- The screen shows an idle prompt, or nothing that can be done about it. -/
def skipIdle (reason : GateSkipReason) (hash : Hash) (capture : String) : Turn :=
  match st.matchedCaseId with
  | some caseId => .done (.pending (snapshotOf ctx hash capture) st.depth caseId)
  | none =>
    if reason = .idleMarker ∧ isPromptHandlingProvider ctx.provider = true then
      .done (.pending (snapshotOf ctx hash capture) st.depth "unknown_prompt")
    else .done (.noActionNeeded st.depth)

def onSkip (reason : GateSkipReason) (hash : Hash) (capture : String) : RunnerM σ Turn := do
  let st := { st with unknownStability := {} }
  match reason with
  | .emptyCapture =>
    let st := { st with emptyCaptureSkips := st.emptyCaptureSkips + 1 }
    if st.emptyCaptureSkips ≤ maxDepth then pure (.again st)
    else pure (.done (.retryLater st.depth))
  | .sameHash =>
    let st := { st with sameHashSkips := st.sameHashSkips + 1 }
    if st.sameHashSkips ≤ maxDepth then pure (.again st)
    else pure (.done (.pending (snapshotOf ctx hash capture) st.depth st.blockReason))
  | .idleMarker =>
    match ← attempt (confirmCanInput ctx capture) with
    | .ok true => pure (.done (.noActionNeeded st.depth))
    | .ok false => pure (skipIdle ctx st .idleMarker hash capture)
    | .error err => pure (.done (.executorFailed err st.depth))

def onKnownAction (caseId : String) (actions : List PromptAction) (hash : Hash)
    (capture : String) : RunnerM σ Turn :=
  let st := { st with matchedCaseId := some caseId, unknownStability := {} }
  if actions = [] then pure (.done (.pending (snapshotOf ctx hash capture) st.depth caseId))
  else if maxDepth ≤ st.depth then
    pure (.done (.depthExceeded (snapshotOf ctx hash capture) st.depth))
  else runActions ctx (.known caseId) actions st hash

def onUnknown (hash : Hash) (text capture : String) : RunnerM σ Turn := do
  let (stability, stable) := st.unknownStability.record hash text
  let st := { st with unknownStability := stability }
  if stable = false then
    if max maxDepth unknownStableScanThreshold ≤ stability.totalScans then
      pure (.done (.retryLater st.depth))
    else pure (.again st)
  else
    match ← tryLlmSlowPath ctx capture text with
    | .action outcome =>
      if maxDepth ≤ st.depth then pure (.done (.depthExceeded ⟨hash, text⟩ st.depth))
      else runActions ctx (.llm outcome) outcome.action { st with unknownStability := {} } hash
    | .pending reason => pure (.done (.pending ⟨hash, text⟩ st.depth reason))
    | .notAttempted => pure (.done (.pending ⟨hash, text⟩ st.depth st.blockReason))

/-- One pass of the loop of `handle_prompt_chain`. -/
def turn : RunnerM σ Turn := do
  match ← ask ctx.capturePane with
  | .error err =>
    match st.unknownStability.lastSnapshot with
    | some snapshot => pure (.done (.pending snapshot st.depth st.blockReason))
    | none => pure (.done (.executorFailed err st.depth))
  | .ok capture =>
    match ← ask (ctx.classifyCapture st.previousHash capture) with
    | .skip reason hash => onSkip ctx maxDepth st reason hash capture
    | .knownAction caseId actions hash => onKnownAction ctx maxDepth st caseId actions hash capture
    | .unknown hash text => onUnknown ctx maxDepth st hash text capture
    | .lookupFailed error _ _ => pure (.done (.executorFailed (.dbConstraintViolation error) st.depth))

/-- The loop for a number of turns; nothing is returned if it has not ended by then. -/
def chain : Nat → ChainState → RunnerM σ (Option PromptRunOutcome)
  | 0, _ => pure none
  | turns + 1, st => do
    match ← turn ctx maxDepth st with
    | .done outcome => pure (some outcome)
    | .again st => chain turns st

/-- `handle_prompt_chain`, followed for a number of turns. -/
def handlePromptChain (turns : Nat) : RunnerM σ (Option PromptRunOutcome) :=
  chain ctx maxDepth turns {}

end

end Ccbd.Prompt
