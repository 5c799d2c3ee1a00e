import Ccbd.Completion.Reply
import Ccbd.Db.Jobs

/-!
# Completion, stuck and unknown

The functions that settle the work of an agent: a matched marker, a completion event
from a log or a hook, the detection of a stuck agent and the loss of its state. The
completion functions share their end, `markIdleAndSettle`, and their possible
effects on the `agents` and `jobs` tables, `CompletionEffect`.
-/

namespace Ccbd

open Lib Reply

/-- What a completion reads outside the database. -/
structure CompletionEnv where
  /-- `completion::registry::contains` for the agent. -/
  registryContains : String → Bool
  /-- The contents of a terminal screen after it processed the chunks. -/
  vt100Screen : List String → String
  /-- `check_pending_tasks_from_log_root` for the session, the agent and the provider. -/
  pendingTasks : String → String → String → Option Bool
  /-- `recapture_content_hash`. -/
  contentHash : String → String
  /-- The text of a stored payload. -/
  jsonText : Json → String

/-- No log monitor, an empty screen and no pending tasks. -/
def CompletionEnv.blank : CompletionEnv where
  registryContains _ := false
  vt100Screen _ := ""
  pendingTasks _ _ _ := none
  contentHash text := text
  jsonText _ := ""

structure MarkerMatchedSyncOutcome where
  changes : Nat
  denialMessage : Option String := none
  deferredNudge : Option String := none
deriving DecidableEq, Repr

/-! ## Evidence -/

variable (db : Db) (agentId : String)

def hasJobEvidenceSync (jobId : String) (evidenceTypes : List String) : Bool :=
  db.evidence.rows.any fun r =>
    r.2.agentId = agentId && r.2.jobId = some jobId && r.2.evidenceType.any evidenceTypes.contains

def evidenceDenyMessage : String :=
  "SYSTEM DENY: Missing physical evidence. You must output a git diff or test result before " ++
    "finishing."

def evidenceDenialForJob (jobId : String) (job : Job) : Option String :=
  if job.requiresPhysicalEvidence &&
      !hasJobEvidenceSync db agentId jobId ["mtime_changed", "diff_generated"] then
    some evidenceDenyMessage
  else if job.requiresTestEvidence && !hasJobEvidenceSync db agentId jobId ["test_passed"] then
    some (evidenceDenyMessage ++ " Missing required evidence_type=test_passed.")
  else none

def insertEvidenceDeniedEvent (jobId message : String) (now : Int) : Db :=
  db.appendEvent agentId "evidence_denied" (.obj
    [("job_id", .str jobId), ("message", .str message),
      ("reason", .str "missing_physical_evidence")]) now

/-! ## Replies read from the event log -/

/-- The payloads of the output chunks of an agent after a sequence id. -/
def outputChunksSince (seq : Nat) : List Json :=
  (db.events.select fun s e => e.agentId = agentId && e.eventType = "output_chunk" && seq < s).map
    fun r => r.2.payload

def collectReplyForDispatchedJobSync (env : CompletionEnv) (db : Db) (agentId : String)
    (dispatchedAtSeqId : Option Nat) (promptText : String) : String :=
  match dispatchedAtSeqId with
  | none => ""
  | some seq =>
    let texts := (outputChunksSince db agentId seq).filterMap (·.strField? "text")
    let reply := distillReply (env.vt100Screen texts).toList promptText.toList
    let raw := texts.flatMap String.toList
    if reply.isEmpty && !raw.isEmpty then
      String.ofList (distillReply (stripAnsiEscapes raw) promptText.toList)
    else String.ofList reply

/-- The job id of the last idle marker since the dispatch. -/
def latestAhIdleMarkerJobId (env : CompletionEnv) (db : Db) (agentId : String)
    (dispatchedAtSeqId : Option Nat) : Option String :=
  ((outputChunksSince db agentId (dispatchedAtSeqId.getD 0)).filterMap fun payload =>
    extractAhIdleMarkerJobId ((payload.strField? "text").getD (env.jsonText payload))).getLast?

/-! ## Deferral -/

def hasCompletionDeferredEvent (jobId candidateHash : String) : Bool :=
  (db.events.select fun _ e => e.agentId = agentId && e.eventType = "completion_deferred").any
    fun r => r.2.payload.strField? "job_id" = some jobId &&
      r.2.payload.strField? "candidate_hash" = some candidateHash

def insertCompletionDeferredEvent (jobId reason candidateHash : String) (now : Int) : Db :=
  db.appendEvent agentId "completion_deferred" (.obj
    [("candidate_hash", .str candidateHash), ("job_id", .str jobId), ("reason", .str reason)]) now

def deferredNudge : String :=
  "The job is still open. Wait for the background command to finish, then report the final " ++
    "test result. Do not stop at 'waiting for cargo test'."

/-- The agent is in one of the states and has the expected version. -/
def agentMatches (states : List AgentState) (version : Int) : Bool :=
  (db.agents.get? agentId).any fun agent =>
    states.contains agent.state && agent.stateVersion = version

def handleCompletionDeferralSync (env : CompletionEnv) (db : Db)
    (agentId jobId candidateReply : String) (previousState : AgentState) (stateVersion now : Int) :
    Option String × Db :=
  let hash := env.contentHash candidateReply
  let alreadyNudged := hasCompletionDeferredEvent db agentId jobId hash
  let db := insertCompletionDeferredEvent db agentId jobId "ANTIGRAVITY_DEFERRED_BACKGROUND_WORK"
    hash now
  let db :=
    if agentMatches db agentId [.waitingForAck, .busy, .stuck] stateVersion then
      (db.modifyAgent agentId (·.enterSub .busy "Deferred" now)).appendEvent agentId "state_change"
        (.obj
          [("from", .str previousState.asDbStr), ("job_id", .str jobId),
            ("reason", .str "ANTIGRAVITY_DEFERRED_BACKGROUND_WORK"), ("schema_version", .num 1),
            ("sub_state", .str "Deferred"), ("to", .str "BUSY")]) now
    else db
  (if alreadyNudged then none else some deferredNudge, db)

/-! ## Back to IDLE -/

/-- The job a completion settles: its id, the reply and whether a cancel was asked for. -/
structure Settlement where
  jobId : String
  replyText : String
  cancelRequested : Bool

def Settlement.apply (s : Settlement) (now : Int) : Except CcbdError (Nat × Db) :=
  if s.cancelRequested then markJobCancelledConnSync db s.jobId s.replyText now
  else markJobCompletedConnSync db s.jobId s.replyText now

def settleIfAny (settlement : Option Settlement) (now : Int) : Except CcbdError Db :=
  match settlement with
  | none => .ok db
  | some s => (s.apply db now).map Prod.snd

/-- The end of every completion: the agent goes to IDLE if its state and version are
as expected, and only then the job is settled and the change recorded. -/
def markIdleAndSettle (states : List AgentState) (version : Int)
    (subState : String) (settlement : Option Settlement) (payload : Json) (now : Int) :
    Except CcbdError (Nat × Db) :=
  if agentMatches db agentId states version then do
    let db := db.modifyAgent agentId (·.enterSub .idle subState now)
    let db ← settleIfAny db settlement now
    return (1, db.appendEvent agentId "state_change" payload now)
  else .ok (0, db)

def markAgentIdleMatchedConnInner (stateVersion : Int)
    (previousState : AgentState) (settlement : Option Settlement) (reason : String)
    (allowFromStuck : Bool) (now : Int) : Except CcbdError (Nat × Db) :=
  markIdleAndSettle db agentId
    (if allowFromStuck then [.spawning, .waitingForAck, .busy, .stuck]
      else [.spawning, .waitingForAck, .busy])
    stateVersion "Matched" settlement
    (.obj [("from", .str previousState.asDbStr), ("reason", .str reason),
      ("sub_state", .str "Matched"), ("to", .str "IDLE")]) now

/-- Completion by a marker on the screen. -/
def markAgentIdleMatchedOutcomeSyncInner (env : CompletionEnv) (db : Db) (agentId reason : String)
    (now : Int) : Except CcbdError (MarkerMatchedSyncOutcome × Db) :=
  match db.agents.get? agentId with
  | none => .ok ({ changes := 0 }, db)
  | some agent =>
    if isActiveState agent.state = false then .ok ({ changes := 0 }, db)
    else
      let finish (settlement : Option Settlement) := do
        let (changes, db) ← markAgentIdleMatchedConnInner db agentId agent.stateVersion agent.state
          settlement reason false now
        return ({ changes := changes }, db)
      match queryDispatchedJobForAgentSync db agentId with
      | none => finish none
      | some (jobId, job) =>
        -- a registered log monitor is authoritative
        if env.registryContains agentId then .ok ({ changes := 0 }, db)
        else match evidenceDenialForJob db agentId jobId job with
        | some message => .ok ({ changes := 0, denialMessage := some message },
            insertEvidenceDeniedEvent db agentId jobId message now)
        | none =>
          if (latestAhIdleMarkerJobId env db agentId job.dispatchedAtSeqId).any (· ≠ jobId) then
            .ok ({ changes := 0 }, db)
          else
            let replyText := collectReplyForDispatchedJobSync env db agentId job.dispatchedAtSeqId
              job.promptText
            if agent.state = .busy && !job.cancelRequested && isPromptOnlyReply replyText then
              .ok ({ changes := 0 }, db)
            else match classifyTerminality agent.provider replyText
                (env.pendingTasks agent.sessionId agentId agent.provider) with
            | .deferredBackgroundWork _ =>
              let r := handleCompletionDeferralSync env db agentId jobId replyText agent.state
                agent.stateVersion now
              .ok ({ changes := 0, deferredNudge := r.1 }, r.2)
            | .terminal => finish (some ⟨jobId, replyText, job.cancelRequested⟩)

def markAgentIdleMatchedOutcomeSync (env : CompletionEnv) (db : Db) (agentId : String) (now : Int) :
    Except CcbdError (MarkerMatchedSyncOutcome × Db) :=
  markAgentIdleMatchedOutcomeSyncInner env db agentId "MARKER_MATCHED" now

def lateHealthCompletionStuckAllowsTerminal (dispatchedJobId : String) : Bool :=
  checkLateCompletionEvidence db agentId dispatchedJobId

/-- Completion by a hook. -/
def markAgentIdleHookEventOutcomeSync (env : CompletionEnv) (db : Db)
    (agentId provider hookEvent : String) (eventId reply : Option String)
    (expectedStateVersion : Option Int) (now : Int) :
    Except CcbdError (MarkerMatchedSyncOutcome × Db) :=
  match db.agents.get? agentId with
  | none => .ok ({ changes := 0 }, db)
  | some agent =>
    let lateHealthCompletionStuckJob :=
      if agent.state = .stuck then
        (queryDispatchedJobForAgentSync db agentId).filter fun r =>
          lateHealthCompletionStuckAllowsTerminal db agentId r.1
      else none
    if agent.state ≠ .waitingForAck ∧ agent.state ≠ .busy ∧ lateHealthCompletionStuckJob.isNone then
      .ok ({ changes := 0 }, db)
    else
      let casVersion := expectedStateVersion.getD agent.stateVersion
      let markIdle (settlement : Option Settlement) (replySource : String) :=
        if agentMatches db agentId [.waitingForAck, .busy, .stuck] casVersion then do
          let db := db.modifyAgent agentId (·.enterSub .idle "HookEvent" now)
          let (_, db) ← match settlement with
            | none => .ok (0, db)
            | some ⟨jobId, replyText, true⟩ => markJobCancelledConnSync db jobId replyText now
            | some ⟨jobId, replyText, false⟩ => markJobCompletedConnSync db jobId replyText now
          return ({ changes := 1 }, db.appendEvent agentId "state_change" (.obj
            [("event_id", Json.ofOptStr eventId), ("from", .str agent.state.asDbStr),
              ("hook_event", .str hookEvent), ("provider", .str provider),
              ("reply_source", .str replySource), ("schema_version", .num 1),
              ("source", .str "hook"), ("sub_state", .str "HookEvent"), ("to", .str "IDLE")]) now)
        else .ok ({ changes := 0 }, db)
      match queryDispatchedJobForAgentSync db agentId with
      | none => markIdle none (if reply.isSome then "hook" else "screen")
      | some (jobId, job) =>
        match evidenceDenialForJob db agentId jobId job with
        | some message => .ok ({ changes := 0, denialMessage := some message },
            insertEvidenceDeniedEvent db agentId jobId message now)
        | none =>
          let (replyText, replySource) := match reply with
            | some reply => (reply, "hook")
            | none => (collectReplyForDispatchedJobSync env db agentId job.dispatchedAtSeqId
                job.promptText, "screen")
          match classifyTerminality provider replyText
              (env.pendingTasks agent.sessionId agentId provider) with
          | .deferredBackgroundWork _ =>
            let r := handleCompletionDeferralSync env db agentId jobId replyText agent.state
              casVersion now
            .ok ({ changes := 0, deferredNudge := r.1 }, r.2)
          | .terminal => markIdle (some ⟨jobId, replyText, job.cancelRequested⟩) replySource

/-- The hook completion as production calls it: no expected version. -/
def markAgentIdleHookEventSync (env : CompletionEnv) (db : Db) (agentId provider hookEvent : String)
    (eventId reply : Option String) (now : Int) :
    Except CcbdError (MarkerMatchedSyncOutcome × Db) :=
  markAgentIdleHookEventOutcomeSync env db agentId provider hookEvent eventId reply none now

/-- Completion by a line of the log. -/
def markAgentIdleLogEventOutcomeSync (env : CompletionEnv) (db : Db) (agentId provider : String)
    (reply : Option String) (rawPath : String) (rawOffset : Nat) (providerTurnId : Option String)
    (now : Int) :
    Except CcbdError (MarkerMatchedSyncOutcome × Db) :=
  match db.agents.get? agentId with
  | none => .ok ({ changes := 0 }, db)
  | some agent =>
    let lateHealthCompletionStuckJob :=
      if agent.state = .stuck then
        (queryDispatchedJobForAgentSync db agentId).filter fun r =>
          lateHealthCompletionStuckAllowsTerminal db agentId r.1
      else none
    if agent.state ≠ .waitingForAck ∧ agent.state ≠ .busy ∧ lateHealthCompletionStuckJob.isNone then
      .ok ({ changes := 0 }, db)
    else
      let markIdle (settlement : Option Settlement) (replySource : String) :=
        if agentMatches db agentId [.waitingForAck, .busy, .stuck] agent.stateVersion then do
          let db := db.modifyAgent agentId (·.enterSub .idle "LogEvent" now)
          let (_, db) ← match settlement with
            | none => .ok (0, db)
            | some ⟨jobId, replyText, true⟩ => markJobCancelledConnSync db jobId replyText now
            | some ⟨jobId, replyText, false⟩ => markJobCompletedConnSync db jobId replyText now
          return ({ changes := 1 }, db.appendEvent agentId "state_change" (.obj
            [("from", .str agent.state.asDbStr), ("provider", .str provider),
              ("provider_turn_id", Json.ofOptStr providerTurnId), ("raw_offset", .num rawOffset),
              ("raw_path", .str rawPath), ("reason", .str "LOG_EVENT_TASK_COMPLETE"),
              ("reply_source", .str replySource), ("schema_version", .num 1),
              ("sub_state", .str "LogEvent"), ("to", .str "IDLE")]) now)
        else .ok ({ changes := 0 }, db)
      match queryDispatchedJobForAgentSync db agentId with
      | none => markIdle none (if reply.isSome then "log" else "screen")
      | some (jobId, job) =>
        match evidenceDenialForJob db agentId jobId job with
        | some message => .ok ({ changes := 0, denialMessage := some message },
            insertEvidenceDeniedEvent db agentId jobId message now)
        | none =>
          let (replyText, replySource) := match reply with
            | some reply => (reply, "log")
            | none => (collectReplyForDispatchedJobSync env db agentId job.dispatchedAtSeqId
                job.promptText, "screen")
          match classifyTerminality provider replyText
              (env.pendingTasks agent.sessionId agentId provider) with
          | .deferredBackgroundWork _ =>
            let r := handleCompletionDeferralSync env db agentId jobId replyText agent.state
              agent.stateVersion now
            .ok ({ changes := 0, deferredNudge := r.1 }, r.2)
          | .terminal => markIdle (some ⟨jobId, replyText, job.cancelRequested⟩) replySource

/-- An event completion is swallowed unless the agent waits, works, or was given up by
a health check that had seen this job complete. -/
def acceptsEventCompletion (agent : Agent) : Bool :=
  agent.state = .waitingForAck || agent.state = .busy ||
    (agent.state = .stuck && (queryDispatchedJobForAgentSync db agentId).any
      fun r => lateHealthCompletionStuckAllowsTerminal db agentId r.1)

/-- Completion by an event from outside, with what the hook and the log event differ in. -/
def markAgentIdleEventOutcome (env : CompletionEnv) (db : Db) (agentId provider source : String)
    (reply : Option String) (expectedStateVersion : Option Int) (subState : String)
    (payload : AgentState → String → Json) (now : Int) :
    Except CcbdError (MarkerMatchedSyncOutcome × Db) :=
  match db.agents.get? agentId with
  | none => .ok ({ changes := 0 }, db)
  | some agent =>
    if acceptsEventCompletion db agentId agent = false then .ok ({ changes := 0 }, db)
    else
      let casVersion := expectedStateVersion.getD agent.stateVersion
      let finish (settlement : Option Settlement) (replySource : String) := do
        let (changes, db) ← markIdleAndSettle db agentId [.waitingForAck, .busy, .stuck] casVersion
          subState settlement (payload agent.state replySource) now
        return ({ changes := changes }, db)
      match queryDispatchedJobForAgentSync db agentId with
      | none => finish none (if reply.isSome then source else "screen")
      | some (jobId, job) =>
        match evidenceDenialForJob db agentId jobId job with
        | some message => .ok ({ changes := 0, denialMessage := some message },
            insertEvidenceDeniedEvent db agentId jobId message now)
        | none =>
          let replyText := reply.getD (collectReplyForDispatchedJobSync env db agentId
            job.dispatchedAtSeqId job.promptText)
          match classifyTerminality provider replyText
              (env.pendingTasks agent.sessionId agentId provider) with
          | .deferredBackgroundWork _ =>
            let r := handleCompletionDeferralSync env db agentId jobId replyText agent.state
              casVersion now
            .ok ({ changes := 0, deferredNudge := r.1 }, r.2)
          | .terminal =>
            finish (some ⟨jobId, replyText, job.cancelRequested⟩)
              (if reply.isSome then source else "screen")

theorem acceptsEventCompletion_eq_false (db : Db) (agentId : String) (agent : Agent) :
    acceptsEventCompletion db agentId agent = false ↔
      agent.state ≠ .waitingForAck ∧ agent.state ≠ .busy ∧
        (if agent.state = .stuck then
          (queryDispatchedJobForAgentSync db agentId).filter fun r =>
            lateHealthCompletionStuckAllowsTerminal db agentId r.1
        else none).isNone := by
  unfold acceptsEventCompletion
  by_cases stuck : agent.state = .stuck
  · cases queryDispatchedJobForAgentSync db agentId <;> simp [stuck, Option.filter]
  · simp [stuck]

theorem markIdleAndSettle_changes (db : Db) (agentId : String) (states : List AgentState)
    (version : Int) (subState : String) (settlement : Option Settlement) (payload : Json)
    (now : Int) :
    (if agentMatches db agentId states version then do
        let db := db.modifyAgent agentId (·.enterSub .idle subState now)
        let (_, db) ← match settlement with
          | none => .ok (0, db)
          | some ⟨jobId, replyText, true⟩ => markJobCancelledConnSync db jobId replyText now
          | some ⟨jobId, replyText, false⟩ => markJobCompletedConnSync db jobId replyText now
        return ({ changes := 1 }, db.appendEvent agentId "state_change" payload now)
      else .ok ({ changes := 0 }, db) : Except CcbdError (MarkerMatchedSyncOutcome × Db)) = do
      let (changes, db) ← markIdleAndSettle db agentId states version subState settlement payload now
      return ({ changes := changes }, db) := by
  unfold markIdleAndSettle
  split_ifs
  · unfold settleIfAny
    match settlement with
    | none => rfl
    | some ⟨jobId, replyText, true⟩ =>
      simp only [Settlement.apply, if_true]
      cases markJobCancelledConnSync (db.modifyAgent agentId (·.enterSub .idle subState now)) jobId
        replyText now <;> rfl
    | some ⟨jobId, replyText, false⟩ =>
      simp only [Settlement.apply, Bool.false_eq_true, if_false]
      cases markJobCompletedConnSync (db.modifyAgent agentId (·.enterSub .idle subState now)) jobId
        replyText now <;> rfl
  · rfl

theorem markAgentIdleHookEventOutcomeSync_eq (env : CompletionEnv) (db : Db)
    (agentId provider hookEvent : String) (eventId reply : Option String)
    (expectedStateVersion : Option Int) (now : Int) :
    markAgentIdleHookEventOutcomeSync env db agentId provider hookEvent eventId reply
        expectedStateVersion now =
      markAgentIdleEventOutcome env db agentId provider "hook" reply expectedStateVersion
        "HookEvent" (fun previous replySource => .obj
          [("event_id", Json.ofOptStr eventId), ("from", .str previous.asDbStr),
            ("hook_event", .str hookEvent), ("provider", .str provider),
            ("reply_source", .str replySource), ("schema_version", .num 1),
            ("source", .str "hook"), ("sub_state", .str "HookEvent"), ("to", .str "IDLE")]) now := by
  unfold markAgentIdleHookEventOutcomeSync markAgentIdleEventOutcome
  cases db.agents.get? agentId with
  | none => rfl
  | some agent =>
    refine if_congr (acceptsEventCompletion_eq_false db agentId agent).symm rfl ?_
    cases queryDispatchedJobForAgentSync db agentId with
    | none => exact markIdleAndSettle_changes db agentId _ _ _ none _ now
    | some r =>
      obtain ⟨jobId, job⟩ := r
      dsimp only
      split
      · rfl
      · cases reply <;> dsimp only [Option.getD] <;> split
        · rfl
        · exact markIdleAndSettle_changes db agentId _ _ _ (some _) _ now
        · rfl
        · exact markIdleAndSettle_changes db agentId _ _ _ (some _) _ now

theorem markAgentIdleLogEventOutcomeSync_eq (env : CompletionEnv) (db : Db)
    (agentId provider : String) (reply : Option String) (rawPath : String) (rawOffset : Nat)
    (providerTurnId : Option String) (now : Int) :
    markAgentIdleLogEventOutcomeSync env db agentId provider reply rawPath rawOffset providerTurnId
        now =
      markAgentIdleEventOutcome env db agentId provider "log" reply none "LogEvent"
        (fun previous replySource => .obj
          [("from", .str previous.asDbStr), ("provider", .str provider),
            ("provider_turn_id", Json.ofOptStr providerTurnId), ("raw_offset", .num rawOffset),
            ("raw_path", .str rawPath), ("reason", .str "LOG_EVENT_TASK_COMPLETE"),
            ("reply_source", .str replySource), ("schema_version", .num 1),
            ("sub_state", .str "LogEvent"), ("to", .str "IDLE")]) now := by
  unfold markAgentIdleLogEventOutcomeSync markAgentIdleEventOutcome
  cases db.agents.get? agentId with
  | none => rfl
  | some agent =>
    refine if_congr (acceptsEventCompletion_eq_false db agentId agent).symm rfl ?_
    cases queryDispatchedJobForAgentSync db agentId with
    | none => exact markIdleAndSettle_changes db agentId _ _ _ none _ now
    | some r =>
      obtain ⟨jobId, job⟩ := r
      dsimp only
      split
      · rfl
      · cases reply <;> dsimp only [Option.getD] <;> split
        · rfl
        · exact markIdleAndSettle_changes db agentId _ _ _ (some _) _ now
        · rfl
        · exact markIdleAndSettle_changes db agentId _ _ _ (some _) _ now

/-! ## Stuck, unknown, failed and asserted agents -/

structure StuckOutcome where
  changes : Nat
  jobId : Option String
  fromState : Option AgentState
  eventSeqId : Option Nat
  jobResolution : String
deriving DecidableEq, Repr

/-- The job of a stuck agent fails, and an event says so. -/
def failStuckJob (reason : String) (now : Int) : Option String → Except CcbdError (String × Db)
  | none => .ok ("NONE", db)
  | some jobId => do
    let db := db.modifyJob jobId (·.setErrorReason (some reason))
    let db ← transitJobState db jobId .dispatched .failed reason now
    return ("FAILED", db.appendEvent agentId "job_resolution" (.obj
      [("job_id", .str jobId), ("job_resolution", .str "FAILED"), ("reason", .str reason),
        ("source", .str "mark_agent_stuck")]) now)

def markAgentStuckOutcomeSync (reason : String) (now : Int) :
    Except CcbdError (StuckOutcome × Db) :=
  match db.agents.get? agentId with
  | none => .ok (⟨0, none, none, none, "NONE"⟩, db)
  | some agent =>
    if agent.state ≠ .busy ∧ agent.state ≠ .waitingForAck then
      .ok (⟨0, none, some agent.state, none, "NONE"⟩, db)
    else do
      let affected := (queryDispatchedJobForAgentSync db agentId).map Prod.fst
      let db := db.modifyAgent agentId (·.enter .stuck now)
      let (resolution, db) ← failStuckJob db agentId reason now affected
      let db := db.appendEvent agentId "state_change" (.obj
        [("elapsed_secs", .num 0), ("from", .str agent.state.asDbStr),
          ("job_id", Json.ofOptStr affected), ("job_resolution", .str resolution),
          ("reason", .str reason), ("signal_kinds", .arr [.str "state_machine"]),
          ("to", .str "STUCK")]) now
      return (⟨1, affected, some agent.state, some db.lastEventSeq, resolution⟩, db)

/-- The jobs of an agent whose state is lost: a cancelled job is settled as such,
otherwise every dispatched job fails. -/
def settleUnknownJobs (reason : String) (now : Int) : Except CcbdError Db :=
  match queryDispatchedJobForAgentSync db agentId with
  | none => .ok db
  | some (jobId, job) =>
    if job.cancelRequested then (markJobCancelledConnSync db jobId "" now).map Prod.snd
    else (markDispatchedJobsFailedForAgentConnCollectSync db agentId reason now).map Prod.snd

/-- `evidenceId` is the fresh id the source draws. -/
def markAgentUnknownSync (reason evidenceId : String) (now : Int) : Except CcbdError (Nat × Db) :=
  match db.agents.get? agentId with
  | none => .ok (0, db)
  | some agent =>
    if isActiveState agent.state = false then .ok (0, db)
    else if (db.evidence.get? evidenceId).isSome then
      .error (.dbConstraintViolation "insert evidence: UNIQUE constraint failed: evidence.id")
    else do
      let db := db.modifyAgent agentId (·.enterError .unknown reason now)
      let db := db.sealPendingEvidence agentId
      let db := db.appendEvent agentId "state_change"
        (stateChange agent.state .unknown (some reason)) now
      let db := db.insertEvidence evidenceId
        { agentId := agentId, eventSeqId := db.lastEventSeq, createdAt := now }
      let db ← settleUnknownJobs db agentId reason now
      return (1, db)

def markAgentFailedFromInterventionSync (reason : String) (now : Int) :
    Except CcbdError (Nat × Db) :=
  match db.agents.get? agentId with
  | none => .ok (0, db)
  | some agent =>
    if agent.state ≠ .spawningIntervention then .ok (0, db)
    else
      let db := db.modifyAgent agentId (·.enterError .failed reason now)
      .ok (1, db.appendEvent agentId "state_change"
        (stateChange agent.state .failed (some reason)) now)

/-- A reviewed piece of evidence puts the agent back to IDLE. The jobs are not touched. -/
def assertStateToIdleSync (evidenceId : String) (now : Int) : Except CcbdError (Nat × Db) :=
  match db.evidence.get? evidenceId with
  | none => .error (.dbEvidenceNotFound s!"evidence_id={evidenceId}")
  | some evidence =>
    if evidence.agentId ≠ agentId then .error (.dbEvidenceNotFound "agent_id mismatch")
    else match db.agents.get? agentId with
    | none => .error (.agentNotFound agentId)
    | some agent =>
      if agent.state ≠ .unknown ∧ agent.state ≠ .waitingForAck then
        .error (.agentWrongState agent.state.asDbStr)
      else
        let db := db.modifyAgent agentId (·.enterSub .idle "Asserted" now)
        let db := db.reviewEvidence evidenceId "IDLE"
        let db := db.appendEvent agentId "state_change" (.obj
          [("evidence_id", .str evidenceId), ("from", .str agent.state.asDbStr),
            ("reason", .str "L3_ASSERTED"), ("sub_state", .str "Asserted"), ("to", .str "IDLE")])
          now
        .ok (db.lastEventSeq, db)

variable {db agentId}

/-! ## What a completion does -/

/-- The status in which a completion leaves the job. -/
def JobStatus.settled (cancelRequested : Bool) : JobStatus :=
  if cancelRequested then .cancelled else .completed

/-- Everything a completion of `agentId` can do to the two tables: nothing; move the
agent to BUSY; move an agent without a dispatched job to IDLE; move the agent to IDLE
and settle the dispatched job. -/
inductive CompletionEffect (db : Db) (agentId : String) (now : Int) : Db → Prop
  | untouched {db' : Db} (agents : db'.agents = db.agents) (jobs : db'.jobs = db.jobs) :
      CompletionEffect db agentId now db'
  | deferred {db' : Db} {agent : Agent} (found : db.agents.get? agentId = some agent)
      (state : agent.state ≠ .idle)
      (agents : db'.agents = db.agents.modify agentId (·.enterSub .busy "Deferred" now))
      (jobs : db'.jobs = db.jobs) : CompletionEffect db agentId now db'
  | idle {db' : Db} {agent : Agent} {subState : String}
      (found : db.agents.get? agentId = some agent) (state : agent.state ≠ .idle)
      (free : queryDispatchedJobForAgentSync db agentId = none)
      (agents : db'.agents = db.agents.modify agentId (·.enterSub .idle subState now))
      (jobs : db'.jobs = db.jobs) : CompletionEffect db agentId now db'
  | settled {db' : Db} {agent : Agent} {jobId : String} {job : Job} {subState reply : String}
      (found : db.agents.get? agentId = some agent) (state : agent.state ≠ .idle)
      (dispatched : queryDispatchedJobForAgentSync db agentId = some (jobId, job))
      (agents : db'.agents = db.agents.modify agentId (·.enterSub .idle subState now))
      (jobs : db'.jobs = (db.jobs.modify jobId (·.setReplyText reply)).modify jobId
        (·.enter (.settled job.cancelRequested) now)) :
      CompletionEffect db agentId now db'

variable {agent : Agent} {env : CompletionEnv} {db db' : Db} {now version : Int} {job : Job}
    {states : List AgentState} {n : Nat}
    {reply : Option String} {agentId jobId provider reason subState : String}

theorem agentMatches_iff :
    agentMatches db agentId states version = true ↔ ∃ agent, db.agents.get? agentId = some agent ∧
      agent.state ∈ states ∧ agent.stateVersion = version := by
  cases h : db.agents.get? agentId <;> simp [agentMatches, h]

theorem handleCompletionDeferralSync_effect (env : CompletionEnv) (db : Db)
    (agentId jobId reply : String) (previous : AgentState) (version now : Int) :
    CompletionEffect db agentId now
      (handleCompletionDeferralSync env db agentId jobId reply previous version now).2 := by
  unfold handleCompletionDeferralSync
  dsimp only
  split
  · rename_i hm
    obtain ⟨agent, hagent, hstate, -⟩ := agentMatches_iff.mp hm
    refine .deferred hagent ?_ rfl rfl
    rintro e
    simp [e] at hstate
  · exact .untouched rfl rfl

theorem settleIfAny_tables (h : settleIfAny db s now = .ok db') :
    db'.agents = db.agents ∧ db'.events = db.events := by
  have settled : ∀ {jobId reply reason : String} {t : JobStatus} {n : Nat} {db' : Db},
      settleDispatchedJob db jobId reply t reason now = .ok (n, db') →
        db'.agents = db.agents ∧ db'.events = db.events := by
    intro jobId reply reason t n db' h
    rcases settleDispatchedJob_ok h with ⟨rfl, -⟩ | ⟨row, rfl⟩
    · exact ⟨rfl, rfl⟩
    · exact ⟨rfl, rfl⟩
  cases s with
  | none =>
    cases h
    exact ⟨rfl, rfl⟩
  | some s =>
    obtain ⟨⟨n, db₁⟩, h₁, rfl⟩ := map_eq_ok.mp h
    unfold Settlement.apply at h₁
    split at h₁
    · exact settled h₁
    · exact settled h₁

theorem Settlement.apply_dispatched (hjob : db.jobs.get? jobId = some job)
    (hd : job.status = .dispatched) (s : Settlement) (hs : s.jobId = jobId) (now : Int) :
    ∃ t, s.apply db now = .ok (1,
      ((db.modifyJob s.jobId (·.setReplyText s.replyText)).modifyJob s.jobId
        (·.enter (.settled s.cancelRequested) now)).appendJobTransition t) := by
  subst hs
  unfold Settlement.apply JobStatus.settled
  split_ifs
  · exact settleDispatchedJob_dispatched hjob hd rfl ..
  · exact settleDispatchedJob_dispatched hjob hd rfl ..

theorem markIdleAndSettle_none (hidle : AgentState.idle ∉ states)
    (hfree : queryDispatchedJobForAgentSync db agentId = none)
    (h : markIdleAndSettle db agentId states version subState none payload now = .ok (n, db')) :
    CompletionEffect db agentId now db' := by
  unfold markIdleAndSettle at h
  split_ifs at h with hm
  · obtain ⟨agent, hagent, hstate, -⟩ := agentMatches_iff.mp hm
    cases h
    exact .idle hagent (fun e => hidle (e ▸ hstate)) hfree rfl rfl
  · cases h
    exact .untouched rfl rfl

theorem markIdleAndSettle_some {reply : String} (hidle : AgentState.idle ∉ states)
    (hdisp : queryDispatchedJobForAgentSync db agentId = some (jobId, job))
    (h : markIdleAndSettle db agentId states version subState
      (some ⟨jobId, reply, job.cancelRequested⟩) payload now = .ok (n, db')) :
    CompletionEffect db agentId now db' := by
  obtain ⟨hjob, -, hd⟩ := queryDispatchedJobForAgentSync_some hdisp
  unfold markIdleAndSettle at h
  split_ifs at h with hm
  · obtain ⟨agent, hagent, hstate, -⟩ := agentMatches_iff.mp hm
    have hjob' : (db.modifyAgent agentId (·.enterSub .idle subState now)).jobs.get? jobId =
        some job := hjob
    obtain ⟨t, ht⟩ := Settlement.apply_dispatched hjob' hd ⟨jobId, reply, job.cancelRequested⟩ rfl
      now
    simp only [settleIfAny, ht] at h
    cases h
    exact .settled hagent (fun e => hidle (e ▸ hstate)) hdisp rfl rfl
  · cases h
    exact .untouched rfl rfl

/-- A row of evidence of one of the types for which `counts` holds. -/
def Db.HasEvidence (counts : Evidence → Prop) (db : Db) (agentId jobId : String)
    (types : List String) : Prop :=
  ∃ row ∈ db.evidence.rows, row.2.agentId = agentId ∧ row.2.jobId = some jobId ∧
    (∃ ty ∈ row.2.evidenceType, ty ∈ types) ∧ counts row.2

/-- The job has a row that counts for each kind of evidence it requires. -/
structure Db.Evidenced (counts : Evidence → Prop) (db : Db) (agentId jobId : String) (job : Job) :
    Prop where
  physical : job.requiresPhysicalEvidence = true →
    db.HasEvidence counts agentId jobId ["mtime_changed", "diff_generated"]
  test : job.requiresTestEvidence = true → db.HasEvidence counts agentId jobId ["test_passed"]

theorem hasJobEvidenceSync_iff {types : List String} :
    hasJobEvidenceSync db agentId jobId types = true ↔
      db.HasEvidence (fun _ => True) agentId jobId types := by
  simp only [hasJobEvidenceSync, Db.HasEvidence, List.any_eq_true, Bool.and_eq_true,
    decide_eq_true_eq, Option.any_eq_true, List.contains_iff_mem, and_assoc, and_true,
    Option.mem_def]

/-- Nothing is denied exactly if the rows are there, whatever their status. -/
theorem evidenceDenialForJob_eq_none :
    evidenceDenialForJob db agentId jobId job = none ↔
      db.Evidenced (fun _ => True) agentId jobId job := by
  constructor
  · intro h
    unfold evidenceDenialForJob at h
    split_ifs at h with physical test
    constructor
    · intro required
      exact hasJobEvidenceSync_iff.mp (by simpa [required] using physical)
    · intro required
      exact hasJobEvidenceSync_iff.mp (by simpa [required] using test)
  · rintro ⟨physical, test⟩
    simp only [← hasJobEvidenceSync_iff] at physical test
    rw [evidenceDenialForJob, if_neg, if_neg]
    · simpa using test
    · simpa using physical

/-- The checks an event completion makes before it settles a job: the agent waits, works
or was given up after a completion, the job is the dispatched one, no evidence is
missing, and the reply does not announce background work. -/
structure EventSettles (env : CompletionEnv) (db : Db) (agentId provider : String)
    (reply : Option String) (agent : Agent) (jobId : String) (job : Job) : Prop where
  found : db.agents.get? agentId = some agent
  accepted : acceptsEventCompletion db agentId agent = true
  dispatched : queryDispatchedJobForAgentSync db agentId = some (jobId, job)
  evidence : db.Evidenced (fun _ => True) agentId jobId job
  terminal : classifyTerminality provider (reply.getD (collectReplyForDispatchedJobSync env db
    agentId job.dispatchedAtSeqId job.promptText)) (env.pendingTasks agent.sessionId agentId
    provider) = .terminal

/-- The checks a marker makes before it settles a job. A registered log monitor and a marker
of another job stop it, and so does a BUSY agent whose reply is only a prompt, unless a
cancel was asked for. -/
structure MarkerSettles (env : CompletionEnv) (db : Db) (agentId : String) (agent : Agent)
    (jobId : String) (job : Job) : Prop where
  found : db.agents.get? agentId = some agent
  active : isActiveState agent.state = true
  dispatched : queryDispatchedJobForAgentSync db agentId = some (jobId, job)
  unmonitored : env.registryContains agentId = false
  evidence : db.Evidenced (fun _ => True) agentId jobId job
  marker : (latestAhIdleMarkerJobId env db agentId job.dispatchedAtSeqId).any (· ≠ jobId) = false
  replied : (agent.state = .busy && !job.cancelRequested && isPromptOnlyReply
    (collectReplyForDispatchedJobSync env db agentId job.dispatchedAtSeqId job.promptText)) = false
  terminal : classifyTerminality agent.provider (collectReplyForDispatchedJobSync env db agentId
    job.dispatchedAtSeqId job.promptText) (env.pendingTasks agent.sessionId agentId
    agent.provider) = .terminal

/-- The ways a completion can end: nothing, an event that evidence is missing, a deferral,
or the shared end, without a job or with the dispatched job after the checks. -/
inductive CompletionCase (env : CompletionEnv) (db : Db) (agentId : String)
    (states : List AgentState) (version : Agent → Int) (subState : String)
    (payload : AgentState → String → Json) (checks : Agent → String → Job → Prop)
    (reply : Job → String) (now : Int) : Db → Prop
  | untouched : CompletionCase env db agentId states version subState payload checks reply now db
  | denied (jobId message : String) :
      CompletionCase env db agentId states version subState payload checks reply now
        (insertEvidenceDeniedEvent db agentId jobId message now)
  | deferred {agent : Agent} (found : db.agents.get? agentId = some agent)
      (jobId candidate : String) :
      CompletionCase env db agentId states version subState payload checks reply now
        (handleCompletionDeferralSync env db agentId jobId candidate agent.state (version agent)
          now).2
  | vacated {agent : Agent} {db' : Db} {n : Nat} (found : db.agents.get? agentId = some agent)
      (free : queryDispatchedJobForAgentSync db agentId = none) (source : String)
      (finish : markIdleAndSettle db agentId states (version agent) subState none
        (payload agent.state source) now = .ok (n, db')) :
      CompletionCase env db agentId states version subState payload checks reply now db'
  | settled {agent : Agent} {jobId : String} {job : Job} {db' : Db} {n : Nat}
      (found : db.agents.get? agentId = some agent)
      (dispatched : queryDispatchedJobForAgentSync db agentId = some (jobId, job))
      (checked : checks agent jobId job) (source : String)
      (finish : markIdleAndSettle db agentId states (version agent) subState
        (some ⟨jobId, reply job, job.cancelRequested⟩) (payload agent.state source) now =
        .ok (n, db')) :
      CompletionCase env db agentId states version subState payload checks reply now db'

/-- The payload of the change that a marker makes. -/
def matchedPayload (reason : String) (previous : AgentState) (_source : String) : Json :=
  .obj [("from", .str previous.asDbStr), ("reason", .str reason), ("sub_state", .str "Matched"),
    ("to", .str "IDLE")]

theorem markAgentIdleMatchedOutcomeSyncInner_cases
    (h : markAgentIdleMatchedOutcomeSyncInner env db agentId reason now = .ok (r, db')) :
    CompletionCase env db agentId [.spawning, .waitingForAck, .busy] (·.stateVersion) "Matched"
      (matchedPayload reason) (MarkerSettles env db agentId)
      (fun job => collectReplyForDispatchedJobSync env db agentId job.dispatchedAtSeqId
        job.promptText) now db' := by
  obtain ⟨-, rfl, -⟩ | ⟨agent, found, active, h⟩ := unless_ok h
  · exact .untouched
  dsimp only at h
  split at h
  · rename_i free
    obtain ⟨⟨n, db₁⟩, h₁, h₂⟩ := bind_eq_ok.mp h
    cases h₂
    exact .vacated found free "" h₁
  rename_i jobId job dispatched
  split at h
  · cases h; exact .untouched
  rename_i unmonitored
  split at h
  · cases h; exact .denied jobId _
  rename_i evidence
  split at h
  · cases h; exact .untouched
  rename_i marker
  split at h
  · cases h; exact .untouched
  rename_i replied
  split at h
  · cases h; exact .deferred found jobId _
  rename_i terminal
  obtain ⟨⟨n, db₁⟩, h₁, h₂⟩ := bind_eq_ok.mp h
  cases h₂
  have checked : MarkerSettles env db agentId agent jobId job :=
    ⟨found, by simpa using active, dispatched, by simpa using unmonitored,
      evidenceDenialForJob_eq_none.mp evidence, by simpa using marker, by simpa using replied, terminal⟩
  exact .settled found dispatched checked "" h₁

theorem markAgentIdleEventOutcome_cases
    (h : markAgentIdleEventOutcome env db agentId provider source reply expected subState payload
      now = .ok (r, db')) :
    CompletionCase env db agentId [.waitingForAck, .busy, .stuck]
      (fun agent => expected.getD agent.stateVersion) subState payload
      (EventSettles env db agentId provider reply)
      (fun job => reply.getD (collectReplyForDispatchedJobSync env db agentId
        job.dispatchedAtSeqId job.promptText)) now db' := by
  obtain ⟨-, rfl, -⟩ | ⟨agent, found, accepted, h⟩ := unless_ok h
  · exact .untouched
  dsimp only at h
  split at h
  · rename_i free
    obtain ⟨⟨n, db₁⟩, h₁, h₂⟩ := bind_eq_ok.mp h
    cases h₂
    exact .vacated found free _ h₁
  rename_i jobId job dispatched
  split at h
  · cases h; exact .denied jobId _
  rename_i evidence
  split at h
  · cases h; exact .deferred found jobId _
  rename_i terminal
  obtain ⟨⟨n, db₁⟩, h₁, h₂⟩ := bind_eq_ok.mp h
  cases h₂
  have checked : EventSettles env db agentId provider reply agent jobId job :=
    ⟨found, by simpa using accepted, dispatched, evidenceDenialForJob_eq_none.mp evidence,
      terminal⟩
  exact .settled found dispatched checked _ h₁

theorem CompletionCase.effect {version : Agent → Int}
    {checks : Agent → String → Job → Prop} {reply : Job → String}
    (h : CompletionCase env db agentId states version subState payload checks reply now db')
    (hidle : AgentState.idle ∉ states) : CompletionEffect db agentId now db' := by
  cases h with
  | untouched | denied => exact .untouched rfl rfl
  | deferred => exact handleCompletionDeferralSync_effect ..
  | vacated found free source finish => exact markIdleAndSettle_none hidle free finish
  | settled found dispatched checked source finish =>
    exact markIdleAndSettle_some hidle dispatched finish

theorem markAgentIdleMatchedOutcomeSyncInner_effect
    (h : markAgentIdleMatchedOutcomeSyncInner env db agentId reason now = .ok (r, db')) :
    CompletionEffect db agentId now db' :=
  (markAgentIdleMatchedOutcomeSyncInner_cases h).effect (by simp)

theorem markAgentIdleEventOutcome_effect
    (h : markAgentIdleEventOutcome env db agentId provider source reply expected subState payload
      now = .ok (r, db')) : CompletionEffect db agentId now db' :=
  (markAgentIdleEventOutcome_cases h).effect (by simp)

/-! ## What the other functions do -/

/-- What a completion that settles a job leaves in the tables. -/
structure Settled (db : Db) (agentId subState jobId reply : String) (cancelRequested : Bool)
    (now : Int) (db' : Db) : Prop where
  agents : db'.agents = db.agents.modify agentId (·.enterSub .idle subState now)
  jobs : db'.jobs = (db.jobs.modify jobId (·.setReplyText reply)).modify jobId
    (·.enter (.settled cancelRequested) now)
  evidence : db'.evidence = db.evidence

theorem markIdleAndSettle_succeeds (hm : agentMatches db agentId states version = true)
    (hdisp : queryDispatchedJobForAgentSync db agentId = some (jobId, job))
    (subState reply : String) (payload : Json) (now : Int) :
    ∃ db', markIdleAndSettle db agentId states version subState
        (some ⟨jobId, reply, job.cancelRequested⟩) payload now = .ok (1, db') ∧
      Settled db agentId subState jobId reply job.cancelRequested now db' := by
  obtain ⟨hjob, -, hd⟩ := queryDispatchedJobForAgentSync_some hdisp
  have hjob' : (db.modifyAgent agentId (·.enterSub .idle subState now)).jobs.get? jobId =
      some job := hjob
  obtain ⟨t, ht⟩ := Settlement.apply_dispatched hjob' hd ⟨jobId, reply, job.cancelRequested⟩ rfl now
  simp only [markIdleAndSettle, hm, settleIfAny, ht]
  exact ⟨_, rfl, rfl, rfl, rfl⟩

/-- A job changes in a completion only after the checks, and if the version is the expected
one. -/
theorem CompletionCase.jobs {version : Agent → Int}
    {checks : Agent → String → Job → Prop} {reply : Job → String}
    (h : CompletionCase env db agentId states version subState payload checks reply now db') :
    db'.jobs = db.jobs ∨ ∃ agent jobId job, checks agent jobId job ∧
      db.agents.get? agentId = some agent ∧ version agent = agent.stateVersion := by
  cases h with
  | untouched | denied => exact .inl rfl
  | deferred =>
    refine .inl ?_
    unfold handleCompletionDeferralSync
    dsimp only
    split_ifs <;> rfl
  | vacated found free source finish =>
    unfold markIdleAndSettle at finish
    split_ifs at finish <;> (cases finish; exact .inl rfl)
  | settled found dispatched checked source finish =>
    unfold markIdleAndSettle at finish
    split_ifs at finish with matched
    · obtain ⟨agent, found', -, same⟩ := agentMatches_iff.mp matched
      rw [found] at found'
      cases found'
      exact .inr ⟨_, _, _, checked, found, same.symm⟩
    · cases finish
      exact .inl rfl

theorem mem_of_acceptsEventCompletion (h : acceptsEventCompletion db agentId agent = true) :
    agent.state ∈ [AgentState.waitingForAck, .busy, .stuck] := by
  simp only [acceptsEventCompletion, Bool.or_eq_true, Bool.and_eq_true, decide_eq_true_eq] at h
  rcases h with (h | h) | ⟨h, -⟩ <;> simp [h]

theorem EventSettles.succeeds (h : EventSettles env db agentId provider reply agent jobId job)
    (version : expected.getD agent.stateVersion = agent.stateVersion) (source subState : String)
    (payload : AgentState → String → Json) (now : Int) :
    ∃ db', markAgentIdleEventOutcome env db agentId provider source reply expected subState
        payload now = .ok ({ changes := 1 }, db') ∧
      Settled db agentId subState jobId (reply.getD (collectReplyForDispatchedJobSync env db
        agentId job.dispatchedAtSeqId job.promptText)) job.cancelRequested now db' := by
  have hm : agentMatches db agentId [.waitingForAck, .busy, .stuck] agent.stateVersion = true :=
    agentMatches_iff.mpr ⟨agent, h.found, mem_of_acceptsEventCompletion h.accepted, rfl⟩
  obtain ⟨db', hok, settled⟩ := markIdleAndSettle_succeeds hm h.dispatched subState
    (reply.getD (collectReplyForDispatchedJobSync env db agentId job.dispatchedAtSeqId
      job.promptText)) (payload agent.state (if reply.isSome then source else "screen")) now
  refine ⟨db', ?_, settled⟩
  simp only [markAgentIdleEventOutcome, h.found, h.accepted, h.dispatched,
    evidenceDenialForJob_eq_none.mpr h.evidence, h.terminal, version, hok]
  rfl

theorem MarkerSettles.succeeds (h : MarkerSettles env db agentId agent jobId job) (reason : String)
    (now : Int) :
    ∃ db', markAgentIdleMatchedOutcomeSyncInner env db agentId reason now =
        .ok ({ changes := 1 }, db') ∧
      Settled db agentId "Matched" jobId (collectReplyForDispatchedJobSync env db agentId
        job.dispatchedAtSeqId job.promptText) job.cancelRequested now db' := by
  have state : agent.state ∈ [AgentState.spawning, .waitingForAck, .busy] := by
    have active := h.active
    cases e : agent.state <;> simp [e, isActiveState] at active ⊢
  have hm : agentMatches db agentId [.spawning, .waitingForAck, .busy] agent.stateVersion = true :=
    agentMatches_iff.mpr ⟨agent, h.found, state, rfl⟩
  obtain ⟨db', hok, settled⟩ := markIdleAndSettle_succeeds hm h.dispatched "Matched"
    (collectReplyForDispatchedJobSync env db agentId job.dispatchedAtSeqId job.promptText)
    (matchedPayload reason agent.state "") now
  refine ⟨db', ?_, settled⟩
  have inner : markAgentIdleMatchedConnInner db agentId agent.stateVersion agent.state
      (some ⟨jobId, collectReplyForDispatchedJobSync env db agentId job.dispatchedAtSeqId
        job.promptText, job.cancelRequested⟩) reason false now = .ok (1, db') := hok
  simp only [markAgentIdleMatchedOutcomeSyncInner, h.found, h.active, h.dispatched, h.unmonitored,
    evidenceDenialForJob_eq_none.mpr h.evidence, h.marker, h.replied, h.terminal, inner]
  rfl

/-- The jobs in flight an event completion settles are those that pass its checks. -/
theorem eventCompletion_settles_iff (env : CompletionEnv) (db : Db)
    (agentId provider source : String) (reply : Option String) (subState : String)
    (payload : AgentState → String → Json) (now : Int) (j : String)
    (hdb' : db' = commit (markAgentIdleEventOutcome env db agentId provider source reply none
      subState payload now) db) :
    (db.statusOf j = some .dispatched ∧
      (db'.statusOf j = some .completed ∨ db'.statusOf j = some .cancelled)) ↔
      ∃ agent job, EventSettles env db agentId provider reply agent j job := by
  constructor
  · rintro ⟨pre, post⟩
    have moved : db'.statusOf j ≠ db.statusOf j := by
      rw [pre]
      rcases post with post | post <;> simp [post]
    rw [hdb'] at moved
    by_contra hne
    refine moved (commit_induction (P := fun db' => db'.statusOf j = db.statusOf j) rfl
      fun r db' hok => ?_)
    rcases (markAgentIdleEventOutcome_cases hok).jobs with jobs | ⟨agent, jobId, job, h, -⟩
    · simp [Db.statusOf, jobs]
    · obtain ⟨db₁, hok', settled⟩ :=
        h.succeeds Option.getD_none source subState payload now
      rw [hok, Except.ok.injEq, Prod.mk.injEq] at hok'
      have ne : j ≠ jobId := fun e => hne ⟨agent, job, e ▸ h⟩
      simp [Db.statusOf, hok'.2, settled.jobs, Table.get?_modify_of_ne, ne]
  · rintro ⟨agent, job, h⟩
    obtain ⟨hjob, -, hd⟩ := queryDispatchedJobForAgentSync_some h.dispatched
    obtain ⟨db₁, hok, settled⟩ :=
        h.succeeds Option.getD_none source subState payload now
    refine ⟨by simp [Db.statusOf, hjob, hd], ?_⟩
    rw [hdb', hok]
    cases hc : job.cancelRequested <;>
      simp [commit, Db.statusOf, settled.jobs, hjob, JobStatus.settled]

theorem failStuckJob_ok (h : failStuckJob db agentId reason now affected = .ok (resolution, db')) :
    db'.agents = db.agents ∧ ((affected = none ∧ db'.jobs = db.jobs) ∨
      ∃ jobId, affected = some jobId ∧
        db'.jobs = (db.jobs.modify jobId (·.setErrorReason (some reason))).modify jobId
          (·.enter .failed now)) := by
  unfold failStuckJob at h
  split at h
  · cases h; exact ⟨rfl, .inl ⟨rfl, rfl⟩⟩
  · obtain ⟨db₁, h₁, h₂⟩ := bind_eq_ok.mp h
    obtain ⟨job, t, -, rfl⟩ := transitJobState_ok h₁
    cases h₂
    exact ⟨rfl, .inr ⟨_, rfl, rfl⟩⟩

/-- Stuck: the agent leaves BUSY or WAITING_FOR_ACK and its dispatched job fails. -/
theorem markAgentStuckOutcomeSync_ok {r : StuckOutcome}
    (h : markAgentStuckOutcomeSync db agentId reason now = .ok (r, db')) :
    db' = db ∨ r.changes = 1 ∧ ∃ agent, db.agents.get? agentId = some agent ∧
      (agent.state = .busy ∨ agent.state = .waitingForAck) ∧
      db'.agents = db.agents.modify agentId (·.enter .stuck now) ∧
      ((queryDispatchedJobForAgentSync db agentId = none ∧ db'.jobs = db.jobs) ∨
        ∃ jobId job, queryDispatchedJobForAgentSync db agentId = some (jobId, job) ∧
          r.jobId = some jobId ∧
          db'.jobs = (db.jobs.modify jobId (·.setErrorReason (some reason))).modify jobId
            (·.enter .failed now)) := by
  unfold markAgentStuckOutcomeSync at h
  split at h
  · left; cases h; rfl
  rename_i agent hagent
  split at h
  · left; cases h; rfl
  rename_i hs
  obtain ⟨⟨resolution, db₁⟩, h₁, h₂⟩ := bind_eq_ok.mp h
  cases h₂
  obtain ⟨hagents, hjobs⟩ := failStuckJob_ok h₁
  refine .inr ⟨rfl, agent, hagent, by simpa [or_iff_not_imp_left] using hs, hagents, ?_⟩
  rcases hjobs with ⟨hnone, hjobs⟩ | ⟨jobId, hsome, hjobs⟩
  · exact .inl ⟨by simpa using hnone, hjobs⟩
  · obtain ⟨⟨j, job⟩, hd, rfl⟩ := Option.map_eq_some_iff.mp hsome
    exact .inr ⟨j, job, hd, hsome, hjobs⟩

/-- The jobs stay, or the cancelled one of the agent ends, or its dispatched ones fail. -/
def Db.SettlesUnknown (db : Db) (agentId reason : String) (now : Int) (jobs : Table String Job) :
    Prop :=
  jobs = db.jobs ∨
    (∃ jobId job, queryDispatchedJobForAgentSync db agentId = some (jobId, job) ∧
      jobs = (db.jobs.modify jobId (·.setReplyText "")).modify jobId (·.enter .cancelled now)) ∨
    ∀ j, jobs.get? j = (db.jobs.get? j).map fun job =>
      if job.agentId = agentId ∧ job.status = .dispatched then job.failWith reason now else job

theorem settleUnknownJobs_ok (h : settleUnknownJobs db agentId reason now = .ok db') :
    db'.agents = db.agents ∧ db.SettlesUnknown agentId reason now db'.jobs := by
  unfold settleUnknownJobs at h
  split at h
  · cases h
    exact ⟨rfl, .inl rfl⟩
  rename_i jobId job hdisp
  obtain ⟨hjob, -, hd⟩ := queryDispatchedJobForAgentSync_some hdisp
  split at h
  · obtain ⟨⟨n, db₁⟩, h₁, rfl⟩ := map_eq_ok.mp h
    rcases settleDispatchedJob_ok h₁ with ⟨-, hno⟩ | ⟨t, rfl⟩
    · exact absurd hd (hno job hjob)
    · exact ⟨rfl, .inr (.inl ⟨jobId, job, hdisp, rfl⟩)⟩
  · obtain ⟨⟨r, db₁⟩, h₁, rfl⟩ := map_eq_ok.mp h
    obtain ⟨jobs, trs, rfl, hget⟩ := markDispatchedJobsFailedForAgentConnCollectSync_ok h₁
    exact ⟨rfl, .inr (.inr hget)⟩

theorem markAgentUnknownSync_ok
    (h : markAgentUnknownSync db agentId reason evidenceId now = .ok (n, db')) :
    db' = db ∨ db'.agents = db.agents.modify agentId (·.enterError .unknown reason now) ∧
      db.SettlesUnknown agentId reason now db'.jobs := by
  obtain ⟨-, same, -⟩ | ⟨agent, -, -, h⟩ := unless_ok h
  · exact .inl same
  split at h
  · cases h
  obtain ⟨db₁, h₁, h₂⟩ := bind_eq_ok.mp h
  cases h₂
  exact .inr (settleUnknownJobs_ok h₁)

theorem markAgentFailedFromInterventionSync_ok
    (h : markAgentFailedFromInterventionSync db agentId reason now = .ok (n, db')) :
    db' = db ∨ db'.jobs = db.jobs ∧
      db'.agents = db.agents.modify agentId (·.enterError .failed reason now) := by
  obtain ⟨-, same, -⟩ | ⟨agent, -, -, h⟩ := unless_ok h
  · exact .inl same
  · cases h
    exact .inr ⟨rfl, rfl⟩

/-- An asserted agent was UNKNOWN or WAITING_FOR_ACK and keeps whatever jobs it had. -/
theorem assertStateToIdleSync_ok
    (h : assertStateToIdleSync db agentId evidenceId now = .ok (n, db')) :
    ∃ evidence agent, db.evidence.get? evidenceId = some evidence ∧ evidence.agentId = agentId ∧
      db.agents.get? agentId = some agent ∧
      (agent.state = .unknown ∨ agent.state = .waitingForAck) ∧
      db'.agents = db.agents.modify agentId (·.enterSub .idle "Asserted" now) ∧
      db'.jobs = db.jobs := by
  unfold assertStateToIdleSync at h
  split at h
  · cases h
  rename_i evidence hevidence
  split at h
  · cases h
  rename_i howner
  split at h
  · cases h
  rename_i agent hagent
  split at h
  · cases h
  rename_i hs
  cases h
  exact ⟨evidence, agent, hevidence, not_not.mp howner, hagent,
    by simpa [or_iff_not_imp_left] using hs, rfl, rfl⟩

theorem assertStateToIdleSync_succeeds (hevidence : db.evidence.get? evidenceId = some evidence)
    (howner : evidence.agentId = agentId) (hagent : db.agents.get? agentId = some agent)
    (hstate : agent.state = .unknown ∨ agent.state = .waitingForAck) (now : Int) :
    ∃ r, assertStateToIdleSync db agentId evidenceId now = .ok r := by
  have hs : ¬(agent.state ≠ .unknown ∧ agent.state ≠ .waitingForAck) := by
    rcases hstate with h | h <;> simp [h]
  simp only [assertStateToIdleSync, hevidence, howner, hagent, ne_eq, hs]
  exact ⟨_, rfl⟩

end Ccbd
