import Ccbd.Db.Recovery

/-!
# Transitions of single agents outside the state machine

The startup probe, the prompt handler and the recovery loop move `agents.state` with
statements of their own. Each of them is one transaction on one agent.
-/

namespace Ccbd

open Lib

/-! ## Startup readiness -/

variable (db : Db) (agentId : String)

/-- The transition of `mark_idle_after_seed_probe` for an agent under intervention. -/
def markIdleAfterSeedProbe (now : Int) : Except CcbdError (Unit × Db) :=
  transitAgentStateSync db agentId [.spawningIntervention] .idle (some "SEED_READINESS") now

def markIdleAfterLearnedStartupReadiness (now : Int) : Except CcbdError (Unit × Db) :=
  transitAgentStateSync db agentId [.spawning, .spawningIntervention] .idle
    (some "LEARNED_STARTUP_READINESS") now

/-- The transition of `mark_spawning_intervention_and_emit_unknown_pattern`. -/
def markSpawningIntervention (now : Int) : Except CcbdError (Unit × Db) :=
  transitAgentStateSync db agentId [.spawning] .spawningIntervention
    (some "UNKNOWN_PATTERN_STABLE") now

/-! ## Prompts -/

/-- The answer to a resolved prompt: back to work if there is a dispatched job. -/
def resolvePromptStateSync (now : Int) : Except CcbdError (AgentState × Db) :=
  match db.agents.get? agentId with
  | none => .error (.agentNotFound agentId)
  | some agent =>
    if agent.state ≠ .promptPending then .error (.agentWrongState agent.state.asDbStr)
    else
      let target : AgentState :=
        if (queryDispatchedJobForAgentSync db agentId).isSome then .busy else .idle
      (transitAgentStateSync db agentId [.promptPending] target (some "PROMPT_RESOLVED") now).map
        fun r => (target, r.2)

inductive PromptPendingUnparkDisposition where
  | unparked
  | casMiss
deriving DecidableEq, Repr

/-- A pane that looks idle again takes its agent out of PROMPT_PENDING. -/
def markPromptPendingIdleUnparkedSync (expectedStateVersion now : Int) :
    Except CcbdError (PromptPendingUnparkDisposition × Db) :=
  match db.agents.get? agentId with
  | none => .error (.agentNotFound agentId)
  | some agent =>
    if agent.state ≠ .promptPending ∨ agent.stateVersion ≠ expectedStateVersion then
      .ok (.casMiss, db)
    else
      let db := db.modifyAgent agentId (·.enterSub .idle "PromptIdleSelfHealed" now)
      .ok (.unparked, db.appendEvent agentId "state_change" (.obj
        [("from", .str "PROMPT_PENDING"), ("reason", .str "PROMPT_PENDING_IDLE_SELF_HEALED"),
          ("sub_state", .str "PromptIdleSelfHealed"), ("to", .str "IDLE")]) now)

/-- The alert for a prompt that stays suppressed. It is stored as a `state_change`. -/
def suppressionEscalatedPayload (suppressedHash : String) (ticks : Nat) : Json :=
  .obj [("agent_id", .str agentId), ("hash", .str suppressedHash),
    ("reason", .str "PROMPT_PENDING_SUPPRESSION_ESCALATED"), ("ticks", .num ticks)]

/-! ## Recovery -/

/-- The agent row after `UPDATE agents SET state_version = state_version + 1,
updated_at = unixepoch()`. -/
def Agent.claim (agent : Agent) (now : Int) : Agent :=
  { agent with stateVersion := agent.stateVersion + 1, updatedAt := now }

def tryClaimAgentRecoverySync (expectedStateVersion nowTs now : Int) : Bool × Db :=
  let claimable := (db.agents.get? agentId).any fun agent =>
    agent.state = .crashed && agent.stateVersion = expectedStateVersion &&
      !agent.retryExhausted && agent.nextRetryAt.all (· ≤ nowTs)
  if claimable then (true, db.modifyAgent agentId (·.claim now)) else (false, db)

/-- The first statement of `apply_recovery_spawn_result_with_action` after a failed respawn. -/
def restoreCrashedRecoveryState (now : Int) : Db :=
  db.modifyAgent agentId (·.enter .crashed now)

end Ccbd
