import Ccbd.Db.Schema

/-!
# Transitions of `agents.state`

`transitAgentStateConnInner` is the general transition: it checks the expected
source states and, if given, the expected `state_version`, writes the new state
with the next version and appends a `state_change` event. A strict caller gets an
error where a lenient one gets `false`.
-/

namespace Ccbd

open Lib

/-- The agent row after `UPDATE agents SET state = ?, state_version = state_version + 1,
updated_at = unixepoch()`. -/
def Agent.enter (agent : Agent) (state : AgentState) (now : Int) : Agent :=
  { agent with state := state, stateVersion := agent.stateVersion + 1, updatedAt := now }

@[simp] theorem Agent.enter_state (agent : Agent) (s : AgentState) (now : Int) :
    (agent.enter s now).state = s := rfl

/-- The same with `sub_state` set. -/
def Agent.enterSub (agent : Agent) (state : AgentState) (subState : String) (now : Int) : Agent :=
  { agent.enter state now with subState := some subState }

@[simp] theorem Agent.enterSub_state (agent : Agent) (s : AgentState) (sub : String) (now : Int) :
    (agent.enterSub s sub now).state = s := rfl

/-- The same with `error_code` set. -/
def Agent.enterError (agent : Agent) (state : AgentState) (errorCode : String) (now : Int) :
    Agent :=
  { agent.enter state now with errorCode := some errorCode }

@[simp] theorem Agent.enterError_state (agent : Agent) (s : AgentState) (code : String)
    (now : Int) : (agent.enterError s code now).state = s := rfl

/-- The payload of a plain `state_change` event. -/
def stateChange (previous next : AgentState) (reason : Option String) : Json :=
  .obj [("from", .str previous.asDbStr), ("reason", Json.ofOptStr reason),
    ("to", .str next.asDbStr)]

/-- "Working or waiting for the acknowledgement". -/
def isActiveState : AgentState → Bool
  | .spawning | .waitingForAck | .busy => true
  | _ => false

variable (db : Db) (agentId : String)

def transitAgentStateConnInner (fromStateList : List AgentState)
    (toState : AgentState) (reason : Option String) (expectedVersion : Option Int) (strict : Bool)
    (now : Int) : Except CcbdError (Bool × Db) :=
  match db.agents.get? agentId with
  | none => if strict then .error (.agentNotFound agentId) else .ok (false, db)
  | some agent =>
    let versionMatches := expectedVersion.all (· = agent.stateVersion)
    let fromMatches := fromStateList.isEmpty || fromStateList.contains agent.state
    if !versionMatches || !fromMatches then
      if strict then .error (.agentWrongState agent.state.asDbStr) else .ok (false, db)
    else
      .ok (true, (db.modifyAgent agentId (·.enter toState now)).appendEvent agentId "state_change"
        (stateChange agent.state toState reason) now)

def transitAgentStateConnSync (fromStateList : List AgentState)
    (toState : AgentState) (reason : Option String) (now : Int) : Except CcbdError Db :=
  (transitAgentStateConnInner db agentId fromStateList toState reason none true now).map Prod.snd

def transitAgentStateSync (fromStateList : List AgentState)
    (toState : AgentState) (reason : Option String) (now : Int) : Except CcbdError (Unit × Db) :=
  (transitAgentStateConnInner db agentId fromStateList toState reason none true now).map
    fun r => ((), r.2)

/-- Compare-and-set from IDLE to WAITING_FOR_ACK. -/
def markAgentWaitingForAckSync (expectedVersion now : Int) : Except CcbdError (Bool × Db) :=
  transitAgentStateConnInner db agentId [.idle] .waitingForAck (some "ack_pending")
    (some expectedVersion) false now

/-- The orchestrator's answer to a failed send. -/
def markDispatchIoFailed (reason : String) (now : Int) : Except CcbdError (Unit × Db) :=
  transitAgentStateSync db agentId [.waitingForAck] .stuck (some reason) now

/-- The database step of the timer a dispatch starts. -/
def spawnDispatchAckStabilityBusy (now : Int) : Except CcbdError (Unit × Db) :=
  transitAgentStateSync db agentId [.waitingForAck] .busy (some "DISPATCH_ACK_STABLE") now

def markAgentPromptPendingSync (reason : String) (now : Int) : Except CcbdError (Nat × Db) :=
  match db.agents.get? agentId with
  | none => .error (.agentNotFound agentId)
  | some agent =>
    if [AgentState.idle, .spawning].contains agent.state = false then
      .error (.agentWrongState agent.state.asDbStr)
    else
      .ok (1, (db.modifyAgent agentId (·.enter .promptPending now)).appendEvent agentId
        "state_change" (stateChange agent.state .promptPending (some reason)) now)

/-- The same with the event the master reads, in one transaction. -/
def markPromptPendingAndEmitUnknownSync (blockReason : String) (payload : Json)
    (now : Int) : Except CcbdError (Nat × Db) :=
  (markAgentPromptPendingSync db agentId blockReason now).map fun r =>
    (r.1, r.2.appendEvent agentId "UNKNOWN_PROMPT_DETECTED" payload now)

variable {db agentId}

/-! ## What a transition does -/

variable {db : Db} {now : Int} {agentId : String}

theorem unless_ok {α : Type} {found : Option Agent} {spared : Agent → Prop}
    {_ : DecidablePred spared} {idle r : α} {write : Agent → Except CcbdError (α × Db)}
    (h : (match found with
      | none => .ok (idle, db)
      | some agent => if spared agent then .ok (idle, db) else write agent) = Except.ok (r, db')) :
    (r = idle ∧ db' = db ∧ ∀ agent, found = some agent → spared agent) ∨
      ∃ agent, found = some agent ∧ ¬spared agent ∧ write agent = .ok (r, db') := by
  split at h
  · cases h
    exact .inl ⟨rfl, rfl, by simp⟩
  · rename_i agent
    split_ifs at h with spares
    · cases h
      exact .inl ⟨rfl, rfl, by simpa using spares⟩
    · exact .inr ⟨agent, rfl, spares, h⟩

/-- The one agent enters the new state from one of the expected ones. -/
def Db.Enters (db : Db) (agentId : String) (fromStateList : List AgentState)
    (toState : AgentState) (now : Int) (db' : Db) : Prop :=
  ∃ agent payload, db.agents.get? agentId = some agent ∧
    (fromStateList = [] ∨ agent.state ∈ fromStateList) ∧
    db' = (db.modifyAgent agentId (·.enter toState now)).appendEvent agentId "state_change"
      payload now

theorem transitAgentStateConnInner_ok
    (h : transitAgentStateConnInner db agentId fromStateList toState reason expectedVersion strict
      now = .ok (r, db')) :
    (strict = false ∧ db' = db) ∨ db.Enters agentId fromStateList toState now db' := by
  unfold transitAgentStateConnInner at h
  split at h
  · split_ifs at h with hstrict
    cases h
    exact .inl ⟨by simpa using hstrict, rfl⟩
  · rename_i agent hagent
    simp only [Bool.or_eq_true] at h
    split_ifs at h with hc hstrict
    · cases h
      exact .inl ⟨by simpa using hstrict, rfl⟩
    · cases h
      refine .inr ⟨agent, _, hagent, ?_, rfl⟩
      have hfrom := (not_or.mp hc).2
      simpa [or_iff_not_imp_left] using hfrom

theorem transitAgentStateConnInner_succeeds (hagent : db.agents.get? agentId = some agent)
    (hfrom : fromStateList = [] ∨ agent.state ∈ fromStateList) (toState : AgentState)
    (reason : Option String) (strict : Bool) (now : Int) :
    ∃ db', transitAgentStateConnInner db agentId fromStateList toState reason none strict now =
      .ok (true, db') := by
  have hmatch : (fromStateList.isEmpty || fromStateList.contains agent.state) = true := by
    simpa using hfrom
  simp only [transitAgentStateConnInner, hagent, hmatch]
  exact ⟨_, rfl⟩

theorem transitAgentStateConnSync_ok
    (h : transitAgentStateConnSync db agentId fromStateList toState reason now = .ok db') :
    db.Enters agentId fromStateList toState now db' := by
  obtain ⟨⟨r, db₁⟩, h₁, rfl⟩ := map_eq_ok.mp h
  rcases transitAgentStateConnInner_ok h₁ with ⟨hs, -⟩ | h
  · cases hs
  · exact h

theorem transitAgentStateSync_ok
    (h : transitAgentStateSync db agentId fromStateList toState reason now = .ok (u, db')) :
    db.Enters agentId fromStateList toState now db' := by
  obtain ⟨⟨r, db₁⟩, h₁, h₂⟩ := map_eq_ok.mp h
  cases h₂
  rcases transitAgentStateConnInner_ok h₁ with ⟨hs, -⟩ | h
  · cases hs
  · exact h

theorem markAgentPromptPendingSync_ok {reason : String}
    (h : markAgentPromptPendingSync db agentId reason now = .ok (n, db')) :
    ∃ agent payload, db.agents.get? agentId = some agent ∧
      (agent.state = .idle ∨ agent.state = .spawning) ∧
      db' = (db.modifyAgent agentId (·.enter .promptPending now)).appendEvent agentId
        "state_change" payload now := by
  unfold markAgentPromptPendingSync at h
  split at h
  · cases h
  · rename_i agent hagent
    split_ifs at h with hs
    cases h
    exact ⟨agent, _, hagent, by simpa [or_iff_not_imp_left] using hs, rfl⟩

/-! ## Events on their own -/

def queryEventByRequestId (db : Db) (agentId requestId : String) : Option Nat :=
  ((db.events.select fun _ e => e.agentId = agentId && e.requestId = some requestId).head?).map
    Prod.fst

def insertEventSync (db : Db) (agentId : String) (requestId : Option String) (eventType : String)
    (payload : Json) (now : Int) : Except CcbdError (Nat × Db) :=
  match requestId.bind (queryEventByRequestId db agentId) with
  | some existingSeqId => .error (.duplicateRequest existingSeqId)
  | none =>
    if (db.agents.get? agentId).isNone then
      .error (.dbConstraintViolation "insert event: FOREIGN KEY constraint failed")
    else
      let db := { db with
        events := db.events.append
          { agentId := agentId, requestId := requestId, eventType := eventType, payload := payload,
            createdAt := now } }
      .ok (db.lastEventSeq, db)

/-- `UPDATE events SET payload = ? WHERE seq_id = ?`. -/
def recordSendProgressSync (db : Db) (seqId : Nat) (finalPayload : Json) : Db :=
  { db with
    events := db.events.updateWhere (fun k _ => k = seqId) ({ · with payload := finalPayload }) }

theorem insertEventSync_event
    (h : insertEventSync db agentId requestId eventType payload now = .ok (n, db')) :
    db' = { db with
      events := db.events.append ⟨agentId, requestId, eventType, payload, now⟩ } := by
  unfold insertEventSync at h
  split at h
  · cases h
  · split_ifs at h
    cases h
    rfl

theorem insertEventSync_ok
    (h : insertEventSync db agentId requestId eventType payload now = .ok (n, db')) :
    ∃ e, db' = { db with events := db.events.append e } :=
  ⟨_, insertEventSync_event h⟩

theorem insertEventSync_succeeds (eventType : String) (payload : Json) (now : Int)
    (h : (db.agents.get? agentId).isSome) :
    ∃ r, insertEventSync db agentId none eventType payload now = .ok r := by
  unfold insertEventSync
  simp [Option.isSome_iff_ne_none.mp h]

end Ccbd
