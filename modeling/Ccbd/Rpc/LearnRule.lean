import Ccbd.Orchestrator.RecoveryLoop

/-!
# Learning a rule

`agent.learn_rule` checks the request, stores the rule and, if the agent exists, an event that
tells of it. The event a rule was learned from is checked by the database alone: it has to be
there, whosever it is.
-/

namespace Ccbd

open Lib

/-- What serde and the regex crate answer. -/
structure RuleEnv where
  actions : Json → Except String Unit
  cursorAnchor : Json → Except String Unit
  extraction : Json → Except String Unit
  regex : String → Except String (String → Bool)
  /-- The text of `{:?}`. -/
  debug : String → String

inductive LearnedRuleCategory where
  | startupReadiness
  | runtimeMarker
  | replyExtraction
deriving DecidableEq, Repr

namespace LearnedRuleCategory

def asStr : LearnedRuleCategory → String
  | startupReadiness => "StartupReadiness"
  | runtimeMarker => "RuntimeMarker"
  | replyExtraction => "ReplyExtraction"

def parse (value : String) : Except CcbdError LearnedRuleCategory :=
  if value = "StartupReadiness" then .ok startupReadiness
  else if value = "RuntimeMarker" then .ok runtimeMarker
  else if value = "ReplyExtraction" then .ok replyExtraction
  else .error (.ipcInvalidRequest s!"invalid learned rule category: {value}")

end LearnedRuleCategory

/-! ## The parameters -/

def requiredStr (params : Json) (field : String) : Except CcbdError String :=
  ((params.get? field).bind Json.asStr?).elim
    (.error (.ipcInvalidRequest s!"missing or invalid field '{field}'")) .ok

/-- The pattern of the fingerprint. -/
def parseRuleFingerprint (params : Json) : Except CcbdError String :=
  match params.get? "fingerprint" with
  | none => .error (.ipcInvalidRequest "missing field 'fingerprint'")
  | some fingerprint =>
    match (fingerprint.get? "type").bind Json.asStr? with
    | none => .error (.ipcInvalidRequest "missing or invalid field 'fingerprint.type'")
    | some fingerprintType =>
      if fingerprintType = "regex" then
        ((fingerprint.get? "pattern").bind Json.asStr?).elim
          (.error (.ipcInvalidRequest "missing or invalid field 'fingerprint.pattern'")) .ok
      else .error (.ipcInvalidRequest s!"unsupported fingerprint.type: {fingerprintType}")

def optionalStringArray (params : Json) (field : String) :
    Except CcbdError (Option (List String)) :=
  match params.get? field with
  | none => .ok none
  | some value =>
    ((value.asArray?).bind (·.mapM Json.asStr?)).elim
      (.error (.ipcInvalidRequest s!"invalid field '{field}'")) (.ok ∘ some)

/-- The bounds on a list of examples, which are checked twice. -/
def checkExamples (field : String) (values : List String) : Except CcbdError Unit :=
  if values.isEmpty then
    .error (.ipcInvalidRequest s!"{field} must contain at least one positive example")
  else if 10 < values.length then
    .error (.ipcInvalidRequest s!"{field} must contain at most 10 examples")
  else if values.any (16 * 1024 < ·.utf8ByteSize) then
    .error (.ipcInvalidRequest s!"{field} examples must be at most 16 KiB each")
  else .ok ()

def requiredStringArray (params : Json) (field : String) : Except CcbdError (List String) := do
  let values ← optionalStringArray params field
  let values ← values.elim (.error (.ipcInvalidRequest s!"missing field '{field}'")) .ok
  checkExamples field values
  return values

/-- Whether the field has a value that serde can read. -/
def optionalJsonField (read : Json → Except String Unit) (params : Json) (field : String) :
    Except CcbdError Bool :=
  match params.get? field with
  | none | some .null => .ok false
  | some value => match read value with
    | .ok () => .ok true
    | .error e => .error (.ipcInvalidRequest s!"invalid field '{field}': {e}")

def trivialNegatives : List String := ["", "\n", "hello", "Working", "Thinking..."]

def validateLearnRule (env : RuleEnv) (pattern : String) (positiveExamples : List String) :
    Except CcbdError Unit := do
  checkExamples "positive_examples" positiveExamples
  match env.regex pattern with
  | .error e => .error (.ipcInvalidRequest s!"invalid regex pattern for learned rule: {e}")
  | .ok isMatch =>
    if positiveExamples.all isMatch = false then
      .error (.ipcInvalidRequest "regex must match every positive example")
    else match trivialNegatives.find? isMatch with
    | some negative => .error (.ipcInvalidRequest
        s!"regex too wide: matches trivial negative {env.debug negative}")
    | none => .ok ()

def learnRuleProvider (env : RuleEnv) (params : Json) (agent : Option Agent) :
    Except CcbdError String :=
  match params.get? "provider" with
  | none => .ok (agent.elim "unknown" (·.provider))
  | some value => match value.asStr? with
    | none => .error (.ipcInvalidRequest "invalid field 'provider'")
    | some raw =>
      let provider := canonicalizeProviderName raw
      match agent.filter (provider ≠ ·.provider) with
      | some agent => .error (.ipcInvalidRequest
          s!"provider {env.debug provider} does not match agent provider {env.debug agent.provider}")
      | none => .ok provider

def sourceEventSeqId (params : Json) : Except CcbdError (Option Int) :=
  match params.get? "source_event_seq_id" with
  | none | some .null => .ok none
  | some value =>
    value.asI64?.elim (.error (.ipcInvalidRequest "invalid field 'source_event_seq_id'"))
      (.ok ∘ some)

/-! ## The handler -/

/-- A request that passed the checks. -/
structure AcceptedRule where
  agentId : String
  provider : String
  category : LearnedRuleCategory
  sourceEventSeqId : Option Int

/-- What the handler does before it stores anything. -/
def acceptRule (env : RuleEnv) (db : Db) (params : Json) : Except CcbdError AcceptedRule := do
  let agentId ← requiredStr params "agent_id"
  let category ← requiredStr params "category" >>= LearnedRuleCategory.parse
  let pattern ← parseRuleFingerprint params
  let _ ← optionalStringArray params "regex_flags"
  let positiveExamples ← requiredStringArray params "positive_examples"
  validateLearnRule env pattern positiveExamples
  let provider ← learnRuleProvider env params (db.agents.get? agentId)
  let hasAction ← optionalJsonField env.actions params "action"
  let _ ← optionalJsonField env.cursorAnchor params "cursor_anchor"
  let hasExtraction ← optionalJsonField env.extraction params "extraction"
  if hasAction then
    .error (.ipcInvalidRequest "action must be null for learned rules")
  else if category ≠ .replyExtraction ∧ hasExtraction then
    .error (.ipcInvalidRequest "extraction is only allowed for ReplyExtraction learned rules")
  else
    let seq ← sourceEventSeqId params
    return { agentId := agentId, provider := provider, category := category,
             sourceEventSeqId := seq }

/-- `insert_learned_rule_sync`; a negative number is the id of no event. `ruleId` is the fresh
id the source draws, `replaced` the rule with the same provider, category and fingerprint. -/
def AcceptedRule.store (accepted : AcceptedRule) (replaced : Option String) (ruleId : String)
    (db : Db) : Except CcbdError Db :=
  if accepted.sourceEventSeqId.any (· < 0) then
    .error (.dbConstraintViolation "insert learned rule: FOREIGN KEY constraint failed")
  else insertLearnedRuleSync db replaced ruleId
    { provider := accepted.provider
      sourceEventSeqId := accepted.sourceEventSeqId.map Int.toNat }

/-- The payload of the event that tells of the rule. -/
def AcceptedRule.payload (accepted : AcceptedRule) (ruleId : String) : Json :=
  .obj [("category", .str accepted.category.asStr), ("provider", .str accepted.provider),
    ("rule_id", .str ruleId),
    ("source_event_seq_id", accepted.sourceEventSeqId.elim .null .num)]

/-- `agent.learn_rule` up to its answer. The rule stays if the event cannot be stored. -/
def handleAgentLearnRule (env : RuleEnv) (params : Json) (replaced : Option String)
    (ruleId : String) (now : Int) : EStateM CcbdError Db AcceptedRule := do
  let accepted ← atomic fun db => (acceptRule env db params).map (·, db)
  atomically (accepted.store replaced ruleId)
  let db ← get
  if (db.agents.get? accepted.agentId).isSome then
    insertEvent accepted.agentId "rule_learned" (accepted.payload ruleId) now
  return accepted

theorem AcceptedRule.store_ok {accepted : AcceptedRule}
    (h : accepted.store replaced ruleId db = .ok db') :
    ∃ rules, db' = { db with learnedRules := rules } := by
  unfold store insertLearnedRuleSync at h
  split_ifs at h
  exact ⟨_, (Except.ok.inj h).symm⟩

end Ccbd
