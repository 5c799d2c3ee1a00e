import Ccbd.Audit.Citations
import Ccbd.Orchestrator.RecoveryFrame
import Ccbd.Rpc.LearnRule

/-!
# The removal of an agent that taught a rule

`delete_agent_sync`, the recycling of a KILLED row in `insert_agent_sync` and
`replace_killed_agent_and_requeue_job_sync` delete an agent, and everything that refers to it
goes with it, but for what refers to one of its events: evidence goes with its agent anyway, a
learned rule does not. It has no agent, and `agent.learn_rule` takes the event of any agent, so
from then on that agent cannot be removed.
-/

namespace Ccbd

open Lib

/-! ## The databases that the daemon can reach -/

/-- Everything that writes to a table of which a foreign key speaks. -/
inductive StoreOp where
  | daemon (op : DaemonOp)
  | updateConfigHash (agentId configHash : String) (now : Int)
  | persistSpawnSpec (spec : AgentSpawnSpec) (configHash : String) (now : Int)
  | persistIntent (intent : AgentRecoveryIntent) (now : Int)
  | setBackoff (agentId : String) (backoff : RecoveryBackoff)
  | clearBackoff (agentId : String) (now : Int)
  | restoreKilledWorker (sessionId : String) (stored : StoredAgentSpawnSpec) (now : Int)
  | insertEvent (agentId : String) (requestId : Option String) (eventType : String)
      (payload : Json) (now : Int)
  | recordSendProgress (seqId : Nat) (payload : Json)
  /-- `agent.learn_rule` up to the rule; the event that tells of it is an `insertEvent`. -/
  | learnRule (env : RuleEnv) (params : Json) (replaced : Option String) (ruleId : String)

namespace StoreOp

def apply (db : Db) : StoreOp → Db
  | daemon op => op.apply db
  | updateConfigHash a hash now => updateAgentConfigHashSync db a hash now
  | persistSpawnSpec spec hash now =>
    commit ((persistAgentSpawnSpecSync db spec hash now).map ((), ·)) db
  | persistIntent intent now =>
    commit ((persistAgentRecoveryIntentSync db intent now).map ((), ·)) db
  | setBackoff a backoff => setRecoveryBackoff db a backoff
  | clearBackoff a now => clearRecoveryBackoffSync db a now
  | restoreKilledWorker s stored now => (restoreKilledWorkerSpawnSpec db s stored now).2
  | insertEvent a request ty payload now => commit (insertEventSync db a request ty payload now) db
  | recordSendProgress seq payload => recordSendProgressSync db seq payload
  | learnRule env params replaced id =>
    commit ((acceptRule env db params >>= (·.store replaced id db)).map ((), ·)) db

end StoreOp

/-- The database after some operations on an empty one. -/
def Db.Reachable (db : Db) : Prop := ∃ ops : List StoreOp, db = ops.foldl StoreOp.apply .empty

theorem StoreOp.apply_learnRule_of_error
    (h : (acceptRule env db params >>= (·.store replaced ruleId db)) = .error e) :
    (StoreOp.learnRule env params replaced ruleId).apply db = db := by
  rw [StoreOp.apply, h]
  rfl

/-- The handler does nothing but the two. -/
theorem handleAgentLearnRule_ends (env : RuleEnv) (params : Json) (replaced : Option String)
    (ruleId : String) (now : Int) (db : Db) :
    Ends (handleAgentLearnRule env params replaced ruleId now) db fun _ db' =>
      db' = (StoreOp.learnRule env params replaced ruleId).apply db ∨
        ∃ a payload, db' = (StoreOp.insertEvent a none "rule_learned" payload now).apply
          ((StoreOp.learnRule env params replaced ruleId).apply db) := by
  unfold handleAgentLearnRule
  rw [ends_bind, ends_atomic]
  cases accepts : acceptRule env db params with
  | error e => exact .inl (StoreOp.apply_learnRule_of_error (by rw [accepts]; rfl)).symm
  | ok accepted =>
    simp only [Except.map]
    rw [ends_bind, atomically, ends_atomic]
    cases stores : accepted.store replaced ruleId db with
    | error e =>
      have refused : (acceptRule env db params >>= (·.store replaced ruleId db)) = .error e := by
        rw [accepts]
        exact stores
      exact .inl (StoreOp.apply_learnRule_of_error refused).symm
    | ok db₁ =>
      have stored : (StoreOp.learnRule env params replaced ruleId).apply db = db₁ := by
        rw [StoreOp.apply, accepts]
        simp only [ok_bind, stores]
        rfl
      simp only [Except.map, ends_bind, ends_get, stored]
      split_ifs
      · refine ends_bind.mpr (ends_bind.mpr (ends_atomic.mpr ?_))
        cases logs : insertEventSync db₁ accepted.agentId none "rule_learned"
            (accepted.payload ruleId) now with
        | error e => exact .inl rfl
        | ok r =>
          refine .inr ⟨accepted.agentId, accepted.payload ruleId, ?_⟩
          rw [StoreOp.apply, logs]
          rfl
      · exact .inl rfl

theorem recordSendProgressSync_logs (d : Db) (seqId : Nat) (payload : Json) :
    d.Logs (recordSendProgressSync d seqId payload) := by
  refine .of_evidence (fun a seq own => ?_) rfl
  obtain ⟨e, stored, agent⟩ := Db.ownsEvent_iff.mp own
  exact Db.ownsEvent_iff.mpr ⟨_, AutoTable.mem_updateWhere stored _ _, by split_ifs <;> exact agent⟩

theorem StoreOp.evidenceOwned (op : StoreOp) (owned : d.EvidenceOwned) :
    (op.apply d).EvidenceOwned := by
  cases op with
  | daemon op => exact (op.writes d).evidenceOwned owned
  | updateConfigHash | setBackoff | clearBackoff => exact owned
  | persistSpawnSpec =>
    refine commit_unit_induction owned fun d' h => ?_
    obtain ⟨_, rfl⟩ := persistAgentSpawnSpecSync_ok h
    exact owned
  | persistIntent =>
    refine commit_unit_induction owned fun d' h => ?_
    obtain ⟨_, rfl⟩ := persistAgentRecoveryIntentSync_ok h
    exact owned
  | restoreKilledWorker s stored now =>
    obtain ⟨d₁, row, spec⟩ := Db.restoreKilledWorker_cases d s stored now
    have kept : d₁.EvidenceOwned := by rcases row with rfl | ⟨-, rfl⟩ <;> exact owned
    rcases spec with same | persisted
    · rwa [apply, same]
    · obtain ⟨_, same⟩ := persistAgentSpawnSpecSync_ok persisted
      rw [apply, same]
      exact kept
  | insertEvent =>
    refine commit_induction owned fun _ _ h => ?_
    obtain ⟨e, rfl⟩ := insertEventSync_ok h
    exact owned.event e
  | recordSendProgress => exact (recordSendProgressSync_logs ..).owned owned
  | learnRule =>
    refine commit_unit_induction owned fun d' h => ?_
    obtain ⟨accepted, -, stored⟩ := bind_eq_ok.mp h
    obtain ⟨_, rfl⟩ := AcceptedRule.store_ok stored
    exact owned

theorem Db.Reachable.evidenceOwned {db : Db} (reachable : db.Reachable) : db.EvidenceOwned := by
  obtain ⟨ops, rfl⟩ := reachable
  refine List.foldlRecOn ops StoreOp.apply ?_ ?_
  · intro r stored
    cases stored
  · intro db owned op _
    exact op.evidenceOwned owned

/-! ## The calls that remove an agent -/

/-- The error of a statement that a foreign key refuses. -/
def foreignKeyError (context : String) : CcbdError :=
  .dbConstraintViolation s!"{context}: FOREIGN KEY constraint failed"

/-- A call that deletes the row of an agent. The intent of a replacement was read by the id of
its agent. -/
inductive RemovalCall where
  | delete (agentId : String)
  | recycle (agentId sessionId provider : String) (state : AgentState) (pid : Option Int)
      (now : Int)
  | replace (sessionId : String) (spec : AgentSpawnSpec) (configHash : String) (pid : Int)
      (intent : Option AgentRecoveryIntent)
      (own : ∀ i, intent = some i → i.agentId = spec.agentId) (now : Int)

namespace RemovalCall

def result (db : Db) : RemovalCall → Except CcbdError Unit
  | delete a => (deleteAgentSync db a).map fun _ => ()
  | recycle a s provider state pid now => (insertAgentSync db a s provider state pid now).1
  | replace s spec hash pid intent _ now =>
    (replaceKilledAgentAndRequeueJobSync db s spec hash pid intent now).map fun _ => ()

/-- An insert removes an agent only if there is a KILLED row to recycle. -/
def removes (db : Db) : RemovalCall → Bool
  | recycle a .. => (db.agents.get? a).map (·.state) = some .killed
  | _ => true

/-- How a foreign key can make the call fail. The insert does not say which constraint refused
the row; after the deletion that can only be the key of its session. -/
def foreignKeyErrors : RemovalCall → List CcbdError
  | delete _ => [foreignKeyError "delete agent"]
  | recycle a .. => [foreignKeyError "delete killed agent before insert", .agentAlreadyExists a]
  | replace _ spec .. =>
    [foreignKeyError "delete killed agent", .agentAlreadyExists spec.agentId,
      foreignKeyError "persist agent spawn spec", foreignKeyError "insert recovered queued job"]

def FailsByForeignKey (db : Db) (call : RemovalCall) : Prop :=
  call.removes db = true ∧ ∃ e ∈ call.foreignKeyErrors, call.result db = .error e

/-- `agent_id.starts_with("master:")`. -/
def reserved (agentId : String) : Bool := "master:".toList.isPrefixOf agentId.toList

/-- No rule was learned from an event of the agent, and a row that is written again names a
session that there is. -/
def Admitted (db : Db) : RemovalCall → Prop
  | delete a => db.agents.get? a ≠ none → db.citedByRule a = false
  | recycle a s .. => (db.agents.get? a).map (·.state) = some .killed → reserved a = false →
      db.citedByRule a = false ∧ db.sessions.get? s ≠ none
  | replace s spec .. => (db.agents.get? spec.agentId).map (·.state) = some .killed →
      db.citedByRule spec.agentId = false ∧
        (reserved spec.agentId = false → db.sessions.get? s ≠ none)

end RemovalCall

/-! ## When they fail -/

open RemovalCall

section Removal

variable {db : Db} {a : String}

theorem Db.deleteAgent_of_present (owned : db.EvidenceOwned) (present : db.agents.get? a ≠ none)
    (context : String) :
    db.deleteAgent a context =
      if db.citedByRule a then .error (foreignKeyError context) else .ok (db.cascadeAgent a) := by
  have there : (db.agents.get? a).isNone = false := by simpa [Option.isSome_iff_ne_none] using present
  rw [Db.deleteAgent, there, owned.cascadeBlocked_eq, if_neg Bool.false_ne_true]
  rfl

theorem deleteAgentSync_refused_iff (owned : db.EvidenceOwned) (a : String) :
    (delete a).FailsByForeignKey db ↔ db.agents.get? a ≠ none ∧ db.citedByRule a = true := by
  by_cases present : db.agents.get? a = none
  · simp [FailsByForeignKey, result, deleteAgentSync, Db.deleteAgent, present, Except.map]
  · have deletes := Db.deleteAgent_of_present owned present "delete agent"
    cases cited : db.citedByRule a <;>
      simp [FailsByForeignKey, result, removes,
        foreignKeyErrors, deleteAgentSync, deletes, cited, present, Except.map]

theorem insertAgentSync_of_killed (owned : db.EvidenceOwned)
    (killed : (db.agents.get? a).map (·.state) = some .killed)
    (unreserved : reserved a = false) (s provider : String) (state : AgentState)
    (pid : Option Int) (now : Int) :
    (insertAgentSync db a s provider state pid now).1 =
      if db.citedByRule a then .error (foreignKeyError "delete killed agent before insert")
      else if (db.sessions.get? s).isSome then .ok () else .error (.agentAlreadyExists a) := by
  obtain ⟨agent, found, state⟩ := Option.map_eq_some_iff.mp killed
  have present : db.agents.get? a ≠ none := by simp [found]
  have deletes := Db.deleteAgent_of_present owned present "delete killed agent before insert"
  unfold reserved at unreserved
  simp only [insertAgentSync, unreserved, found, state, ne_eq, not_true_eq_false, deletes]
  cases db.citedByRule a with
  | true => rfl
  | false =>
    simp only [Bool.false_eq_true, ↓reduceIte]
    split_ifs <;> rfl

theorem recycle_refused_iff (owned : db.EvidenceOwned) (a s provider : String)
    (state : AgentState) (pid : Option Int) (now : Int) :
    (recycle a s provider state pid now).FailsByForeignKey db ↔
      ((db.agents.get? a).map (·.state) = some .killed ∧ reserved a = false) ∧
        (db.citedByRule a = true ∨ db.sessions.get? s = none) := by
  by_cases killed : (db.agents.get? a).map (·.state) = some .killed
  swap
  · simp [FailsByForeignKey, removes, killed]
  cases unreserved : reserved a with
  | true =>
    have refused : (insertAgentSync db a s provider state pid now).1 = .error (.ipcInvalidRequest
        "agent_id prefix 'master:' is reserved for master hook sentinels") := by
      unfold reserved at unreserved
      simp only [insertAgentSync, unreserved, ↓reduceIte]
    simp [FailsByForeignKey, result, foreignKeyErrors, refused, foreignKeyError]
  | false =>
    have inserts := insertAgentSync_of_killed owned killed unreserved s provider state pid now
    cases cited : db.citedByRule a <;> cases session : db.sessions.get? s <;>
      simp [FailsByForeignKey, result, removes, foreignKeyErrors, inserts, cited, session]

theorem dbConstraintViolation_ne (head : s.toList.head? ≠ t.toList.head?) :
    CcbdError.dbConstraintViolation s ≠ .dbConstraintViolation t := by
  intro same
  cases same
  exact head rfl

/-- What the replacement and the requeue say of their own accord is no error of a foreign key. -/
theorem notMem_foreignKeyErrors (head : s.toList.head? = some 'a' ∨ s.toList.head? = some 'c') :
    CcbdError.dbConstraintViolation s ∉
      [foreignKeyError "delete killed agent", .agentAlreadyExists agentId,
        foreignKeyError "persist agent spawn spec",
        foreignKeyError "insert recovered queued job"] := by
  have apart : ∀ context : String, (context.toList.head? = some 'd' ∨
      context.toList.head? = some 'p' ∨ context.toList.head? = some 'i') →
      CcbdError.dbConstraintViolation s ≠ foreignKeyError context := by
    intro context other
    refine dbConstraintViolation_ne ?_
    have first : (s!"{context}: FOREIGN KEY constraint failed").toList.head? =
        context.toList.head? := by
      cases chars : context.toList <;> simp_all [toString]
    rw [first]
    rcases head with h | h <;> rcases other with o | o | o <;> simp [h, o]
  simp only [List.mem_cons, List.not_mem_nil, or_false, not_or, reduceCtorEq, not_false_eq_true,
    true_and]
  exact ⟨apart _ (by decide), apart _ (by decide), apart _ (by decide)⟩

/-- The replacement of a KILLED row of which no rule was learned, in a session that there is:
what is left is the requeue, on a database that has the row. -/
theorem replaceKilledAgent_eq_requeue
    (owned : db.EvidenceOwned) (killed : (db.agents.get? spec.agentId).map (·.state) = some .killed)
    (uncited : db.citedByRule spec.agentId = false)
    (unreserved : reserved spec.agentId = false) (session : db.sessions.get? s ≠ none)
    (hash : String) (pid : Int) (intent : Option AgentRecoveryIntent) (now : Int) :
    ∃ db₁, db₁.agents.get? spec.agentId ≠ none ∧
      replaceKilledAgentAndRequeueJobSync db s spec hash pid intent now =
        requeueCapturedIntent db₁ now intent := by
  have present : db.agents.get? spec.agentId ≠ none := by
    intro absent
    simp [absent] at killed
  have deletes := Db.deleteAgent_of_present owned present "delete killed agent"
  rw [uncited, if_neg Bool.false_ne_true] at deletes
  have absent := Db.absent_of_deleteAgent deletes
  have inserts : insertAgentSync (db.cascadeAgent spec.agentId) spec.agentId s spec.provider
      .spawning (some pid) now = (.ok (), insertAgentRow (db.cascadeAgent spec.agentId) spec.agentId
        s spec.provider .spawning (some pid) now) := by
    have there : ((db.cascadeAgent spec.agentId).sessions.get? s).isSome = true :=
      Option.isSome_iff_ne_none.mpr session
    unfold reserved at unreserved
    simp only [insertAgentSync, unreserved, Bool.false_eq_true, ↓reduceIte, absent, there]
  -- the row is there for the spec, and is never deleted again
  let written := updateAgentConfigHashSync (insertAgentRow (db.cascadeAgent spec.agentId)
    spec.agentId s spec.provider .spawning (some pid) now) spec.agentId hash now
  have row : written.agents.get? spec.agentId ≠ none := by
    simp [written, updateAgentConfigHashSync, insertAgentRow, Table.get?_insert absent]
  obtain ⟨specs, persists⟩ : ∃ specs, persistAgentSpawnSpecSync written spec hash now =
      .ok { written with agentSpawnSpecs := specs } := by
    simp only [persistAgentSpawnSpecSync, Option.isNone_iff_eq_none, row]
    exact ⟨_, rfl⟩
  refine ⟨clearRecoveryBackoffSync { written with agentSpawnSpecs := specs } spec.agentId now,
    ?_, ?_⟩
  · obtain ⟨agent, found⟩ := Option.ne_none_iff_exists'.mp row
    simp [clearRecoveryBackoffSync, setRecoveryBackoff, found]
  · simp only [replaceKilledAgentAndRequeueJobSync, killed, deletes, ok_bind, inserts]
    exact (congrArg (· >>= fun d => requeueCapturedIntent
      (clearRecoveryBackoffSync d spec.agentId now) now intent) persists).trans rfl

theorem requeueCapturedIntent_notMem
    (own : ∀ i, intent = some i → i.agentId = agentId) (row : db.agents.get? agentId ≠ none)
    (h : requeueCapturedIntent db now intent = .error e) :
    e ∉ [foreignKeyError "delete killed agent", .agentAlreadyExists agentId,
        foreignKeyError "persist agent spawn spec",
        foreignKeyError "insert recovered queued job"] := by
  cases intent with
  | none => cases h
  | some intent =>
    rcases requeueInterruptedJobFromCapturedIntentSync_error h with
      ⟨expected, got, rfl⟩ | rfl | absent
    · refine notMem_foreignKeyErrors (.inr ?_)
      simp [toString]
    · simp only [List.mem_cons, reduceCtorEq]
      decide
    · rw [own intent rfl] at absent
      exact absurd absent row

theorem replace_refused_iff (owned : db.EvidenceOwned) (s : String) (spec : AgentSpawnSpec)
    (hash : String) (pid : Int) (intent : Option AgentRecoveryIntent)
    (own : ∀ i, intent = some i → i.agentId = spec.agentId) (now : Int) :
    (replace s spec hash pid intent own now).FailsByForeignKey db ↔
      (db.agents.get? spec.agentId).map (·.state) = some .killed ∧
        (db.citedByRule spec.agentId = true ∨
          reserved spec.agentId = false ∧ db.sessions.get? s = none) := by
  have failsIff {e : CcbdError}
      (h : replaceKilledAgentAndRequeueJobSync db s spec hash pid intent now = .error e) :
      (replace s spec hash pid intent own now).FailsByForeignKey db ↔
        e ∈ (replace s spec hash pid intent own now).foreignKeyErrors := by
    simp [FailsByForeignKey, result, removes, h, Except.map]
  by_cases killed : (db.agents.get? spec.agentId).map (·.state) = some .killed
  swap
  · have refused : replaceKilledAgentAndRequeueJobSync db s spec hash pid intent now =
        .error (.dbConstraintViolation
          s!"agent {spec.agentId} is not KILLED before atomic replacement") := by
      rw [replaceKilledAgentAndRequeueJobSync, if_pos killed]
    refine (failsIff refused).trans (iff_of_false ?_ fun h => killed h.1)
    exact notMem_foreignKeyErrors (.inl (by simp [toString]))
  have present : db.agents.get? spec.agentId ≠ none := by
    intro absent
    simp [absent] at killed
  have deletes := Db.deleteAgent_of_present owned present "delete killed agent"
  cases cited : db.citedByRule spec.agentId with
  | true =>
    have refused : replaceKilledAgentAndRequeueJobSync db s spec hash pid intent now =
        .error (foreignKeyError "delete killed agent") := by
      rw [cited, if_pos rfl] at deletes
      simp only [replaceKilledAgentAndRequeueJobSync, killed, deletes]
      rfl
    exact (failsIff refused).trans (iff_of_true List.mem_cons_self ⟨killed, .inl rfl⟩)
  | false =>
    rw [cited, if_neg Bool.false_ne_true] at deletes
    have absent := Db.absent_of_deleteAgent deletes
    -- the error of the insert is the error of the replacement
    have insertFails {e : CcbdError}
        (h : (insertAgentSync (db.cascadeAgent spec.agentId) spec.agentId s spec.provider .spawning
          (some pid) now).1 = .error e) :
        replaceKilledAgentAndRequeueJobSync db s spec hash pid intent now = .error e := by
      simp only [replaceKilledAgentAndRequeueJobSync, killed, deletes, ok_bind, h]
      rfl
    cases unreserved : reserved spec.agentId with
    | true =>
      have refused := insertFails (e := .ipcInvalidRequest
        "agent_id prefix 'master:' is reserved for master hook sentinels") (by
          unfold reserved at unreserved
          simp only [insertAgentSync, unreserved, ↓reduceIte])
      refine (failsIff refused).trans (iff_of_false ?_ fun h => by simp at h)
      simp [foreignKeyErrors, foreignKeyError]
    | false =>
      by_cases session : db.sessions.get? s = none
      · have refused := insertFails (e := .agentAlreadyExists spec.agentId) (by
          have gone : ((db.cascadeAgent spec.agentId).sessions.get? s).isSome = false :=
            Option.isSome_eq_false_iff.mpr (by simpa [Db.cascadeAgent] using session)
          unfold reserved at unreserved
          simp only [insertAgentSync, unreserved, Bool.false_eq_true, ↓reduceIte, absent, gone])
        refine (failsIff refused).trans (iff_of_true ?_ ⟨killed, .inr ⟨rfl, session⟩⟩)
        exact List.mem_cons_of_mem _ List.mem_cons_self
      · obtain ⟨db₁, row, rest⟩ :=
          replaceKilledAgent_eq_requeue owned killed cited unreserved session hash pid intent now
        have unmet : ¬(false = true ∨ (false = false ∧ db.sessions.get? s = none)) := by
          simp [session]
        refine iff_of_false ?_ fun h => unmet h.2
        rintro ⟨-, e, listed, failed⟩
        rw [result, rest] at failed
        cases requeues : requeueCapturedIntent db₁ now intent with
        | ok r => rw [requeues] at failed; cases failed
        | error e' =>
          rw [requeues] at failed
          cases failed
          exact requeueCapturedIntent_notMem own row requeues listed

end Removal

/-! ## Whole runs -/

/-- An answer of the regex crate for the pattern of `StoreOp.teach`. -/
def RuleEnv.done : RuleEnv where
  actions _ := .ok ()
  cursorAnchor _ := .ok ()
  extraction _ := .ok ()
  regex _ := .ok (· = "done")
  debug s := s

/-- A rule is learned for the agent from an event. -/
def StoreOp.teach (agentId : String) (seq : Int) : StoreOp :=
  .learnRule .done (.obj
    [("agent_id", .str agentId), ("category", .str "RuntimeMarker"),
      ("fingerprint", .obj [("type", .str "regex"), ("pattern", .str "^done$")]),
      ("positive_examples", .arr [.str "done"]), ("source_event_seq_id", .num seq)]) none "lr_1"

/-- Two agents of one session. The first has a piece of evidence, which cites event 1; event 2
is of the second. -/
def StoreOp.twoAgents : List StoreOp :=
  [.daemon (.writeSession "s1"
      { projectId := "p1", absolutePath := "/p1", status := "ACTIVE", configHash := none }),
    .daemon (.insertAgent "a1" "s1" "codex" (some 7) 0),
    .daemon (.insertAgent "a2" "s1" "codex" (some 8) 0),
    .daemon (.recordEvidence "e1" "a1" none "test" .null 1),
    .insertEvent "a2" none "output_chunk" .null 1]

def Db.after (ops : List StoreOp) : Db := ops.foldl StoreOp.apply .empty

/-- In every database that the daemon can reach, a foreign key stands in the way of a removal
only if a rule was learned from an event of the agent, or if the new row names a session that
is not there. -/
theorem removal_unrefused_iff {db : Db} (reachable : db.Reachable) (call : RemovalCall) :
    ¬call.FailsByForeignKey db ↔ call.Admitted db := by
  have owned := reachable.evidenceOwned
  cases call with
  | delete a =>
    rw [deleteAgentSync_refused_iff owned, Admitted]
    simp
  | recycle a s provider state pid now =>
    rw [recycle_refused_iff owned, Admitted]
    simp
  | replace s spec hash pid intent own now =>
    rw [replace_refused_iff owned, Admitted]
    simp

/-- The agent with the evidence can be removed after a rule was learned from the other one. -/
theorem removal_unrefused_evidence :
    (Db.after (StoreOp.twoAgents ++ [.teach "a2" 2])).citedByRule "a2" = true ∧
      ¬(delete "a1").FailsByForeignKey (Db.after (StoreOp.twoAgents ++ [.teach "a2" 2])) :=
  ⟨by decide +kernel,
    (removal_unrefused_iff ⟨_, rfl⟩ (.delete "a1")).mpr fun _ => by decide +kernel⟩

/-- An agent cannot be removed after a rule was learned from one of its events. -/
theorem not_removal_unrefused :
    ¬∀ db : Db, db.Reachable → ∀ call : RemovalCall, ¬call.FailsByForeignKey db := by
  intro unrefused
  refine unrefused (Db.after (StoreOp.twoAgents ++ [.teach "a2" 2])) ⟨_, rfl⟩ (.delete "a2") ?_
  exact ⟨rfl, foreignKeyError "delete agent", List.mem_cons_self, by decide +kernel⟩

end Ccbd
