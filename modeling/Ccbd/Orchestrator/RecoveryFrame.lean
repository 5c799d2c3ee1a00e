import Ccbd.Audit.Changes
import Ccbd.Orchestrator.RecoveryLoop

/-!
# What the daemon leaves to recovery

Recovery reads five things of an agent: whether it is CRASHED, its provider, its session, the
backoff columns of its row, and its spawn spec and intent. `Steady` says that a step leaves
all of them to an agent. Every operation on running agents is steady for every agent, but the
crash, which writes the intent together with the state, and the kill on the death of the
master. The operations on whole rows are steady for every other agent.
-/

namespace Ccbd

open Lib

/-- The session and the provider of an agent. -/
def Agent.origin (agent : Agent) : String × String := (agent.sessionId, agent.provider)

/-- The step neither crashes the agent nor changes its origin, spawn spec or intent. -/
structure Kept (b : String) (db db' : Db) : Prop where
  origin : (db'.agents.get? b).map Agent.origin = (db.agents.get? b).map Agent.origin
  crashed : db'.stateOf b = some .crashed → db.stateOf b = some .crashed
  spec : db'.agentSpawnSpecs.get? b = db.agentSpawnSpecs.get? b
  intent : db'.agentRecoveryIntents.get? b = db.agentRecoveryIntents.get? b

/-- A CRASHED agent of an eligible provider that has a spawn spec also has an intent. -/
def Db.Recoverable (db : Db) (b : String) : Prop :=
  ∀ agent, db.agents.get? b = some agent → agent.state = .crashed →
    isRecoveryEligibleProvider agent.provider = true → (queryAgentSpawnSpecSync db b).isSome = true →
      (queryAgentRecoveryIntentSync db b).isSome = true

/-- And the backoff columns and the sessions are as before. -/
structure Steady (b : String) (db db' : Db) : Prop extends Kept b db db' where
  backoff : (db'.agents.get? b).map Agent.backoff = (db.agents.get? b).map Agent.backoff
  sessions : db'.sessions = db.sessions

/-- The step leaves the agent its origin, its backoff and its spec, and recoverable if it was. -/
structure LeavesRow (b : String) (db db' : Db) : Prop where
  origin : (db'.agents.get? b).map Agent.origin = (db.agents.get? b).map Agent.origin
  backoff : (db'.agents.get? b).map Agent.backoff = (db.agents.get? b).map Agent.backoff
  spec : db'.agentSpawnSpecs.get? b = db.agentSpawnSpecs.get? b
  recoverable : db.Recoverable b → db'.Recoverable b

/-- And the sessions are as before. -/
structure Leaves (b : String) (db db' : Db) : Prop extends LeavesRow b db db' where
  sessions : db'.sessions = db.sessions

theorem LeavesRow.trans (h : LeavesRow b db db₁) (h' : LeavesRow b db₁ db') : LeavesRow b db db' :=
  ⟨h'.origin.trans h.origin, h'.backoff.trans h.backoff, h'.spec.trans h.spec,
    h'.recoverable ∘ h.recoverable⟩

theorem queryAgentRecoveryIntentSync_congr
    (h : db'.agentRecoveryIntents.get? b = db.agentRecoveryIntents.get? b) :
    queryAgentRecoveryIntentSync db' b = queryAgentRecoveryIntentSync db b := by
  unfold queryAgentRecoveryIntentSync
  rw [h]

theorem Kept.recoverable (h : Kept b db db') (r : db.Recoverable b) : db'.Recoverable b := by
  intro agent found crashed eligible specced
  obtain ⟨old, found', crashed'⟩ : ∃ old, db.agents.get? b = some old ∧ old.state = .crashed := by
    refine Option.map_eq_some_iff.mp (h.crashed ?_)
    rw [Db.stateOf, found, Option.map_some, crashed]
  have provider : agent.provider = old.provider := by
    have same : agent.origin = old.origin := by simpa [found, found'] using h.origin
    exact congrArg Prod.snd same
  have spec : queryAgentSpawnSpecSync db' b = queryAgentSpawnSpecSync db b := by
    rw [queryAgentSpawnSpecSync, queryAgentSpawnSpecSync, h.spec]
  rw [queryAgentRecoveryIntentSync_congr h.intent]
  exact r old found' crashed' (provider ▸ eligible) (spec ▸ specced)

theorem Steady.leaves (h : Steady b db db') : Leaves b db db' :=
  ⟨⟨h.origin, h.backoff, h.spec, h.toKept.recoverable⟩, h.sessions⟩

theorem Db.recoverable_of
    (h : db.stateOf b = some .crashed → (queryAgentRecoveryIntentSync db b).isSome = true) :
    db.Recoverable b := by
  intro agent found crashed _ _
  refine h ?_
  rw [Db.stateOf, found, Option.map_some, crashed]

/-- The tables that have what recovery reads of an agent. -/
def Db.agentTables (db : Db) : Table String Agent × Table String AgentSpawnSpecRow ×
    Table String AgentRecoveryIntentRow × Table String Session :=
  (db.agents, db.agentSpawnSpecs, db.agentRecoveryIntents, db.sessions)

/-- An update of a row that recovery does not see. -/
structure Agent.Calm (f : Agent → Agent) : Prop where
  origin : ∀ agent, (f agent).origin = agent.origin
  crashed : ∀ agent, (f agent).state = .crashed → agent.state = .crashed
  backoff : ∀ agent, (f agent).backoff = agent.backoff

namespace Agent

theorem EntersAt.origin (h : EntersAt f t now) (agent : Agent) :
    (f agent).origin = agent.origin ∧ (f agent).backoff = agent.backoff := by
  obtain ⟨sub, code, exit, same⟩ := h agent
  rw [same]
  exact ⟨rfl, rfl⟩

theorem EntersAt.calm (h : EntersAt f t now) (up : t ≠ .crashed) : Calm f where
  origin agent := (h.origin agent).1
  crashed agent crashed := absurd ((h.enters agent).1.symm.trans crashed) up
  backoff agent := (h.origin agent).2

theorem calm_enter (up : t ≠ .crashed) (now : Int) : Calm (·.enter t now) :=
  EntersAt.calm (fun _ => ⟨_, _, _, rfl⟩) up

theorem Calm.ite (calm : Calm f) (p : Agent → Bool) :
    Calm fun agent => if p agent then f agent else agent := by
  constructor <;> intro agent <;> split_ifs
  · exact calm.origin agent
  · rfl
  · exact calm.crashed agent
  · exact id
  · exact calm.backoff agent
  · rfl

theorem calm_restoreIdle (states : List AgentState) (now : Int) : Calm (restoreIdle states now) :=
  (calm_enter (by decide) now).ite (states.contains ·.state)

end Agent

namespace Steady

variable {b a : String} {db db' : Db}

theorem refl (b : String) (db : Db) : Steady b db db := ⟨⟨rfl, id, rfl, rfl⟩, rfl, rfl⟩

theorem trans (h : Steady b db db₁) (h' : Steady b db₁ db') : Steady b db db' where
  origin := h'.origin.trans h.origin
  crashed := h.crashed ∘ h'.crashed
  spec := h'.spec.trans h.spec
  intent := h'.intent.trans h.intent
  backoff := h'.backoff.trans h.backoff
  sessions := h'.sessions.trans h.sessions

theorem of_tables (h : db'.agentTables = db.agentTables) : Steady b db db' := by
  obtain ⟨agents, specs, intents, sessions⟩ : db'.agents = db.agents ∧
      db'.agentSpawnSpecs = db.agentSpawnSpecs ∧
      db'.agentRecoveryIntents = db.agentRecoveryIntents ∧ db'.sessions = db.sessions := by
    simpa [Db.agentTables] using h
  exact ⟨⟨by rw [agents], by rw [Db.stateOf, Db.stateOf, agents]; exact id, by rw [specs],
    by rw [intents]⟩, by rw [agents], sessions⟩

theorem of_row (calm : Agent.Calm f) (row : db'.agents.get? b = (db.agents.get? b).map f)
    (specs : db'.agentSpawnSpecs = db.agentSpawnSpecs)
    (intents : db'.agentRecoveryIntents = db.agentRecoveryIntents)
    (sessions : db'.sessions = db.sessions) : Steady b db db' := by
  refine ⟨⟨?_, ?_, by rw [specs], by rw [intents]⟩, ?_, sessions⟩
  · simp [row, Function.comp_def, calm.origin]
  · cases found : db.agents.get? b with
    | none => simp [Db.stateOf, row, found]
    | some agent => simpa [Db.stateOf, row, found] using calm.crashed agent
  · simp [row, Function.comp_def, calm.backoff]

theorem of_row_eq (row : db'.agents.get? b = db.agents.get? b)
    (spec : db'.agentSpawnSpecs.get? b = db.agentSpawnSpecs.get? b)
    (intent : db'.agentRecoveryIntents.get? b = db.agentRecoveryIntents.get? b)
    (sessions : db'.sessions = db.sessions) : Steady b db db' :=
  ⟨⟨by rw [row], by rw [Db.stateOf, Db.stateOf, row]; exact id, spec, intent⟩, by rw [row], sessions⟩

theorem modifyAgent_of_ne (other : b ≠ a) : Steady b db (db.modifyAgent a f) :=
  of_row_eq (Table.get?_modify_of_ne _ _ other) rfl rfl rfl

theorem modifyAgent (calm : Agent.Calm f) (b a : String) (db : Db) :
    Steady b db (db.modifyAgent a f) := by
  by_cases e : b = a
  · subst e
    exact of_row calm (Table.get?_modify_self ..) rfl rfl rfl
  · exact modifyAgent_of_ne e

theorem commit {α : Type} {r : Except CcbdError (α × Db)}
    (h : ∀ x db', r = .ok (x, db') → Steady b db db') : Steady b db (Ccbd.commit r db) :=
  commit_induction (.refl _ _) h

theorem of_apart (h : db'.apart a = db.apart a) (other : b ≠ a) : Steady b db db' := by
  have same := congrFun (congrArg Prod.snd h) ⟨b, other⟩
  obtain ⟨row, spec, intent⟩ : db'.agents.get? b = db.agents.get? b ∧
      db'.agentSpawnSpecs.get? b = db.agentSpawnSpecs.get? b ∧
      db'.agentRecoveryIntents.get? b = db.agentRecoveryIntents.get? b := by
    simpa [Db.apart] using same
  exact of_row_eq row spec intent (congrArg Prod.fst h)

end Steady

/-- The step may crash the agent but keeps the rest of what recovery reads. -/
structure Crashes (b : String) (db db' : Db) : Prop where
  origin : (db'.agents.get? b).map Agent.origin = (db.agents.get? b).map Agent.origin
  backoff : (db'.agents.get? b).map Agent.backoff = (db.agents.get? b).map Agent.backoff
  spec : db'.agentSpawnSpecs.get? b = db.agentSpawnSpecs.get? b
  intent : db'.agentRecoveryIntents.get? b = db.agentRecoveryIntents.get? b
  sessions : db'.sessions = db.sessions

theorem Crashes.trans (h : Crashes b db db₁) (h' : Crashes b db₁ db') : Crashes b db db' :=
  ⟨h'.origin.trans h.origin, h'.backoff.trans h.backoff, h'.spec.trans h.spec,
    h'.intent.trans h.intent, h'.sessions.trans h.sessions⟩

theorem Steady.crashes (h : Steady b db db') : Crashes b db db' :=
  ⟨h.origin, h.backoff, h.spec, h.intent, h.sessions⟩

theorem Crashes.modifyAgent (enters : Agent.EntersAt f t now) (b a : String) (db : Db) :
    Crashes b db (db.modifyAgent a f) := by
  by_cases e : b = a
  · subst e
    refine ⟨?_, ?_, rfl, rfl, rfl⟩
    · simp [Function.comp_def, enters.origin]
    · simp [Function.comp_def, enters.origin]
  · exact (Steady.modifyAgent_of_ne e).crashes

/-! ## Turns -/

section Turns

variable {a : String} {d d' : Db}

theorem SideWrite.agentTables (h : SideWrite S d d') (captures : S.captures = false) :
    d'.agentTables = d.agentTables := by
  cases h with
  | intent captured =>
    rw [captures] at captured
    cases captured
  | _ => rfl

theorem SideWrites.agentTables (h : SideWrites S d d') (captures : S.captures = false) :
    d'.agentTables = d.agentTables :=
  h.lift (R := fun d d' => d'.agentTables = d.agentTables) (fun _ => rfl)
    (fun _ _ _ first later => later.trans first) fun _ _ write => write.agentTables captures

/-- Where nothing is captured, a turn that does not crash its agent is steady. -/
theorem Turn.steady (h : Turn S a d d') (captures : S.captures = false) (b : String)
    (up : .crashed ∉ S.targets) : Steady b d d' :=
  h.lift (Steady.refl b) (fun _ _ _ => .trans)
    (fun _ _ write => .of_tables (write.agentTables captures))
    (fun d _ _ _ enters reached _ => .modifyAgent (enters.calm fun e => up (e ▸ reached)) b a d)
    (fun _ _ _ => .of_tables rfl)
    fun d states now => .modifyAgent (Agent.calm_restoreIdle states now) b a d

theorem Turn.steady_of_ne (h : Turn S a d d') (captures : S.captures = false)
    (other : b ≠ a) : Steady b d d' :=
  h.lift (Steady.refl b) (fun _ _ _ => .trans)
    (fun _ _ write => .of_tables (write.agentTables captures))
    (fun _ _ _ _ _ _ _ => .modifyAgent_of_ne other) (fun _ _ _ => .of_tables rfl)
    fun _ _ _ => .modifyAgent_of_ne other

theorem Turn.crashes (h : Turn S a d d') (captures : S.captures = false) (b : String) :
    Crashes b d d' :=
  h.lift (fun d => (Steady.refl b d).crashes) (fun _ _ _ => .trans)
    (fun _ _ write => (Steady.of_tables (write.agentTables captures)).crashes)
    (fun d _ _ _ enters _ _ => .modifyAgent enters b a d)
    (fun _ _ _ => Steady.crashes (.of_tables rfl))
    fun d states now => (Steady.modifyAgent (Agent.calm_restoreIdle states now) b a d).crashes

theorem Turns.crashes (h : Turns S ids d d') (captures : S.captures = false)
    (b : String) : Crashes b d d' ∧ (b ∉ ids → Steady b d d') := by
  induction h with
  | nil d => exact ⟨(Steady.refl b d).crashes, fun _ => .refl b d⟩
  | cons first _ ih =>
    refine ⟨(first.crashes captures b).trans ih.1, fun apart => ?_⟩
    rw [List.mem_cons, not_or] at apart
    exact (first.steady_of_ne captures apart.1).trans (ih.2 apart.2)

theorem StoresIntent.leaves (stored : StoresIntent d a d') (b : String) : Leaves b d d' := by
  by_cases e : b = a
  · subst e
    exact ⟨⟨by rw [stored.agents], by rw [stored.agents], by rw [stored.specs],
      fun _ => Db.recoverable_of fun _ => stored.own⟩, stored.sessions⟩
  · exact (Steady.of_row_eq (by rw [stored.agents]) (by rw [stored.specs]) (stored.others b e)
      stored.sessions).leaves

theorem SideWrite.leaves (h : SideWrite S d d') (b : String) : Leaves b d d' := by
  cases h with
  | intent captures stores => exact stores.leaves b
  | _ => exact Steady.leaves (.of_tables rfl)

theorem Leaves.trans (h : Leaves b d d₁) (h' : Leaves b d₁ d') : Leaves b d d' :=
  ⟨h.toLeavesRow.trans h'.toLeavesRow, h'.sessions.trans h.sessions⟩

/-- Where intents are captured, a crash leaves the agent recoverable. -/
theorem Turn.leaves (h : Turn S a d d') (captures : S.captures = true) (b : String) :
    Leaves b d d' := by
  refine h.lift (fun d => (Steady.refl b d).leaves) (fun _ _ _ => .trans)
    (fun _ _ write => write.leaves b) (fun d f t now enters _ captured => ?_)
    (fun _ _ _ => Steady.leaves (.of_tables rfl))
    fun d states now => (Steady.modifyAgent (Agent.calm_restoreIdle states now) b a d).leaves
  by_cases up : t = .crashed
  · by_cases e : b = a
    · subst e
      have row := Crashes.modifyAgent enters b b d
      have own : (queryAgentRecoveryIntentSync (d.modifyAgent b f) b).isSome = true :=
        captured captures up
      exact ⟨⟨row.origin, row.backoff, row.spec, fun _ => Db.recoverable_of fun _ => own⟩, rfl⟩
    · exact (Steady.modifyAgent_of_ne e).leaves
  · exact (Steady.modifyAgent (enters.calm up) b a d).leaves

end Turns

theorem commit_unit_induction {r : Except CcbdError Db} {P : Db → Prop} (same : P db)
    (done : ∀ db', r = .ok db' → P db') : P (commit (r.map ((), ·)) db) := by
  refine commit_induction same fun _ db' h => ?_
  obtain ⟨db₁, h₁, h₂⟩ := map_eq_ok.mp h
  cases h₂
  exact done db' h₁

theorem requeueCapturedIntent_agentTables (h : requeueCapturedIntent db now intent = .ok (n, db')) :
    db'.agentTables = db.agentTables := by
  have requeued : SideWrites { edges := [(.failed, .queued)] } db db' :=
    requeueCapturedIntent_side (.head _) h
  exact requeued.agentTables rfl

theorem Steady.foldl_killSessionRows (sessionIds : List String) (db : Db) :
    Steady b db (sessionIds.foldl (killSessionRows · · now) db) := by
  induction sessionIds generalizing db with
  | nil => exact .refl _ _
  | cons s rest ih =>
    refine Steady.trans ?_ (ih (killSessionRows db s now))
    refine of_row (f := fun agent =>
      if agent.sessionId = s && agent.state.isUp then agent.enter .killed now else agent)
      ?_ (by simp [killSessionRows]) rfl rfl rfl
    exact (Agent.calm_enter (by decide) now).ite _

/-! ## Operations on whole rows -/

namespace Db

variable {db db' : Db} {a : String}

theorem apart_eq (sessions : db'.sessions = db.sessions)
    (agents : ∀ b, b ≠ a → db'.agents.get? b = db.agents.get? b)
    (specs : ∀ b, b ≠ a → db'.agentSpawnSpecs.get? b = db.agentSpawnSpecs.get? b)
    (intents : ∀ b, b ≠ a → db'.agentRecoveryIntents.get? b = db.agentRecoveryIntents.get? b) :
    db'.apart a = db.apart a := by
  refine Prod.ext sessions (funext fun ⟨b, other⟩ => ?_)
  simp [apart, agents b other, specs b other, intents b other]

theorem apart_of_agentTables (h : db'.agentTables = db.agentTables) : db'.apart a = db.apart a := by
  simp only [agentTables, Prod.mk.injEq] at h
  obtain ⟨agents, specs, intents, sessions⟩ := h
  exact apart_eq sessions (fun b _ => by rw [agents]) (fun b _ => by rw [specs])
    (fun b _ => by rw [intents])

theorem apart_modifyAgent (db : Db) (a : String) (f : Agent → Agent) :
    (db.modifyAgent a f).apart a = db.apart a :=
  apart_eq rfl (fun _ other => Table.get?_modify_of_ne _ _ other) (fun _ _ => rfl) (fun _ _ => rfl)

theorem apart_cascadeAgent (db : Db) (a : String) : (db.cascadeAgent a).apart a = db.apart a :=
  apart_eq rfl (fun _ other => (Table.get?_delete ..).trans (if_neg other))
    (fun _ other => (Table.get?_delete ..).trans (if_neg other))
    (fun _ other => (Table.get?_delete ..).trans (if_neg other))

theorem apart_deleteAgent (h : db.deleteAgent a context = .ok db') : db'.apart a = db.apart a := by
  obtain ⟨-, rfl⟩ | rfl := deleteAgent_ok h
  · rfl
  · exact apart_cascadeAgent db a

theorem apart_insertAgentRow (absent : db.agents.get? a = none) (s p : String) (state : AgentState)
    (pid : Option Int) (now : Int) : (insertAgentRow db a s p state pid now).apart a = db.apart a :=
  apart_eq rfl (fun _ other => (Table.get?_insert absent ..).trans (if_neg other)) (fun _ _ => rfl)
    (fun _ _ => rfl)

theorem apart_insertAgentSync (db : Db) (a s p : String) (state : AgentState) (pid : Option Int)
    (now : Int) : (insertAgentSync db a s p state pid now).2.apart a = db.apart a := by
  rcases insertAgentSync_rows db a s p state pid now with
    ⟨e, same⟩ | ⟨db₁, deleted, ⟨e, same⟩ | written⟩
  · rw [same]
  · rw [same, apart_deleteAgent deleted]
  · rw [written, apart_insertAgentRow (absent_of_deleteAgent deleted), apart_deleteAgent deleted]

theorem apart_persistAgentSpawnSpecSync {hash : String}
    (h : persistAgentSpawnSpecSync db spec hash now = .ok db') :
    db'.apart spec.agentId = db.apart spec.agentId := by
  obtain ⟨version, rfl⟩ := persistAgentSpawnSpecSync_ok h
  exact apart_eq rfl (fun _ _ => rfl) (fun _ other => (Table.get?_upsert ..).trans (if_neg other))
    (fun _ _ => rfl)

theorem apart_clearRecoveryBackoffSync (db : Db) (a : String) (now : Int) :
    (clearRecoveryBackoffSync db a now).apart a = db.apart a :=
  (apart_modifyAgent ..).trans (apart_modifyAgent ..)

theorem apart_replaceKilledAgent {s hash : String}
    (h : replaceKilledAgentAndRequeueJobSync db s spec hash pid intent now = .ok (n, db')) :
    db'.apart spec.agentId = db.apart spec.agentId := by
  unfold replaceKilledAgentAndRequeueJobSync at h
  split_ifs at h
  obtain ⟨db₁, deleted, h⟩ := bind_eq_ok.mp h
  obtain ⟨_, -, h⟩ := bind_eq_ok.mp h
  obtain ⟨db₂, stored, requeued⟩ := bind_eq_ok.mp h
  calc db'.apart spec.agentId
    _ = db₂.apart spec.agentId := (apart_of_agentTables
        (requeueCapturedIntent_agentTables requeued)).trans (apart_clearRecoveryBackoffSync ..)
    _ = db₁.apart spec.agentId := (apart_persistAgentSpawnSpecSync stored).trans
        ((apart_modifyAgent ..).trans (apart_insertAgentSync ..))
    _ = db.apart spec.agentId := apart_deleteAgent deleted

theorem restoreKilledWorker_cases (db : Db) (s : String) (stored : StoredAgentSpawnSpec)
    (now : Int) : ∃ db₁,
      (db₁ = db ∨ db.agents.get? stored.spec.agentId = none ∧ db₁ = insertAgentRow db
        stored.spec.agentId s stored.spec.provider .killed none now) ∧
      ((restoreKilledWorkerSpawnSpec db s stored now).2 = db₁ ∨
        persistAgentSpawnSpecSync db₁ stored.spec stored.configHash now =
          .ok (restoreKilledWorkerSpawnSpec db s stored now).2) := by
  unfold restoreKilledWorkerSpawnSpec
  cases found : db.agents.get? stored.spec.agentId with
  | none =>
    simp only [Option.isNone_none, ↓reduceIte]
    rcases insertAgentSync_of_absent found s stored.spec.provider .killed none now with
      ⟨e, failed⟩ | done
    · exact ⟨db, .inl rfl, .inl (by rw [failed])⟩
    · refine ⟨_, .inr ⟨trivial, rfl⟩, ?_⟩
      rw [done]
      dsimp only
      split
      · exact .inl rfl
      · exact .inr ‹_›
  | some agent =>
    refine ⟨db, .inl rfl, ?_⟩
    simp only [Option.isNone_some, Bool.false_eq_true, ↓reduceIte]
    split
    · exact .inl rfl
    · exact .inr ‹_›

theorem apart_restoreKilledWorker (db : Db) (s : String) (stored : StoredAgentSpawnSpec)
    (now : Int) : (restoreKilledWorkerSpawnSpec db s stored now).2.apart stored.spec.agentId =
      db.apart stored.spec.agentId := by
  obtain ⟨db₁, row, spec⟩ := restoreKilledWorker_cases db s stored now
  have inserted : db₁.apart stored.spec.agentId = db.apart stored.spec.agentId := by
    rcases row with rfl | ⟨absent, rfl⟩
    · rfl
    · exact apart_insertAgentRow absent ..
  rcases spec with same | persisted
  · rw [same, inserted]
  · exact (apart_persistAgentSpawnSpecSync persisted).trans inserted

end Db

theorem insertLearnedRuleSync_agentTables
    (h : insertLearnedRuleSync db replaced ruleId rule = .ok db') :
    db'.agentTables = db.agentTables := by
  unfold insertLearnedRuleSync at h
  split_ifs at h
  cases h
  rfl

theorem Steady.updateAgentConfigHashSync (b : String) (db : Db) (agentId hash : String)
    (now : Int) : Steady b db (Ccbd.updateAgentConfigHashSync db agentId hash now) := by
  have calm : Agent.Calm ({ · with configHash := some hash, updatedAt := now } : Agent → Agent) :=
    ⟨fun _ => rfl, fun _ => id, fun _ => rfl⟩
  exact .modifyAgent calm b agentId db

/-- The agent whose row the operation inserts or deletes. -/
def DaemonOp.rowOf : DaemonOp → Option String
  | insertAgent a .. | deleteAgent a => some a
  | replaceKilledAgent _ spec .. => some spec.agentId
  | _ => none

theorem DaemonOp.apart_apply {op : DaemonOp} (h : op.rowOf = some a) (d : Db) :
    (op.apply d).apart a = d.apart a := by
  cases op with
  | insertAgent =>
    cases h
    exact Db.apart_insertAgentSync ..
  | deleteAgent =>
    cases h
    exact commit_unit_induction (P := fun d' => d'.apart a = d.apart a) rfl
      fun _ => Db.apart_deleteAgent
  | replaceKilledAgent s spec =>
    cases h
    exact commit_induction (P := fun d' => d'.apart spec.agentId = d.apart spec.agentId) rfl
      fun _ _ => Db.apart_replaceKilledAgent
  | _ => cases h

/-! ## Startup -/

section Startup

variable {b : String} {db db' : Db}

/-- The reconciliation finds the agent alive: its process runs, and its pipe can be opened if
there is a state directory. -/
def StartupProbe.finds (probe : StartupProbe) (agentId : String) (agent : Agent) : Bool :=
  agent.pid.any probe.pidAlive && (!probe.hasStateDir || probe.fifoReattaches agentId)

theorem mem_startupReconcilePhaseBDead
    (h : crash ∈ startupReconcilePhaseBDead probe (startupReconcilePhaseASelectCandidates db)) :
    ∃ agent, db.agents.get? crash.agentId = some agent ∧
      isStartupCandidate agent.state = true ∧ probe.finds crash.agentId agent = false := by
  have candidate : ∀ {r : String × Agent}, r ∈ startupReconcilePhaseASelectCandidates db →
      db.agents.get? r.1 = some r.2 ∧ isStartupCandidate r.2.state = true :=
    fun inside => Table.mem_select.mp inside
  rcases List.mem_append.mp h with dead | unpiped
  · obtain ⟨r, inside, rfl⟩ := List.mem_map.mp dead
    obtain ⟨inside, gone⟩ := List.mem_filter.mp inside
    have dead : r.2.pid.any probe.pidAlive = false := by simpa using gone
    exact ⟨r.2, (candidate inside).1, (candidate inside).2, by
      rw [StartupProbe.finds, dead, Bool.false_and]⟩
  · obtain ⟨r, inside, rfl⟩ := List.mem_map.mp unpiped
    obtain ⟨inside, gone⟩ := List.mem_filter.mp inside
    simp only [Bool.and_eq_true, Bool.not_eq_true'] at gone
    exact ⟨r.2, (candidate inside).1, (candidate inside).2, by
      simp [StartupProbe.finds, gone.1.2, gone.2]⟩

/-- The startup keeps all but the state of an agent, and the state too if it finds the agent
alive. -/
theorem reconcileStartup_crashes (probe : StartupProbe) (now : Int) (db : Db) (b : String) :
    Crashes b db ((DaemonOp.reconcileStartup probe now).apply db) ∧
      ((∀ agent, db.agents.get? b = some agent → isStartupCandidate agent.state = true →
        probe.finds b agent = true) → Steady b db ((DaemonOp.reconcileStartup probe now).apply db)) := by
  refine commit_induction (P := fun db' => Crashes b db db' ∧ (_ → Steady b db db'))
    ⟨(Steady.refl b db).crashes, fun _ => .refl b db⟩ fun n db' h => ?_
  obtain ⟨crashes, steady⟩ := (reconcileActiveAgentsToCrashedSync_turns h).crashes rfl b
  refine ⟨crashes, fun alive => steady fun dead => ?_⟩
  obtain ⟨crash, inside, rfl⟩ := List.mem_map.mp dead
  obtain ⟨agent, found, candidate, dead⟩ := mem_startupReconcilePhaseBDead inside
  rw [alive agent found candidate] at dead
  cases dead

end Startup

/-- The operations that write rows of `sessions`. -/
def DaemonOp.writesSessions : DaemonOp → Bool
  | shutdown _ | writeSession .. => true
  | _ => false

/-- The operations that neither make nor delete rows leave every agent its backoff and its
spec; only the startup may crash an agent without an intent. -/
theorem DaemonOp.leaves {op : DaemonOp} (loop : op.ofRecovery = false) (row : op.rowOf = none)
    (d : Db) (b : String) :
    (∃ probe now, op = .reconcileStartup probe now) ∨
      LeavesRow b d (op.apply d) ∧ (op.writesSessions = false → (op.apply d).sessions = d.sessions) := by
  have leaves {d' : Db} {p : Prop} (h : Leaves b d d') :
      LeavesRow b d d' ∧ (p → d'.sessions = d.sessions) := ⟨h.toLeavesRow, fun _ => h.sessions⟩
  have steady {α : Type} {r : Except CcbdError (α × Db)} {p : Prop}
      (h : ∀ x d', r = .ok (x, d') → Steady b d d') :
      LeavesRow b d (commit r d) ∧ (p → (commit r d).sessions = d.sessions) :=
    leaves (Steady.commit h).leaves
  have alert {p : Prop} (a : String) (payload : Json) (now : Int) :
      LeavesRow b d (insertAlert d a payload now) ∧
        (p → (insertAlert d a payload now).sessions = d.sessions) := by
    refine steady fun _ d' h => ?_
    obtain ⟨events, rfl⟩ := insertEventSync_ok h
    exact .of_tables rfl
  have written (sessions : Table String Session) : LeavesRow b d { d with sessions := sessions } :=
    ⟨rfl, rfl, rfl, id⟩
  have turn {S : Scope} {p : Prop} (h : op.scope? = some S) (captures : S.captures = false)
      (up : .crashed ∉ S.targets) :
      LeavesRow b d (op.apply d) ∧ (p → (op.apply d).sessions = d.sessions) := by
    obtain ⟨a, turn⟩ := DaemonOp.turn h d
    exact leaves (turn.steady captures b up).leaves
  cases op with
  | db op =>
    obtain ⟨a, turn⟩ := op.turn d
    exact .inr (leaves (turn.leaves rfl b))
  | seedProbe | learnedReadiness | spawningIntervention | resolvePrompt | unparkPrompt
  | promptPendingEmitUnknown | recordEvidence | discardEvidence =>
    exact .inr (turn rfl rfl (by simp))
  | shutdown now =>
    have killed (d' : Db) : Steady b d' (((d.sessions.select fun _ s =>
        s.status = "ACTIVE").map Prod.fst).foldl (killSessionRows · · now) d') :=
      Steady.foldl_killSessionRows _ d'
    exact .inr ⟨(written _).trans (killed _).leaves.toLeavesRow,
      fun kept => Bool.noConfusion kept⟩
  | cleanTerminalSession =>
    refine .inr (steady fun _ d' h => ?_)
    exact (killTerminalAgents_turns h).lift (Steady.refl b) (fun _ _ _ => .trans)
      fun _ _ _ turn => turn.steady rfl b (by simp [Scope.kills])
  | reconcileStartup probe now => exact .inl ⟨probe, now, rfl⟩
  | claimRecovery | restoreCrashedRow | restoreCrashedState => cases loop
  | insertAgent | deleteAgent | replaceKilledAgent => cases row
  | stoppedUndeclaredAlert | healthStuckReport | queuedStarvationAlert | suppressionEscalated
  | paneDiffStuckAlert | uiRecaptureAlert =>
    exact .inr (alert _ _ _)
  | writeSession s session => exact .inr ⟨written _, fun kept => Bool.noConfusion kept⟩

/-! ## The respawn of the daemon -/

section Respawn

variable {a : String}

theorem apart_persistRealignSnapshot (agent : RealignAgentParams) (hash : String)
    (configEnv : Table String String) (now : Int) :
    Keeps (Db.apart agent.agentId) (persistRealignSnapshotAfterSuccess agent hash configEnv now) :=
  .bind (keeps_atomically fun _ _ => Db.apart_persistAgentSpawnSpecSync) fun _ =>
    .modify fun db => Db.apart_clearRecoveryBackoffSync db agent.agentId now

theorem apart_recordSpawn (sessionId : String) (spec : AgentSpawnSpec) (hash : String)
    (pid now : Int) :
    Keeps (Db.apart spec.agentId) (recordSpawn sessionId spec hash pid now .insertDefault) :=
  .bind (.ofStep fun db => Db.apart_insertAgentSync db ..) fun _ =>
    .bind (.modify fun db => Db.apart_modifyAgent db ..) fun _ =>
      .bind (.attempt (keeps_atomically fun _ _ => Db.apart_persistAgentSpawnSpecSync))
        fun _ => .pure _

theorem apart_spawnRealignAgent (env : SpawnEnv) (sessionId : String) (agent : RealignAgentParams)
    (hash : String) (configEnv : Table String String) (ans : SpawnAnswers) :
    Keeps (Db.apart agent.agentId)
      (spawnRealignAgent env sessionId agent hash true true configEnv none ans) := by
  have spawned : Keeps (Db.apart agent.agentId) (handleAgentSpawnWithDbAction env
      (agent.spawnParams sessionId configEnv) .insertDefault ans) := by
    refine .bind (.atomic fun db _ db' prepared => ?_) fun r =>
      .bind (apart_recordSpawn _ (spawnSpec _ r.1) _ _ _) fun _ => .pure _
    obtain ⟨_, _, same⟩ := map_eq_ok.mp prepared
    cases same
    rfl
  exact .bind spawned fun _ => .bind (apart_persistRealignSnapshot _ _ _ _) fun _ =>
    .bind (keeps_insertEvent (fun _ _ => rfl) _ _ _ _) fun _ =>
      keeps_insertEvent (fun _ _ => rfl) _ _ _ _

end Respawn

/-- `spawn_realign_agent_for_recovery`, with the answers of the machine. -/
def Respawn.ofDaemon (env : SpawnEnv) (ans : SpawnAnswers) : Respawn where
  run := (spawnRealignAgentForRecovery env ans).run
  effect sessionId agent hash db := by
    refine ((apart_spawnRealignAgent env sessionId agent hash .empty ans db).and
      (ends_spawnRealignAgent env sessionId agent hash true true .empty ans db)).mono ?_
    rintro (_ | _) db' ⟨others, ends⟩
    · exact ⟨others, .inl ends⟩
    · refine ⟨others, .inr fun row found crashed => ?_⟩
      obtain ⟨row', found', _, _, _, _, _, _, spawned⟩ := Spawned.row ends
      rw [found'] at found
      cases found
      exact absurd (spawned.1.symm.trans crashed) (by decide)

end Ccbd
