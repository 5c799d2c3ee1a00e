import Ccbd.Audit.Accounts

/-!
# What the operations do to the accounts

An operation that meets `DaemonOp.Audits` does to every account one of the things in
`Account.Change`. One that does not changes a state without an event, or stores an alert
that tells another state.
-/

namespace Ccbd

open Lib

/-! ## The operations on running agents -/

/-- The agent a requeue puts back to IDLE: it requeues the job, and the agent is in one of
the states. -/
def Db.restored? (db : Db) (jobId agentId : String) (requeues : Job → Bool)
    (states : List AgentState) : Option String :=
  if (db.jobs.get? jobId).any requeues &&
      (db.agents.get? agentId).any (states.contains ·.state) then some agentId
  else none

/-- The agent whose state the operation changes without an event. -/
def DbOp.restores? (db : Db) : DbOp → Option String
  | requeueIoFailure j a _ _ _ =>
    db.restored? j a (fun job => job.status = .dispatched && job.agentId = a &&
      job.errorReason.any isRecoveryRequeued) [.waitingForAck, .stuck]
  | requeueBeforeSend j a _ _ =>
    db.restored? j a (fun job => job.status = .dispatched && job.agentId = a) [.waitingForAck]
  | _ => none

variable {agent : Agent} {d : Db} {op : DbOp} {replaced : Prop} {b context : String}

namespace Account

/-- The account of an agent that a requeue put back to IDLE. -/
def restored (x : Account) : Account :=
  { x with row := x.row.map fun r => (.idle, r.2 + 1) }

section Requeues

variable {db db₁ db' : Db} {jobId agentId reason : String} {now : Int}

theorem restored?_eq_some :
    db.restored? jobId agentId requeues states = some b ↔ (db.jobs.get? jobId).any requeues = true ∧
      b = agentId ∧ (db.agents.get? agentId).any (states.contains ·.state) = true := by
  unfold Db.restored?
  rw [Option.ite_none_right_eq_some, Bool.and_eq_true, Option.some.injEq]
  tauto

theorem account_restoreIdle (quiet : Quiet db db₁) (states : List AgentState) (p : Json)
    (now : Int) (b : String) :
    ((db₁.modifyAgent agentId (restoreIdle states now)).appendEvent agentId "dispatch_requeued" p
      now).account b =
      if b = agentId ∧ (db.agents.get? agentId).any (states.contains ·.state) = true then
        (db.account b).restored
      else db.account b := by
  rw [(Quiet.appendEvent _ _ (by decide) _ _).account]
  by_cases e : b = agentId
  · subst e
    have changes : (db₁.modifyAgent b (restoreIdle states now)).stateChanges b =
        db.stateChanges b := quiet.changes b
    have row : (db₁.modifyAgent b (restoreIdle states now)).agents.get? b =
        (db.agents.get? b).map (restoreIdle states now) := by simp [quiet.agents]
    simp only [Db.account, changes, row]
    cases found : db.agents.get? b with
    | none => rfl
    | some agent =>
      by_cases inside : agent.state ∈ states
      · simp [inside, restoreIdle, restored, Agent.enter]
      · simp [inside, restoreIdle]
  · rw [account_modifyAgent_of_ne e, quiet.account, if_neg fun h => e h.1]

theorem requeue_account (found : db.jobs.get? jobId = some job) {requeues : Prop}
    [Decidable requeues] (dispatched : requeues → job.status = .dispatched) (e : Option String)
    (states : List AgentState) (p : Json) (b : String) :
    (commit (if requeues then do
        let db₁ ← requeueJobStateConnSync db jobId .dispatched e reason now
        return (1, (db₁.modifyAgent agentId (restoreIdle states now)).appendEvent agentId
          "dispatch_requeued" p now)
      else .ok (0, db)) db).account b =
      if requeues ∧ b = agentId ∧ (db.agents.get? agentId).any (states.contains ·.state) = true then
        (db.account b).restored
      else db.account b := by
  by_cases h : requeues
  · obtain ⟨db₁, h₁⟩ := requeueJobStateConnSync_succeeds found (dispatched h) (by decide) e reason now
    simp only [h₁, h, true_and]
    have requeued : SideWrites { edges := [(.dispatched, .queued)] } db db₁ :=
      requeueJobStateConnSync_side (.head _) h₁
    exact account_restoreIdle requeued.quiet states p now b
  · rw [if_neg h, if_neg fun both => h both.1]
    rfl

theorem requeueIoFailure_account (attempt : Nat) (b : String) :
    ((DbOp.requeueIoFailure jobId agentId attempt reason now).apply db).account b =
      if (DbOp.requeueIoFailure jobId agentId attempt reason now).restores? db = some b then
        (db.account b).restored
      else db.account b := by
  simp only [DbOp.restores?, restored?_eq_some, DbOp.apply, requeueRecoveredDispatchIoFailureSync]
  cases found : db.jobs.get? jobId with
  | none => simp [commit]
  | some job =>
    refine (requeue_account found And.left _ _ _ b).trans ?_
    simp [and_assoc]

theorem requeueBeforeSend_account (b : String) :
    ((DbOp.requeueBeforeSend jobId agentId reason now).apply db).account b =
      if (DbOp.requeueBeforeSend jobId agentId reason now).restores? db = some b then
        (db.account b).restored
      else db.account b := by
  simp only [DbOp.restores?, restored?_eq_some, DbOp.apply, requeueDispatchedJobBeforeSendSync]
  cases found : db.jobs.get? jobId with
  | none => simp [commit]
  | some job =>
    refine (requeue_account found And.left _ _ _ b).trans ?_
    simp

end Requeues

/-- Every operation on running agents but the two requeues. -/
theorem step_of_dbOp (h : op.restores? db = none) (b : String) :
    Step op.targets (db.account b) ((op.apply db).account b) := by
  obtain ⟨a, turn⟩ := op.turn db
  cases op with
  | requeueIoFailure =>
    rw [requeueIoFailure_account, h, if_neg (by simp)]
    exact .keep _
  | requeueBeforeSend =>
    rw [requeueBeforeSend_account, h, if_neg (by simp)]
    exact .keep _
  | _ => exact turn.step rfl b

theorem restores?_state (h : op.restores? db = some a) :
    ∃ agent, db.agents.get? a = some agent ∧ agent.state ≠ .idle := by
  have away : ∀ {states : List AgentState}, AgentState.idle ∉ states →
      (db.agents.get? a).any (states.contains ·.state) = true →
      ∃ agent, db.agents.get? a = some agent ∧ agent.state ≠ .idle := by
    intro states notIdle inside
    obtain ⟨agent, found, state⟩ := Option.any_eq_true _ _ |>.mp inside
    exact ⟨agent, found, fun e => notIdle (e ▸ List.contains_iff_mem.mp state)⟩
  cases op with
  | requeueIoFailure | requeueBeforeSend =>
    obtain ⟨-, rfl, inside⟩ := restored?_eq_some.mp h
    exact away (by simp) inside
  | _ => cases h

/-- A requeue that puts its agent back to IDLE writes the row and no event. -/
theorem account_requeue (h : op.restores? db = some a) (b : String) :
    (op.apply db).account b = if a = b then (db.account b).restored else db.account b := by
  cases op with
  | requeueIoFailure => simp [requeueIoFailure_account, h]
  | requeueBeforeSend => simp [requeueBeforeSend_account, h]
  | _ => cases h

end Account

/-! ## Single agents outside the state machine -/

namespace Account

section Transitions

variable {db db' : Db} {agentId : String} {now : Int}

theorem tryClaimAgentRecoverySync_step (db : Db) (agentId : String) (version nowTs now : Int)
    (b : String) : Step [] (db.account b)
      ((tryClaimAgentRecoverySync db agentId version nowTs now).2.account b) := by
  unfold tryClaimAgentRecoverySync
  dsimp only
  split_ifs
  · by_cases e : b = agentId
    · subst e
      cases found : db.agents.get? b with
      | none =>
        have same : (db.modifyAgent b (·.claim now)).account b = db.account b := by
          simp [Db.account, found, Db.stateChanges]
        rw [same]
        exact .keep _
      | some agent =>
        have claimed : (db.modifyAgent b (·.claim now)).account b =
            ⟨some (agent.state, agent.stateVersion + 1), db.stateChanges b⟩ := by
          simp [Db.account, found, Agent.claim, Db.stateChanges]
        rw [claimed, Db.account_row found]
        exact .bump _ _ _
    · rw [account_modifyAgent_of_ne e]
      exact .keep _
  · exact .keep _

theorem restoreCrashedRecoveryState_account (found : db.agents.get? agentId = some agent)
    (now : Int) :
    (restoreCrashedRecoveryState db agentId now).account agentId =
      ⟨some (.crashed, agent.stateVersion + 1), db.stateChanges agentId⟩ :=
  account_modifyAgent_self found fun _ => ⟨rfl, rfl⟩

end Transitions

end Account

/-! ## Whole sessions -/

/-- The shutdown reaches the agent: it is up and its session is ACTIVE. -/
def Db.shutsDown (db : Db) (agent : Agent) : Bool :=
  agent.state.isUp && (db.sessions.get? agent.sessionId).any (·.status = "ACTIVE")

theorem get?_foldl_killSessionRows (now : Int) (sessionIds : List String) (db : Db) (a : String) :
    (sessionIds.foldl (killSessionRows · · now) db).agents.get? a =
      (db.agents.get? a).map fun agent =>
        if agent.sessionId ∈ sessionIds ∧ agent.state.isUp = true then agent.enter .killed now
        else agent := by
  induction sessionIds generalizing db with
  | nil => simp
  | cons s rest ih =>
    rw [List.foldl_cons, ih]
    simp only [killSessionRows, Table.get?_updateWhere, Option.map_map]
    congr 1
    funext agent
    -- an agent that the first session put down is not up for the others
    have down : AgentState.killed.isUp = false := rfl
    by_cases first : agent.sessionId = s
    · by_cases up : agent.state.isUp = true <;> simp [first, up, down]
    · simp [first]

theorem get?_shutdown (db : Db) (now : Int) (a : String) :
    (commit (markAllSessionsIntentionalShutdown db now) db).agents.get? a =
      (db.agents.get? a).map fun agent =>
        if db.shutsDown agent = true then agent.enter .killed now else agent := by
  have active : ∀ s, s ∈ (db.sessions.select fun _ s => s.status = "ACTIVE").map Prod.fst ↔
      (db.sessions.get? s).any (·.status = "ACTIVE") = true := by
    intro s
    simp only [List.mem_map, Prod.exists, exists_and_right, exists_eq_right, Table.mem_select]
    cases db.sessions.get? s <;> simp
  refine (get?_foldl_killSessionRows now _ _ a).trans ?_
  congr 1
  simp [active, Db.shutsDown, and_comm]

namespace Account

theorem stateChanges_shutdown (db : Db) (now : Int) (a : String) :
    ((DaemonOp.shutdown now).apply db).stateChanges a = db.stateChanges a := by
  obtain ⟨sessions, agents, same⟩ := shutdown_tables db now
  rw [same]
  rfl

theorem shutdown_account (db : Db) (now : Int) (found : db.agents.get? a = some agent) :
    (commit (markAllSessionsIntentionalShutdown db now) db).account a =
      if db.shutsDown agent = true then
        ⟨some (.killed, agent.stateVersion + 1), db.stateChanges a⟩
      else db.account a := by
  have changes : (commit (markAllSessionsIntentionalShutdown db now) db).stateChanges a =
      db.stateChanges a := stateChanges_shutdown db now a
  simp only [Db.account, get?_shutdown, changes, found, Option.map_some]
  split_ifs <;> rfl

end Account

/-! ## Rows that come and go -/

namespace Account

/-- No event outlives the row of its agent. -/
def Owned (x : Account) : Prop := x.row = none → x.changes = []

/-- What an operation that keeps the audit may do to an account; `replaced` says that it
writes a new row for the agent. -/
inductive Change (replaced : Prop) : Account → Account → Prop
  | step {targets : List AgentState} {x x' : Account} (h : Step targets x x') :
      Change replaced x x'
  | note {s : AgentState} {p : Json} (v : Int) (cs : List Json)
      (tells : p.strField? "to" = some s.asDbStr) :
      Change replaced ⟨some (s, v), cs⟩ ⟨some (s, v), cs ++ [p]⟩
  | close (x : Account) : Change replaced x ⟨none, []⟩
  | start (s : AgentState) (v : Int) (cs : List Json) :
      Change replaced ⟨none, cs⟩ ⟨some (s, v), cs⟩
  | replace (x : Account) (s : AgentState) (v : Int) (h : replaced) :
      Change replaced x ⟨some (s, v), []⟩

theorem Change.keep (h : x' = x) : Change replaced x x' := by
  subst h
  exact .step (@Step.keep [] _)

section Rows

variable {db db' : Db} {a : String}

theorem account_absent (absent : db.agents.get? a = none) :
    db.account a = ⟨none, db.stateChanges a⟩ := by
  simp [Db.account, absent]

theorem stateChanges_cascadeAgent (db : Db) (a b : String) :
    (db.cascadeAgent a).stateChanges b = if b = a then [] else db.stateChanges b := by
  unfold Db.stateChanges Db.cascadeAgent AutoTable.deleteWhere AutoTable.select
  rw [List.filter_filter]
  split_ifs with e
  · subst e
    rw [List.map_eq_nil_iff, List.filter_eq_nil_iff]
    simp +contextual
  · congr 1
    refine List.filter_congr fun r _ => ?_
    by_cases owner : r.2.agentId = b
    · simp [owner, e]
    · simp [owner]

theorem deleteAgent_account (owned : (db.account a).Owned) (h : db.deleteAgent a context = .ok db')
    (b : String) : db'.account b = if b = a then ⟨none, []⟩ else db.account b := by
  obtain ⟨absent, rfl⟩ | rfl := Db.deleteAgent_ok h
  · split_ifs with e
    · subst e
      have gone := account_absent absent
      have empty : db'.stateChanges b = [] := by
        rw [gone] at owned
        exact owned rfl
      rw [gone, empty]
    · rfl
  · simp only [Db.account, stateChanges_cascadeAgent, Db.get?_cascadeAgent_agents]
    split_ifs <;> rfl

theorem account_newRow_of_ne {P : Agent → Prop} (new : NewRow db a P db') (h : b ≠ a) :
    db'.account b = db.account b := by
  simp [Db.account, new.others b h, Db.stateChanges, new.events]

theorem account_newRow {P : Agent → Prop} (new : NewRow db a P db') :
    ∃ agent : Agent,
      db'.account a = ⟨some (agent.state, agent.stateVersion), db.stateChanges a⟩ := by
  obtain ⟨agent, found, -⟩ := new.row
  refine ⟨agent, ?_⟩
  simp [Db.account, found, Db.stateChanges, new.events]

theorem change_of_replaced {P : Agent → Prop} (owned : (db.account a).Owned)
    (deleted : db.deleteAgent a context = .ok db₁) (new : NewRow db₁ a P db') (b : String) :
    Change (b = a) (db.account b) (db'.account b) := by
  have accounts := deleteAgent_account owned deleted
  by_cases e : b = a
  · subst e
    obtain ⟨agent, account⟩ := account_newRow new
    have empty : db₁.stateChanges b = [] := by
      have changes := congrArg Account.changes (accounts b)
      simpa [Db.account] using changes
    rw [account, empty]
    exact .replace _ _ _ rfl
  · rw [account_newRow_of_ne new e, accounts, if_neg e]
    exact .keep rfl

theorem insertAgentSync_change (owned : (db.account a).Owned) (s p : String) (state : AgentState)
    (pid : Option Int) (now : Int) (b : String) :
    Change (b = a) (db.account b) ((insertAgentSync db a s p state pid now).2.account b) := by
  rcases insertAgentSync_cases db a s p state pid now with same | ⟨db₁, deleted, same | new⟩
  · rw [same]
    exact .keep rfl
  · rw [same, deleteAgent_account owned deleted]
    split_ifs
    · exact .close _
    · exact .keep rfl
  · exact change_of_replaced owned deleted new b

theorem replaceKilledAgentAndRequeueJobSync_change {sessionId hash : String}
    (owned : (db.account spec.agentId).Owned)
    (h : replaceKilledAgentAndRequeueJobSync db sessionId spec hash pid intent now = .ok (n, db'))
    (b : String) : Change (b = spec.agentId) (db.account b) (db'.account b) := by
  obtain ⟨db₁, db₂, -, deleted, new, requeued⟩ := replaceKilledAgentAndRequeueJobSync_ok h
  have requeued : SideWrites { edges := [(.failed, .queued)] } db₂ db' :=
    requeueCapturedIntent_side (.head _) requeued
  rw [requeued.quiet.account]
  exact change_of_replaced owned deleted new b

theorem restoreCrashedRow_change (db : Db) (a : String) (agent : Agent) (hash : String) (now : Int)
    (b : String) :
    Change False (db.account b) ((restoreCrashedRow a agent hash now db).2.account b) := by
  rcases restoreCrashedRow_cases a agent hash now db with same | new
  · rw [same]
    exact .keep rfl
  by_cases e : b = a
  · subst e
    obtain ⟨row, account⟩ := account_newRow new
    rw [account, account_absent new.absent]
    exact .start _ _ _
  · rw [account_newRow_of_ne new e]
    exact .keep rfl

end Rows

end Account

/-! ## Operations that audit what they change -/

namespace DaemonOp

/-- The operation may write a new row for the agent. -/
def insertsRow : DaemonOp → String → Prop
  | insertAgent a _ _ _ _, b => b = a
  | replaceKilledAgent _ spec _ _ _ _, b => b = spec.agentId
  | _, _ => False

/-- The operation changes no state without an event, and an alert it stores tells the state
the agent is in. -/
def Audits (d : Db) : DaemonOp → Prop
  | db op => op.restores? d = none
  | shutdown _ => ∀ a agent, d.agents.get? a = some agent → d.shutsDown agent = false
  | restoreCrashedState a _ => ∀ agent, d.agents.get? a = some agent → agent.state = .crashed
  | op => ∀ a payload now, op.alert? = some (a, payload, now) →
      ∀ agent, d.agents.get? a = some agent → payload.strField? "to" = some agent.state.asDbStr

end DaemonOp

namespace Account

theorem insertAlert_account (d : Db) (a : String) (p : Json) (now : Int) (b : String) :
    (DaemonOp.insertAlert d a p now).account b =
      if b = a ∧ (d.agents.get? a).isSome = true then
        ⟨(d.account b).row, (d.account b).changes ++ [p]⟩
      else d.account b := by
  unfold DaemonOp.insertAlert insertEventSync
  simp only [Option.bind_none]
  cases found : d.agents.get? a with
  | none => simp [commit]
  | some agent =>
    have appended := d.stateChanges_appendEvent a "state_change" p now b
    simp only [Db.appendEvent] at appended
    simp only [Option.isNone_some, Bool.false_eq_true, if_false, commit, Option.isSome_some,
      Db.account, appended]
    split_ifs <;> rfl

theorem alert_change (tells : ∀ agent, d.agents.get? a = some agent →
      p.strField? "to" = some agent.state.asDbStr) (b : String) :
    Change replaced (d.account b) ((DaemonOp.insertAlert d a p now).account b) := by
  rw [insertAlert_account]
  split_ifs with h
  · obtain ⟨rfl, known⟩ := h
    obtain ⟨agent, found⟩ := Option.isSome_iff_exists.mp known
    rw [Db.account_row found]
    exact .note _ _ (tells agent found)
  · exact .keep rfl

theorem change_of_audits {op : DaemonOp} (owned : ∀ a, (d.account a).Owned) (h : op.Audits d)
    (b : String) : Change (op.insertsRow b) (d.account b) ((op.apply d).account b) := by
  have turn {S : Scope} (h : op.scope? = some S) (told : S.restores = false) :
      Change (op.insertsRow b) (d.account b) ((op.apply d).account b) := by
    obtain ⟨a, turn⟩ := DaemonOp.turn h d
    exact .step (turn.step told b)
  cases op with
  | db op => exact .step (step_of_dbOp h b)
  | seedProbe | learnedReadiness | spawningIntervention | resolvePrompt | unparkPrompt
  | promptPendingEmitUnknown | recordEvidence | discardEvidence => exact turn rfl rfl
  | shutdown now =>
    cases found : d.agents.get? b with
    | none =>
      refine .keep ?_
      have absent : ((DaemonOp.shutdown now).apply d).agents.get? b = none :=
        (get?_shutdown d now b).trans (by rw [found]; rfl)
      rw [account_absent absent, account_absent found, stateChanges_shutdown]
    | some agent =>
      refine .keep ((shutdown_account d now found).trans (if_neg ?_))
      rw [h b agent found]
      decide
  | cleanTerminalSession => exact .step (step_commit (fun _ _ => killTerminalAgents_step) b)
  | reconcileStartup =>
    exact .step (step_commit (fun _ _ => reconcileActiveAgentsToCrashedSync_step) b)
  | claimRecovery => exact .step (tryClaimAgentRecoverySync_step ..)
  | restoreCrashedRow => exact restoreCrashedRow_change ..
  | restoreCrashedState a now =>
    by_cases e : b = a
    · subst e
      cases found : d.agents.get? b with
      | none =>
        refine .keep ?_
        simp [DaemonOp.apply, restoreCrashedRecoveryState, Db.account, found, Db.stateChanges]
      | some agent =>
        have row := restoreCrashedRecoveryState_account found now
        have crashed := h agent found
        rw [Db.account_row found, crashed]
        exact row ▸ .step (@Step.bump [] _ _ _)
    · exact .keep (account_modifyAgent_of_ne e)
  | insertAgent a => exact insertAgentSync_change (owned a) ..
  | deleteAgent a =>
    refine commit_induction (P := fun d' => Change _ (d.account b) (d'.account b)) (.keep rfl) ?_
    intro _ d' hr
    obtain ⟨d₁, deleted, same⟩ := map_eq_ok.mp hr
    cases same
    rw [deleteAgent_account (owned a) deleted]
    split_ifs
    · exact .close _
    · exact .keep rfl
  | replaceKilledAgent s spec =>
    exact commit_induction (.keep rfl)
      fun _ _ hr => replaceKilledAgentAndRequeueJobSync_change (owned spec.agentId) hr b
  | stoppedUndeclaredAlert | healthStuckReport | queuedStarvationAlert | suppressionEscalated
  | paneDiffStuckAlert | uiRecaptureAlert =>
    exact alert_change (h _ _ _ rfl) b
  | writeSession => exact .keep ((Quiet.of_tables rfl rfl).account b)

end Account

end Ccbd
