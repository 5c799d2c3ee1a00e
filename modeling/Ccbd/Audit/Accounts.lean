import Ccbd.Audit.Writes

/-!
# The account of an agent

The account of an agent is the state and the version in its row, and the payloads of its
`state_change` events. An operation keeps an account, bumps its version, or moves it: the row
enters a new state, its version grows by one and one event records the old and the new state.

`Quiet` steps write neither. A turn of an agent is such steps around the two writes, so one
rule, `Account.move_of_enter`, covers all operations that are turns. Two requeues of a dispatched
job are the exceptions: they write the row and no event.
-/

namespace Ccbd

open Lib

/-- The payloads of the `state_change` events of an agent, oldest first. -/
def Db.stateChanges (db : Db) (agentId : String) : List Json :=
  (db.events.select fun _ e => e.agentId = agentId && e.eventType = "state_change").map
    fun r => r.2.payload

structure Account where
  row : Option (AgentState × Int)
  changes : List Json

def Db.account (db : Db) (agentId : String) : Account where
  row := (db.agents.get? agentId).map fun agent => (agent.state, agent.stateVersion)
  changes := db.stateChanges agentId

/-- What an operation that reaches `targets` may do to an account. -/
inductive Account.Step (targets : List AgentState) : Account → Account → Prop
  | keep (x : Account) : Step targets x x
  | bump (s : AgentState) (v : Int) (cs : List Json) :
      Step targets ⟨some (s, v), cs⟩ ⟨some (s, v + 1), cs⟩
  | move {s t : AgentState} (v : Int) (cs : List Json) {p : Json} (reached : t ∈ targets)
      (records : Records p s t) : Step targets ⟨some (s, v), cs⟩ ⟨some (t, v + 1), cs ++ [p]⟩

theorem latestStateChange_eq (db : Db) (a : String) :
    latestStateChange db a = (db.stateChanges a).getLast? := by
  rw [latestStateChange, AutoTable.latest?, Db.stateChanges, List.getLast?_map]

theorem Db.account_row {db : Db} (found : db.agents.get? a = some agent) :
    db.account a = ⟨some (agent.state, agent.stateVersion), db.stateChanges a⟩ := by
  simp [Db.account, found]

theorem Db.stateChanges_appendEvent (db : Db) (a ty : String) (p : Json) (now : Int) (b : String) :
    (db.appendEvent a ty p now).stateChanges b =
      if b = a ∧ ty = "state_change" then db.stateChanges b ++ [p] else db.stateChanges b := by
  by_cases h : b = a ∧ ty = "state_change"
  · simp [stateChanges, appendEvent, AutoTable.append, AutoTable.select, h]
  · have h' : ¬(a = b ∧ ty = "state_change") := fun g => h ⟨g.1.symm, g.2⟩
    simp [stateChanges, appendEvent, AutoTable.append, AutoTable.select, h, h']

/-! ## Steps that no account sees -/

/-- Neither the agents nor their recorded changes differ. -/
structure Quiet (db db' : Db) : Prop where
  agents : db'.agents = db.agents
  changes : ∀ a, db'.stateChanges a = db.stateChanges a

namespace Quiet

variable {db db' : Db}

theorem refl (db : Db) : Quiet db db := ⟨rfl, fun _ => rfl⟩

theorem trans (h : Quiet db db') (h' : Quiet db' db'') : Quiet db db'' :=
  ⟨h'.agents.trans h.agents, fun a => (h'.changes a).trans (h.changes a)⟩

theorem of_tables (agents : db'.agents = db.agents) (events : db'.events = db.events) :
    Quiet db db' :=
  ⟨agents, fun a => by simp only [Db.stateChanges, events]⟩

theorem appendEvent (db : Db) (a : String) (other : ty ≠ "state_change") (p : Json)
    (now : Int) : Quiet db (db.appendEvent a ty p now) :=
  ⟨rfl, fun b => by rw [Db.stateChanges_appendEvent, if_neg fun h => other h.2]⟩

theorem account (h : Quiet db db') (a : String) : db'.account a = db.account a := by
  simp [Db.account, h.agents, h.changes]

theorem step (h : Quiet db db') (targets : List AgentState) (a : String) :
    Account.Step targets (db.account a) (db'.account a) := by
  rw [h.account]
  exact .keep _

end Quiet

/-! ## Moves -/

/-- The update of a row that enters the state `t`. -/
def Agent.Enters (f : Agent → Agent) (t : AgentState) : Prop :=
  ∀ agent, (f agent).state = t ∧ (f agent).stateVersion = agent.stateVersion + 1

theorem Agent.EntersAt.enters (h : Agent.EntersAt f t now) : Agent.Enters f t := by
  intro agent
  obtain ⟨sub, code, exit, same⟩ := h agent
  rw [same]
  exact ⟨rfl, rfl⟩

namespace Account

variable {db db₁ db' : Db} {a : String} {agent : Agent} {f : Agent → Agent} {t : AgentState}

theorem account_modifyAgent_of_ne (h : b ≠ a) : (db.modifyAgent a f).account b = db.account b := by
  simp only [Db.account, Db.modifyAgent_agents, Table.get?_modify_of_ne _ f h]
  rfl

theorem account_modifyAgent_self (found : db.agents.get? a = some agent)
    (enters : Agent.Enters f t) :
    (db.modifyAgent a f).account a = ⟨some (t, agent.stateVersion + 1), db.stateChanges a⟩ := by
  simp only [Db.account, Db.modifyAgent_agents, Table.get?_modify_self, found, Option.map_some,
    (enters agent).1, (enters agent).2]
  rfl

theorem account_enter_of_ne (quiet : Quiet (db.modifyAgent a f) db₁) (p : Json) (now : Int)
    (h : b ≠ a) :
    (db₁.appendEvent a "state_change" p now).account b = db.account b := by
  have written : db₁.account b = db.account b :=
    (quiet.account b).trans (account_modifyAgent_of_ne h)
  rw [← written]
  simp [Db.account, Db.stateChanges_appendEvent, h]

/-- The row enters a state, quiet steps follow, and one event records the change. -/
theorem move_of_enter (found : db.agents.get? a = some agent) (enters : Agent.Enters f t)
    (quiet : Quiet (db.modifyAgent a f) db₁) (records : Records p agent.state t)
    (reached : t ∈ targets) (now : Int) (b : String) :
    Step targets (db.account b) ((db₁.appendEvent a "state_change" p now).account b) := by
  by_cases e : b = a
  · subst e
    have appended : (db₁.appendEvent b "state_change" p now).account b =
        ⟨(db₁.account b).row, (db₁.account b).changes ++ [p]⟩ := by
      simp [Db.account, Db.stateChanges_appendEvent]
    rw [appended, quiet.account, account_modifyAgent_self found enters, Db.account_row found]
    exact .move _ _ reached records
  · rw [account_enter_of_ne quiet p now e]
    exact .keep _

theorem quiet_trans_step (quiet : Quiet db db₁)
    (h : ∀ b, Step targets (db₁.account b) (db'.account b)) (b : String) :
    Step targets (db.account b) (db'.account b) := by
  rw [← quiet.account]
  exact h b

theorem step_commit {α : Type} {r : Except CcbdError (α × Db)}
    (h : ∀ x db', r = .ok (x, db') → ∀ b, Step targets (db.account b) (db'.account b))
    (b : String) :
    Step targets (db.account b) ((commit r db).account b) :=
  commit_induction (.keep _) fun x db' hr => h x db' hr b

end Account

/-! ## Turns -/

section Turns

variable {S : Scope} {d d' : Db} {a b : String}

theorem SideWrite.quiet (h : SideWrite S d d') : Quiet d d' := by
  cases h with
  | note a p now other => exact .appendEvent _ _ other _ _
  | move | create | ask | mark | review | cite | intent => exact .of_tables rfl rfl

theorem SideWrites.quiet (h : SideWrites S d d') : Quiet d d' :=
  h.lift .refl (fun _ _ _ => .trans) fun _ _ => SideWrite.quiet

theorem Turn.account_of_ne (h : Turn S a d d') (other : b ≠ a) : d'.account b = d.account b :=
  h.lift (R := fun d d' => d'.account b = d.account b) (fun _ => rfl)
    (fun _ _ _ first later => later.trans first) (fun _ _ write => write.quiet.account b)
    (fun _ _ _ _ _ _ _ => Account.account_modifyAgent_of_ne other)
    (fun _ _ _ => by simp [Db.account, Db.stateChanges_appendEvent, other])
    fun _ _ _ => Account.account_modifyAgent_of_ne other

/-- A turn that puts no agent back to IDLE moves an account once at most. -/
theorem Turn.step (h : Turn S a d d') (told : S.restores = false) (b : String) :
    Account.Step S.targets (d.account b) (d'.account b) := by
  cases h with
  | side writes => exact writes.quiet.step _ b
  | @move d₀ d₁ _ agent f t p now before found enters reached captured during records after =>
    have moved := Account.move_of_enter found enters.enters during.quiet records reached now
    rw [after.quiet.account]
    exact Account.quiet_trans_step before.quiet moved b
  | restore states now restores =>
    rw [told] at restores
    cases restores

theorem Turns.step (h : Turns S ids d d') (nodup : ids.Nodup)
    (told : S.restores = false) (b : String) :
    Account.Step S.targets (d.account b) (d'.account b) ∧
      (b ∉ ids → d'.account b = d.account b) := by
  induction h with
  | nil d => exact ⟨.keep _, fun _ => rfl⟩
  | @cons a rest d d₁ d' first _ ih =>
    obtain ⟨visited, nodup⟩ := List.nodup_cons.mp nodup
    obtain ⟨later, kept⟩ := ih nodup
    by_cases e : b = a
    · subst e
      rw [kept visited]
      exact ⟨first.step told b, fun h => absurd List.mem_cons_self h⟩
    · rw [first.account_of_ne e] at later kept
      exact ⟨later, fun h => kept fun hb => h (List.mem_cons_of_mem _ hb)⟩

theorem killTerminalAgents_step
    (h : markTerminalSessionAgentsKilledDbOnly d sessionId reason now = .ok (n, d')) (b : String) :
    Account.Step [.killed] (d.account b) (d'.account b) :=
  ((killTerminalAgents_turns h).step (d.agents.nodup.sublist (List.filter_sublist.map _)) rfl b).1

theorem reconcileActiveAgentsToCrashedSync_step
    (h : reconcileActiveAgentsToCrashedSync d probe now = .ok (n, d')) (b : String) :
    Account.Step [.crashed] (d.account b) (d'.account b) :=
  ((reconcileActiveAgentsToCrashedSync_turns h).step
    (startupReconcilePhaseBDead_reads d probe).1 rfl b).1

end Turns

end Ccbd
