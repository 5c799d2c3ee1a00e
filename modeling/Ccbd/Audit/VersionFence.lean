import Ccbd.Audit.Changes

/-!
# Versions across the rows of an agent

`agents.state_version` tells a caller that nothing has happened to the agent since it last
looked. Along the life of one row no operation lowers it. A row that is inserted again starts
at 1, so the versions of an agent identify its states only in the runs that start every agent
once. A failed recovery puts the old row back with the old version.
-/

namespace Ccbd

open Lib

def Db.versionOf (d : Db) (agentId : String) : Option Int :=
  (d.agents.get? agentId).map (·.stateVersion)

/-- What an operation does to the version of one agent; `new` is the version of a row that it
inserts. -/
inductive VersionStep (new : Option Int) : Option Int → Option Int → Prop
  | keep (x : Option Int) : VersionStep new x x
  | bump (v : Int) : VersionStep new (some v) (some (v + 1))
  | gone (x : Option Int) : VersionStep new x none
  | fresh (x : Option Int) {v : Int} (inserts : new = some v) : VersionStep new x (some v)

namespace DaemonOp

/-- The operation starts the agent, if it goes through: it inserts a row where there is none,
or where there is that of a KILLED agent. -/
def starts (d : Db) (b : String) : DaemonOp → Bool
  | insertAgent a _ _ _ _ => b = a && (d.stateOf a = none || d.stateOf a = some .killed)
  | replaceKilledAgent _ spec _ _ _ _ => b = spec.agentId && d.stateOf b = some .killed
  | _ => false

/-- The version of the row that the operation inserts for an agent. -/
def newRow? (d : Db) (b : String) : DaemonOp → Option Int
  | restoreCrashedRow a agent _ _ =>
    if b = a ∧ d.stateOf a = none then some agent.stateVersion else none
  | op => if op.starts d b then some 1 else none

end DaemonOp

/-! ## One operation -/

theorem Db.versionOf_eq (d : Db) (a : String) : d.versionOf a = (d.account a).row.map Prod.snd := by
  cases found : d.agents.get? a <;> simp [versionOf, account, found]

theorem Db.versionOf_deleteAgent {d d' : Db}
    (h : d.deleteAgent a context = .ok d') (ne : c ≠ a) : d'.versionOf c = d.versionOf c := by
  obtain ⟨-, rfl⟩ | rfl := deleteAgent_ok h
  · rfl
  · unfold versionOf
    rw [get?_cascadeAgent_agents, if_neg ne]

open DaemonOp

open Db

namespace VersionStep

variable {d d' : Db} {new : Option Int} {b : String}

theorem of_account (same : d'.account b = d.account b) :
    VersionStep new (d.versionOf b) (d'.versionOf b) := by
  rw [versionOf_eq, versionOf_eq, same]
  exact .keep _

theorem of_step (h : Account.Step targets (d.account b) (d'.account b)) :
    VersionStep new (d.versionOf b) (d'.versionOf b) := by
  rw [versionOf_eq, versionOf_eq]
  generalize d.account b = x at h ⊢
  generalize d'.account b = x' at h ⊢
  cases h with
  | keep => exact .keep _
  | bump _ v => exact .bump v
  | move v => exact .bump v

theorem of_agents (same : d'.agents = d.agents) :
    VersionStep new (d.versionOf b) (d'.versionOf b) := by
  unfold versionOf
  rw [same]
  exact .keep _

theorem deleteAgent (h : d.deleteAgent a context = .ok d') :
    VersionStep new (d.versionOf b) (d'.versionOf b) := by
  by_cases e : b = a
  · subst e
    rw [versionOf, versionOf, absent_of_deleteAgent h]
    exact .gone _
  · rw [versionOf_deleteAgent h e]
    exact .keep _

/-- A row is inserted, possibly after the one that was there has been deleted. -/
theorem newRow {P : Agent → Prop} (h : NewRow d₁ a P d')
    (others : ∀ c, c ≠ a → d₁.versionOf c = d.versionOf c)
    (version : ∀ agent, P agent → agent.stateVersion = v) (inserts : b = a → new = some v) :
    VersionStep new (d.versionOf b) (d'.versionOf b) := by
  by_cases e : b = a
  · subst e
    obtain ⟨agent, found, good⟩ := h.row
    have written : d'.versionOf b = some v := by
      rw [versionOf, found, Option.map_some, version agent good]
    rw [written]
    exact .fresh _ (inserts rfl)
  · have kept : d'.versionOf b = d₁.versionOf b := by rw [versionOf, versionOf, h.others b e]
    rw [kept, others b e]
    exact .keep _

theorem insertAgentSync (d : Db) (a s p : String) (pid : Option Int) (now : Int) :
    VersionStep ((insertAgent a s p pid now).newRow? d b) (d.versionOf b)
      ((Ccbd.insertAgentSync d a s p .spawning pid now).2.versionOf b) := by
  by_cases up : d.stateOf a = none ∨ d.stateOf a = some .killed
  · rcases insertAgentSync_cases d a s p .spawning pid now with
      same | ⟨d₁, deleted, same | new⟩
    · rw [same]
      exact .keep _
    · rw [same]
      exact VersionStep.deleteAgent deleted
    · refine newRow new (fun c => versionOf_deleteAgent deleted) (fun _ good => good.2.2) ?_
      simp [newRow?, starts, up]
  · rw [insertAgentSync_of_up up]
    exact .keep _

theorem replaceKilledAgent {s hash : String}
    (h : replaceKilledAgentAndRequeueJobSync d s spec hash pid intent now = .ok (n, d')) :
    VersionStep ((replaceKilledAgent s spec hash pid intent now).newRow? d b)
      (d.versionOf b) (d'.versionOf b) := by
  obtain ⟨d₁, d₂, killed, deleted, new, requeued⟩ := replaceKilledAgentAndRequeueJobSync_ok h
  have kept : d'.versionOf b = d₂.versionOf b := by
    have requeued : SideWrites { edges := [(.failed, .queued)] } d₂ d' :=
      requeueCapturedIntent_side (.head _) requeued
    rw [versionOf, versionOf, requeued.agents]
  rw [kept]
  refine newRow new (fun c => versionOf_deleteAgent deleted) (fun _ good => good.2.2.2) ?_
  rintro rfl
  have down : d.stateOf spec.agentId = some .killed := killed
  simp [newRow?, starts, down]

theorem restoreCrashedRow (d : Db) (a : String) (agent : Agent) (hash : String) (now : Int) :
    VersionStep ((DaemonOp.restoreCrashedRow a agent hash now).newRow? d b) (d.versionOf b)
      ((Ccbd.restoreCrashedRow a agent hash now d).2.versionOf b) := by
  rcases restoreCrashedRow_cases a agent hash now d with same | new
  · rw [same]
    exact .keep _
  · refine newRow new (fun _ _ => rfl) (fun _ good => good.2) ?_
    rintro rfl
    have absent : d.stateOf b = none := by simp [stateOf, new.absent]
    exact if_pos ⟨rfl, absent⟩

theorem commit {α : Type} {r : Except CcbdError (α × Db)}
    (success : ∀ x d', r = .ok (x, d') → VersionStep new (d.versionOf b) (d'.versionOf b)) :
    VersionStep new (d.versionOf b) ((Ccbd.commit r d).versionOf b) :=
  commit_induction (.keep _) success

theorem apply_dbOp (op : DbOp) (d : Db) :
    VersionStep new (d.versionOf b) ((op.apply d).versionOf b) := by
  cases restores : op.restores? d with
  | none => exact of_step (Account.step_of_dbOp restores b)
  | some a =>
    have account := Account.account_requeue restores b
    rw [versionOf_eq, versionOf_eq, account]
    split_ifs
    · unfold Account.restored
      cases (d.account b).row with
      | none => exact .keep _
      | some row => exact .bump row.2
    · exact .keep _

theorem shutdown (d : Db) (now : Int) :
    VersionStep new (d.versionOf b) (((shutdown now).apply d).versionOf b) := by
  have rows := get?_shutdown d now b
  unfold versionOf
  simp only [apply, rows]
  cases d.agents.get? b with
  | none => exact .keep _
  | some agent =>
    simp only [Option.map_some]
    split_ifs
    · exact .bump agent.stateVersion
    · exact .keep _

theorem restoreCrashedState (d : Db) (a : String) (now : Int) :
    VersionStep new (d.versionOf b) ((restoreCrashedRecoveryState d a now).versionOf b) := by
  by_cases e : b = a
  · subst e
    rw [versionOf_eq, versionOf_eq]
    cases found : d.agents.get? b with
    | none => simpa [restoreCrashedRecoveryState, account, found] using VersionStep.keep none
    | some agent =>
      rw [Account.restoreCrashedRecoveryState_account found, account_row found]
      exact .bump agent.stateVersion
  · exact of_account (Account.account_modifyAgent_of_ne e)

theorem alert (d : Db) (a : String) (p : Json) (now : Int) :
    VersionStep new (d.versionOf b) ((insertAlert d a p now).versionOf b) := by
  rw [versionOf_eq, versionOf_eq, Account.insertAlert_account]
  split_ifs <;> exact .keep _

end VersionStep

open Account VersionStep in
/-- No operation lowers the version of a row; a row that is inserted brings its own. -/
theorem DaemonOp.versionStep (op : DaemonOp) (d : Db) (b : String) :
    VersionStep (op.newRow? d b) (d.versionOf b) ((op.apply d).versionOf b) := by
  have turn {S : Scope} (h : op.scope? = some S) (told : S.restores = false) :
      VersionStep (op.newRow? d b) (d.versionOf b) ((op.apply d).versionOf b) := by
    obtain ⟨a, turn⟩ := turn h d
    exact of_step (turn.step told b)
  cases op with
  | db op => exact apply_dbOp op d
  | seedProbe | learnedReadiness | spawningIntervention | resolvePrompt | unparkPrompt
  | promptPendingEmitUnknown | recordEvidence | discardEvidence => exact turn rfl rfl
  | shutdown now => exact VersionStep.shutdown d now
  | cleanTerminalSession => exact of_step (step_commit (fun _ _ => killTerminalAgents_step) b)
  | reconcileStartup =>
    exact of_step (step_commit (fun _ _ => reconcileActiveAgentsToCrashedSync_step) b)
  | claimRecovery => exact of_step (tryClaimAgentRecoverySync_step ..)
  | restoreCrashedRow => exact VersionStep.restoreCrashedRow ..
  | restoreCrashedState => exact VersionStep.restoreCrashedState ..
  | insertAgent => exact VersionStep.insertAgentSync ..
  | deleteAgent a =>
    refine VersionStep.commit fun _ d' h => ?_
    obtain ⟨d₁, deleted, same⟩ := map_eq_ok.mp h
    cases same
    exact VersionStep.deleteAgent deleted
  | replaceKilledAgent => exact VersionStep.commit fun _ _ h => VersionStep.replaceKilledAgent h
  | stoppedUndeclaredAlert | healthStuckReport | queuedStarvationAlert | suppressionEscalated
  | paneDiffStuckAlert | uiRecaptureAlert =>
    exact alert ..
  | writeSession => exact of_agents rfl

/-! ## Runs -/

/-- The databases of a run so far. -/
def databases (d₀ : Db) (ts : List (Transition Db DaemonOp)) : List Db := d₀ :: ts.map (·.post)

/-- Every version of an agent seen in the first database is at most the one in the second. -/
def Db.VersionsUpTo (d d' : Db) : Prop :=
  ∀ a w v, d.versionOf a = some w → d'.versionOf a = some v → w ≤ v

theorem Db.VersionsUpTo.refl (d : Db) : d.VersionsUpTo d := by
  intro a w v seen left
  rw [seen] at left
  cases left
  exact le_refl w

/-- The versions of an agent never decrease, and none from before a start of the agent comes
back after it. -/
structure VersionsFence (d₀ : Db) (ts : List (Transition Db DaemonOp)) : Prop where
  increase : (databases d₀ ts).Pairwise VersionsUpTo
  restart : ∀ before t after, ts = before ++ t :: after →
    ∀ a, t.act.starts t.pre a → t.post.stateOf a = some .spawning →
      ∀ d ∈ databases d₀ before, ∀ d' ∈ databases t.post after,
        ∀ w v, d.versionOf a = some w → d'.versionOf a = some v → w ≠ v

/-- The agent that is started had no row in the databases so far, and the row that is put back
after a failed recovery carries at least every version that was there. -/
def DaemonOp.NewIdentity (earlier : List Db) (d : Db) : DaemonOp → Prop
  | restoreCrashedRow a agent _ _ => d.stateOf a = none →
    ∀ d₁ ∈ earlier, ∀ w, d₁.versionOf a = some w → w ≤ agent.stateVersion
  | op => ∀ a, op.starts d a → ∀ d₁ ∈ earlier, d₁.versionOf a = none

namespace DaemonOp.NewIdentity

variable {earlier : List Db} {d d₁ : Db} {op : DaemonOp} {a : String}

theorem absent (h : op.NewIdentity earlier d) (starts : op.starts d a) (mem : d₁ ∈ earlier) :
    d₁.versionOf a = none := by
  cases op with
  | restoreCrashedRow => cases starts
  | _ => exact h a starts d₁ mem

theorem le_newRow (h : op.NewIdentity earlier d) (inserts : op.newRow? d a = some v)
    (mem : d₁ ∈ earlier) (seen : d₁.versionOf a = some w) : w ≤ v := by
  by_cases starts : op.starts d a
  · rw [h.absent starts mem] at seen
    cases seen
  · cases op with
    | restoreCrashedRow b agent hash now =>
      simp only [newRow?] at inserts
      split_ifs at inserts with at_a
      cases inserts
      obtain ⟨rfl, gone⟩ := at_a
      exact h gone d₁ mem w seen
    | _ => simp [newRow?, starts] at inserts

end DaemonOp.NewIdentity

theorem DaemonOp.versionsUpTo_apply {op : DaemonOp} (new : op.NewIdentity earlier d)
    (low : ∀ d₁ ∈ earlier, d₁.VersionsUpTo d) : ∀ d₁ ∈ earlier, d₁.VersionsUpTo (op.apply d) := by
  intro d₁ mem a w v seen left
  have step := op.versionStep d a
  generalize before : d.versionOf a = x at step
  rw [left] at step
  cases step with
  | keep => exact low d₁ mem a w v seen before
  | bump v₀ =>
    have le := low d₁ mem a w v₀ seen before
    omega
  | fresh _ inserts => exact new.le_newRow inserts mem seen

theorem databases_concat (d₀ : Db) (ts : List (Transition Db DaemonOp))
    (t : Transition Db DaemonOp) : databases d₀ (ts ++ [t]) = databases d₀ ts ++ [t.post] := by
  simp [databases]

/-- In the runs whose starts are all of new agents the versions of an agent identify its
states. -/
theorem versions_fence_of_newIdentity {d₀ d : Db} {ts : List (Transition Db DaemonOp)}
    (run : Run Step d₀ ts d) (cond : ∀ before t after, ts = before ++ t :: after →
      t.act.NewIdentity (databases d₀ before) t.pre) : VersionsFence d₀ ts := by
  constructor
  · -- The databases so far are in order, and all of them below the present one.
    have ordered := run.invariant_history
      (I := fun past d => (databases d₀ past).Pairwise VersionsUpTo ∧
        d ∈ databases d₀ past ∧ ∀ d₁ ∈ databases d₀ past, d₁.VersionsUpTo d)
      ?_ ?_ cond
    · exact ordered.1
    · rintro past d op d' ⟨pairs, mem, low⟩ new rfl
      have up := versionsUpTo_apply new low
      rw [databases_concat, List.pairwise_append]
      refine ⟨⟨pairs, List.pairwise_singleton _ _, ?_⟩, by simp, ?_⟩
      · intro d₁ mem d₂ last
        rw [List.mem_singleton.mp last]
        exact up d₁ mem
      · intro d₁ mem
        rcases List.mem_append.mp mem with mem | last
        · exact up d₁ mem
        · rw [List.mem_singleton.mp last]
          exact VersionsUpTo.refl _
    · refine ⟨List.pairwise_singleton _ _, List.mem_singleton_self _, ?_⟩
      intro d₁ mem
      rw [List.mem_singleton.mp mem]
      exact VersionsUpTo.refl _
  · intro before t after split a starts _ d₁ mem d' _ w v seen
    rw [(cond before t after split).absent starts mem] at seen
    cases seen

/-- One agent that is started, works and is KILLED. -/
theorem versions_fence_of_newIdentity_once :
    ∃ d ts, Run Step oneSession ts d ∧ VersionsFence oneSession ts ∧ d.versionOf "a1" = some 3 := by
  have run := Run.of_list (f := apply) oneSession
    [.insertAgent "a1" "s1" "claude" none 1, .learnedReadiness "a1" 2,
      .db (.markKilled "a1" "KILLED_BY_USER" false 3)]
  refine ⟨_, _, run, versions_fence_of_newIdentity run ?_, rfl⟩
  intro before t after split
  cases before with
  | nil =>
    cases split
    intro a _ d₁ mem
    rw [List.mem_singleton.mp mem]
    rfl
  | cons first before =>
    -- Only the first operation starts an agent.
    rw [List.cons_append] at split
    have mem : t ∈ before ++ t :: after := by simp
    rw [← (List.cons.inj split).2] at mem
    have act := act_mem_of_trace mem
    simp only [List.mem_cons, List.not_mem_nil, or_false] at act
    rcases act with act | act <;> rw [act] <;> intro a starts <;> cases starts

/-- The row of a recovered agent starts at 1, and the versions it had before come back. -/
theorem not_versions_fence :
    ¬ ∀ (d₀ d : Db) (ts : List (Transition Db DaemonOp)), Run Step d₀ ts d →
      VersionsFence d₀ ts := by
  intro all
  have run := Run.of_list (f := apply) oneSession
    [.insertAgent "a1" "s1" "claude" none 1, .learnedReadiness "a1" 2,
      .db (.markCrashed "a1" none "AGENT_UNEXPECTED_EXIT" 3), .claimRecovery "a1" 3 4 4,
      .deleteAgent "a1", .insertAgent "a1" "s1" "claude" none 5]
  have fence := all _ _ _ run
  have decreases := List.pairwise_iff_getElem.mp fence.increase 4 6 (by decide) (by decide)
    (by decide) "a1" 4 1 rfl rfl
  omega

end Ccbd
