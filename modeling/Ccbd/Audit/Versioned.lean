import Ccbd.Audit.Changes

/-!
# Versioned and audited changes of state

Over every run of the daemon: each change of `agents.state` adds one to the version and
one `state_change` event with the old and the new state, and the newest event of an agent
tells its state. This holds exactly of the runs whose operations all meet
`DaemonOp.Audits`. The shutdown, the two requeues of a dispatched job and the restored
CRASHED state write the row alone; alerts are stored as `state_change` events too.
-/

namespace Ccbd

open Lib

namespace Account

/-- A change of state is versioned by one, and one event records it. -/
def AuditsChange (x x' : Account) : Prop :=
  ∀ s v s' v', x.row = some (s, v) → x'.row = some (s', v') → s' ≠ s →
    v' = v + 1 ∧ ∃ p, x'.changes = x.changes ++ [p] ∧ Records p s s'

/-- The newest event tells the state. -/
def Tells (x : Account) : Prop :=
  ∀ s v p, x.row = some (s, v) → x.changes.getLast? = some p → p.strField? "to" = some s.asDbStr

theorem Change.auditsChange (h : Change False x x') : x.AuditsChange x' := by
  intro s v s' v' row row' changed
  cases h with
  | step h =>
    cases h with
    | keep =>
      rw [row] at row'
      cases row'
      exact absurd rfl changed
    | bump =>
      cases row
      cases row'
      exact absurd rfl changed
    | move v cs reached records =>
      cases row
      cases row'
      exact ⟨rfl, _, rfl, records⟩
  | note =>
    cases row
    cases row'
    exact absurd rfl changed
  | close => cases row'
  | start => cases row
  | replace _ _ _ h => exact h.elim

theorem Change.tells {replaced : Prop} (h : Change replaced x x')
    (owned : x.Owned) (tells : x.Tells) : x'.Owned ∧ x'.Tells := by
  have appended : ∀ {s : AgentState} {v : Int} {cs : List Json} {p : Json},
      p.strField? "to" = some s.asDbStr → Tells ⟨some (s, v), cs ++ [p]⟩ := by
    intro s v cs p told s' v' p' row newest
    cases row
    rw [List.getLast?_concat] at newest
    cases newest
    exact told
  cases h with
  | step h =>
    cases h with
    | keep => exact ⟨owned, tells⟩
    | bump s v cs =>
      refine ⟨nofun, fun s' v' p row newest => ?_⟩
      cases row
      exact tells s v p rfl newest
    | move v cs reached records => exact ⟨nofun, appended records.target⟩
  | note v cs told => exact ⟨nofun, appended told⟩
  | close => exact ⟨fun _ => rfl, nofun⟩
  | start s v cs =>
    have empty : cs = [] := owned rfl
    subst empty
    exact ⟨nofun, fun _ _ _ _ newest => nomatch newest⟩
  | replace => exact ⟨nofun, fun _ _ _ _ newest => nomatch newest⟩

theorem Change.mono {P Q : Prop} (h : Change P x x') (weaker : P → Q) : Change Q x x' := by
  cases h with
  | step h => exact .step h
  | note v cs told => exact .note v cs told
  | close => exact .close _
  | start s v cs => exact .start s v cs
  | replace _ s v h => exact .replace _ s v (weaker h)

theorem not_auditsChange (h : s' ≠ s) : ¬AuditsChange ⟨some (s, v), cs⟩ ⟨some (s', v'), cs⟩ := by
  intro audits
  obtain ⟨-, p, longer, -⟩ := audits s v s' v' rfl rfl h
  have length := congrArg List.length longer
  simp at length

theorem not_tells (h : p.strField? "to" ≠ some s.asDbStr) : ¬Tells ⟨some (s, v), cs ++ [p]⟩ :=
  fun tells => h (tells s v p rfl List.getLast?_concat)

end Account

/-- The newest `state_change` of every agent tells its state. -/
def Db.NewestTells (d : Db) : Prop :=
  ∀ a agent payload, d.agents.get? a = some agent → latestStateChange d a = some payload →
    payload.strField? "to" = some agent.state.asDbStr

theorem Db.newestTells_iff {d : Db} : d.NewestTells ↔ ∀ a, (d.account a).Tells := by
  constructor
  · intro h a s v p row newest
    obtain ⟨agent, found, same⟩ := Option.map_eq_some_iff.mp row
    cases same
    exact h a agent p found ((latestStateChange_eq d a).trans newest)
  · intro h a agent p found newest
    exact h a agent.state agent.stateVersion p (by simp [Db.account, found])
      ((latestStateChange_eq d a).symm.trans newest)

/-- What a transition of the daemon owes the audit. A row that the operation inserts is not
a change of the row that was there. -/
structure Audited (t : Transition Db DaemonOp) : Prop where
  changes : ∀ a, ¬t.act.insertsRow a → (t.pre.account a).AuditsChange (t.post.account a)
  newest : t.post.NewestTells

namespace DaemonOp

open Account

/-- The operations that do not meet the condition break the audit at once. -/
theorem audits_of_audited (h : Audited ⟨d, op, op.apply d⟩) : op.Audits d := by
  have changes := h.changes
  have newest := Db.newestTells_iff.mp h.newest
  have alert : ∀ {a payload now}, op.alert? = some (a, payload, now) →
      ∀ agent, d.agents.get? a = some agent →
        payload.strField? "to" = some agent.state.asDbStr := by
    intro a payload now stored agent found
    by_contra untold
    have told := newest a
    simp only [apply_of_alert stored, insertAlert_account, found, Db.account_row found] at told
    exact not_tells untold told
  cases op with
  | db op =>
    by_contra silent
    obtain ⟨a, restores⟩ := Option.ne_none_iff_exists'.mp silent
    have audits := changes a id
    have entered : (op.apply d).account a = (d.account a).restored :=
      (account_requeue restores a).trans (if_pos rfl)
    obtain ⟨agent, found, away⟩ : ∃ agent, d.agents.get? a = some agent ∧ agent.state ≠ .idle :=
      restores?_state restores
    simp only [apply, entered, Db.account_row found] at audits
    exact not_auditsChange away.symm audits
  | shutdown now =>
    intro a agent found
    by_contra reached
    have reached : d.shutsDown agent = true := by simpa using reached
    have audits := changes a id
    have killed : agent.state ≠ .killed := by
      intro e
      simp [Db.shutsDown, e, AgentState.isUp] at reached
    have entered := shutdown_account d now found
    rw [if_pos reached] at entered
    simp only [apply, entered, Db.account_row found] at audits
    exact not_auditsChange killed.symm audits
  | restoreCrashedState a now =>
    intro agent found
    by_contra away
    have audits := changes a id
    have entered := restoreCrashedRecoveryState_account found now
    simp only [apply, entered, Db.account_row found] at audits
    exact not_auditsChange (Ne.symm away) audits
  | _ => exact fun _ _ _ stored => alert stored

theorem audited_of_audits (owned : ∀ a, (d.account a).Owned) (newest : d.NewestTells)
    (h : op.Audits d) : Audited ⟨d, op, op.apply d⟩ ∧ ∀ a, ((op.apply d).account a).Owned := by
  have change := change_of_audits owned h
  have after := fun a => (change a).tells (owned a) (Db.newestTells_iff.mp newest a)
  refine ⟨⟨fun a kept => ?_, Db.newestTells_iff.mpr fun a => (after a).2⟩, fun a => (after a).1⟩
  exact ((change a).mono kept).auditsChange

end DaemonOp

/-- The audit of a run is complete and current exactly if every operation of it keeps it. -/
theorem audited_run {d₀ d : Db} {ts : List (Transition Db DaemonOp)}
    (owned : ∀ a, (d₀.account a).Owned) (newest : d₀.NewestTells)
    (run : Run DaemonOp.Step d₀ ts d) :
    (∀ t ∈ ts, Audited t) ↔ ∀ t ∈ ts, t.act.Audits t.pre := by
  refine Run.forall_iff_of_keeps (I := fun d => (∀ a, (d.account a).Owned) ∧ d.NewestTells)
    ?_ ?_ run ⟨owned, newest⟩
  · rintro d op d' ⟨owned, newest⟩ rfl audited
    exact ⟨(DaemonOp.audited_of_audits owned newest (DaemonOp.audits_of_audited audited)).2,
      audited.newest⟩
  · rintro d op d' ⟨owned, newest⟩ rfl
    exact ⟨DaemonOp.audits_of_audited,
      fun audits => (DaemonOp.audited_of_audits owned newest audits).1⟩

/-- An agent starts, gets a job, is marked BUSY and killed. -/
def auditedTrace : List (Transition Db DaemonOp) :=
  trace DaemonOp.apply Db.oneSession (firstDispatch ++
    [.db (.ackMarkBusy "a1" "READY" 5), .db (.markKilled "a1" "SIGKILL_BY_DAEMON" false 6)])

theorem Db.oneSession_newestTells : Db.oneSession.NewestTells := by
  intro a agent payload found
  cases found

theorem audited_run_killed :
    (∀ t ∈ auditedTrace, t.act.Audits t.pre) ∧ ∀ t ∈ auditedTrace, Audited t := by
  have owned : ∀ a, (Db.oneSession.account a).Owned := fun _ _ => rfl
  rw [auditedTrace, audited_run owned Db.oneSession_newestTells (Run.of_list _ _), and_self]
  simp [firstDispatch, trace, DaemonOp.Audits, DbOp.restores?, DaemonOp.alert?]

/-- The shutdown of the daemon kills an agent without an event. -/
theorem not_audited_shutdown :
    ¬∀ (d₀ d : Db) (ts : List (Transition Db DaemonOp)), (∀ a, (d₀.account a).Owned) →
      d₀.NewestTells → Run DaemonOp.Step d₀ ts d → ∀ t ∈ ts, Audited t := by
  intro h
  have audited := h _ _ _ (fun _ _ => rfl) Db.oneSession_newestTells
    (Run.of_list Db.oneSession
    [.insertAgent "a1" "s1" "claude" none 1, .shutdown 2])
  simp only [trace, List.forall_mem_cons] at audited
  have killed := audited.2.1.changes "a1" id
  obtain ⟨-, p, longer, -⟩ := killed .spawning 1 .killed 2 rfl rfl (by decide)
  have nothing : ([] : List Json) = [p] := longer
  cases nothing

end Ccbd
