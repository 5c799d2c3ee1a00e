import Ccbd.Completion.Signals

/-!
# Completion after STUCK

A health check that gives an agent up fails the job the agent works on, and then reports
the job that is dispatched by now. A completion event is let through to a STUCK agent only
if the newest report names the dispatched job. So the job that was worked on is never completed
afterwards, and the rule is open only for a second job of the same agent.
-/

namespace Ccbd

open Lib Reply

/-! ## What the escalation leaves behind -/

/-- The escalation takes an agent from its work to STUCK, with a dead completion layer. -/
structure EscalatesToStuck (detect : String → String → Bool) (o : HealthCheckObservation)
    (threshold now : Int) (d : Db) (n : Nat) (d' : Db) : Prop where
  ran : escalateHealthStuck detect o threshold now d = .ok n d'
  working : d.stateOf o.agentId = some .busy ∨ d.stateOf o.agentId = some .waitingForAck
  stuck : d'.stateOf o.agentId = some .stuck
  completionDead : HealthLayer.completion ∈ (healthCheckObserve detect o threshold).deadLayers

variable {agent : Agent} {env : CompletionEnv} {job : Job} {s : Signal} {a j : String}

theorem latestStateChange_append (d : Db) (e : Event) (change : e.eventType = "state_change") :
    latestStateChange { d with events := d.events.append e } e.agentId = some e.payload := by
  simp [latestStateChange, AutoTable.latest?, AutoTable.select, AutoTable.append, change]

/-- What a report of the escalation says of a database. -/
def Db.reportOf (d : Db) (o : HealthCheckObservation) (result : HealthCheckResult) : Json :=
  healthStuckPayload o.state ((queryDispatchedJobForAgentSync d o.agentId).map Prod.fst)
    result.deadLayers (saturatingSub o.nowTs result.lastProgressTs)

theorem reportHealthStuck_ok (h : reportHealthStuck o result now d = .ok u d') :
    d'.agents = d.agents ∧ d'.jobs = d.jobs ∧
      latestStateChange d' o.agentId = some (d.reportOf o result) := by
  obtain ⟨seen, d₁, hget, h⟩ := bind_eq_ok_iff.mp h
  cases hget
  obtain ⟨m, d₂, inserted, h⟩ := bind_eq_ok_iff.mp h
  cases h
  obtain rfl := insertEventSync_event (atomic_eq_ok_iff.mp inserted)
  exact ⟨rfl, rfl, latestStateChange_append _ _ rfl⟩

theorem alertStoppedUndeclared_ok (h : alertStoppedUndeclared o result now d = .ok n d') :
    d'.agents = d.agents := by
  obtain ⟨seen, d₁, hget, h⟩ := bind_eq_ok_iff.mp h
  cases hget
  obtain ⟨m, d₂, inserted, h⟩ := bind_eq_ok_iff.mp h
  cases h
  obtain ⟨events, rfl⟩ := insertEventSync_ok (atomic_eq_ok_iff.mp inserted)
  rfl

theorem EscalatesToStuck.marked (h : EscalatesToStuck detect o threshold now d n d') :
    ∃ r dm, markAgentStuckOutcomeSync d o.agentId "HEALTH_CHECK_STUCK" now = .ok (r, dm) ∧
      dm ≠ d ∧ d'.jobs = dm.jobs ∧
      latestStateChange d' o.agentId =
        some (d'.reportOf o (healthCheckObserve detect o threshold)) := by
  have moved : d'.agents ≠ d.agents := by
    intro same
    have kept : d'.stateOf o.agentId = d.stateOf o.agentId := by simp [Db.stateOf, same]
    rcases h.working with e | e <;> simp [h.stuck, e] at kept
  have ran := h.ran
  unfold escalateHealthStuck at ran
  split at ran
  · cases ran
    exact absurd rfl moved
  split at ran
  · exact absurd (alertStoppedUndeclared_ok ran) moved
  obtain ⟨r, dm, marked, ran⟩ := bind_eq_ok_iff.mp ran
  rw [atomic_eq_ok_iff] at marked
  have changed : d'.agents = dm.agents → dm ≠ d := by
    rintro same rfl
    exact moved same
  split at ran
  · -- a mark without effect leaves the database as it was
    rename_i zero
    cases ran
    rcases markAgentStuckOutcomeSync_ok marked with rfl | ⟨one, -⟩
    · exact absurd rfl moved
    · rw [one] at zero
      cases zero
  · obtain ⟨u, d₁, reported, ran⟩ := bind_eq_ok_iff.mp ran
    cases ran
    obtain ⟨agents, jobs, report⟩ := reportHealthStuck_ok reported
    refine ⟨r, dm, marked, changed agents, jobs, ?_⟩
    rw [report]
    simp only [Db.reportOf, queryDispatchedJobForAgentSync, dispatchedJobs, jobs]

instance : IsTrans (String × Job) (dispatchedOrder · ·) where
  trans a b c := by
    simp only [dispatchedOrder]
    generalize a.2.dispatchedAt = x, b.2.dispatchedAt = y, c.2.dispatchedAt = z
    cases x <;> cases y <;> cases z <;> simp only [nullsFirst] <;> grind [String.le_trans]

instance : Std.Total (α := String × Job) (dispatchedOrder · ·) where
  total a b := by
    simp only [dispatchedOrder]
    generalize a.2.dispatchedAt = x, b.2.dispatchedAt = y
    cases x <;> cases y <;> simp only [nullsFirst] <;> grind [String.le_total]

/-- A job that leaves DISPATCHED leaves the line of its agent, and the others keep their order. -/
theorem dispatchedJobs_modify {f : Job → Job} (jobs : d'.jobs = d.jobs.modify k f)
    (left : ∀ job, (f job).status ≠ .dispatched) (a : String) :
    dispatchedJobs d' a = (dispatchedJobs d a).filter (·.1 ≠ k) := by
  rw [dispatchedJobs, dispatchedJobs, Table.selectOrderBy, Table.selectOrderBy,
    Table.filter_insertionSort, jobs]
  refine congrArg _ ?_
  simp only [Table.select, Table.modify, Table.updateWhere, List.filter_map, List.filter_filter]
  refine (List.map_congr_left fun row mem => ?_).trans ((List.map_id _).trans ?_)
  · have other : row.1 ≠ k := by
      rintro e
      simp [e, left] at mem
    simp [other]
  · refine List.filter_congr fun row _ => ?_
    by_cases e : row.1 = k <;> simp [e, left]

theorem filter_ne_head (head : queryDispatchedJobForAgentSync d a = some (k, row)) :
    (dispatchedJobs d a).filter (·.1 ≠ k) = (dispatchedJobs d a).tail := by
  have keys := Table.nodup_selectOrderBy d.jobs
    (fun _ job => job.agentId = a && job.status = .dispatched) dispatchedOrder
  change ((dispatchedJobs d a).map Prod.fst).Nodup at keys
  obtain ⟨rest, e⟩ := List.head?_eq_some_iff.mp head
  rw [e, List.map_cons, List.nodup_cons] at keys
  rw [e, List.filter_cons_of_neg (by simp), List.tail_cons, List.filter_eq_self]
  rintro other mem
  have : other.1 ≠ k := fun same => keys.1 (List.mem_map.mpr ⟨other, mem, same⟩)
  simpa using this

/-- The first of the agent's dispatched jobs fails, and the others move up. -/
theorem EscalatesToStuck.fails (h : EscalatesToStuck detect o threshold now d n d')
    (owned : d.Owns o.agentId j) :
    ∃ k job, queryDispatchedJobForAgentSync d o.agentId = some (k, job) ∧
      d'.statusOf k = some .failed ∧
      dispatchedJobs d' o.agentId = (dispatchedJobs d o.agentId).tail ∧
      ∀ i, i ≠ k → d'.jobs.get? i = d.jobs.get? i := by
  obtain ⟨job, found, owner, dispatched⟩ := owned
  obtain ⟨r, dm, marked, moved, jobs, -⟩ := h.marked
  rcases markAgentStuckOutcomeSync_ok marked with
    rfl | ⟨-, agent, -, -, -, free | ⟨k, row, head, -, failed⟩⟩
  · exact absurd rfl moved
  · exact absurd dispatched (queryDispatchedJobForAgentSync_none free.1 found owner)
  · rw [← jobs, Table.modify_modify] at failed
    obtain ⟨stored, -, -⟩ := queryDispatchedJobForAgentSync_some head
    refine ⟨k, row, head, ?_, ?_, fun i other => ?_⟩
    · simp [Db.statusOf, failed, stored]
    · rw [dispatchedJobs_modify failed (by simp)]
      exact filter_ne_head head
    · rw [failed, Table.get?_modify_of_ne _ _ other]

/-! ## The event that comes late -/

/-- A transition that leaves the state of the agent and the row of the job alone. -/
def LeavesAlone (a j : String) (t : Transition Db DaemonOp) : Prop :=
  t.post.stateOf a = t.pre.stateOf a ∧ t.post.jobs.get? j = t.pre.jobs.get? j

theorem leavesAlone_run (run : Run DaemonOp.Step d ts d') (alone : ∀ t ∈ ts, LeavesAlone a j t) :
    d'.stateOf a = d.stateOf a ∧ d'.jobs.get? j = d.jobs.get? j := by
  induction run with
  | nil => exact ⟨rfl, rfl⟩
  | cons first rest ih =>
    obtain ⟨state, row⟩ := alone _ List.mem_cons_self
    obtain ⟨states, rows⟩ := ih fun t ht => alone t (List.mem_cons_of_mem _ ht)
    exact ⟨states.trans state, rows.trans row⟩

/-- The signal is an event, and nothing it brings holds it up. -/
def Signal.Clear (env : CompletionEnv) (d : Db) (a : String) (agent : Agent) (j : String)
    (job : Job) : Signal → Prop
  | marker => False
  | hook provider _ _ reply expected => EventClear env d a provider reply expected agent j job
  | log provider reply _ _ _ => EventClear env d a provider reply none agent j job

/-- The signal puts the agent to IDLE and the job to COMPLETED, with the reply it delivers. -/
def Signal.Delivers (env : CompletionEnv) (d : Db) (a : String) (now : Int) (j : String)
    (job : Job) (s : Signal) : Prop :=
  (s.apply env d a now).stateOf a = some .idle ∧
    ((s.apply env d a now).jobs.get? j).map (fun row => (row.status, row.replyText)) =
      some (.completed, some (s.replyText env d a job))

theorem Signal.Clear.settles (clear : s.Clear env d a agent j job)
    (found : d.agents.get? a = some agent) (accepted : acceptsEventCompletion d a agent = true)
    (dispatched : queryDispatchedJobForAgentSync d a = some (j, job)) :
    s.Settles env d a agent j job := by
  cases s with
  | marker => exact clear.elim
  | hook =>
    exact ⟨⟨found, accepted, dispatched, clear.evidence, clear.terminal⟩, clear.version⟩
  | log =>
    exact ⟨found, accepted, dispatched, clear.evidence, clear.terminal⟩

theorem Signal.Settles.accepted (h : s.Settles env d a agent j job) (event : s ≠ .marker) :
    acceptsEventCompletion d a agent = true := by
  cases s with
  | marker => exact absurd rfl event
  | hook => exact h.1.accepted
  | log => exact EventSettles.accepted h

theorem Signal.Settles.delivers (h : s.Settles env d a agent j job)
    (uncancelled : job.cancelRequested = false) (now : Int) : s.Delivers env d a now j job := by
  obtain ⟨row, -, -⟩ := queryDispatchedJobForAgentSync_some h.dispatched
  have settled := h.settled now
  rw [uncancelled] at settled
  constructor
  · simp [Db.stateOf, settled.agents, h.found]
  · simp [settled.jobs, row, JobStatus.settled]

theorem acceptsEventCompletion_of_stuck (stuck : agent.state = .stuck)
    (head : queryDispatchedJobForAgentSync d a = some (j, job)) :
    acceptsEventCompletion d a agent = lateHealthCompletionStuckAllowsTerminal d a j := by
  simp [acceptsEventCompletion, stuck, head]

/-- A transition that leaves alone the line of the agent's dispatched jobs and its newest change of
state. -/
def Undisturbed (a : String) (t : Transition Db DaemonOp) : Prop :=
  dispatchedJobs t.post a = dispatchedJobs t.pre a ∧
    latestStateChange t.post a = latestStateChange t.pre a

theorem undisturbed_run (run : Run DaemonOp.Step d ts d') (still : ∀ t ∈ ts, Undisturbed a t) :
    dispatchedJobs d' a = dispatchedJobs d a ∧ latestStateChange d' a = latestStateChange d a := by
  induction run with
  | nil => exact ⟨rfl, rfl⟩
  | cons first rest ih =>
    obtain ⟨line, change⟩ := still _ List.mem_cons_self
    obtain ⟨lines, changes⟩ := ih fun t ht => still t (List.mem_cons_of_mem _ ht)
    exact ⟨lines.trans line, changes.trans change⟩

/-- The report of a dead completion layer names the first dispatched job and no other. -/
theorem allowsTerminal_of_report {result : HealthCheckResult}
    (report : latestStateChange d o.agentId = some (d.reportOf o result))
    (dead : HealthLayer.completion ∈ result.deadLayers)
    (first : queryDispatchedJobForAgentSync d o.agentId = some (j, job)) :
    lateHealthCompletionStuckAllowsTerminal d o.agentId j = true := by
  have reason : (d.reportOf o result).strField? "reason" = some "HEALTH_CHECK_STUCK" := rfl
  have kinds : ((d.reportOf o result).get? "signal_kinds").bind Json.asArray? =
      some (result.deadLayers.map fun layer => .str ("health:" ++ layer.asStr)) := rfl
  have named : (d.reportOf o result).strField? "job_id" = some j := by
    rw [Db.reportOf, first]
    rfl
  simp only [lateHealthCompletionStuckAllowsTerminal, checkLateCompletionEvidence, report, reason,
    kinds, named, Option.any_some, List.any_map, beq_self_eq_true, Bool.and_true, Bool.true_and]
  exact List.any_eq_true.mpr ⟨_, dead, rfl⟩

/-- The event finds a STUCK agent, so it completes a job just if the late rule is open for it. -/
theorem delivers_stuck_iff (found : d.agents.get? a = some agent) (stuck : agent.state = .stuck)
    (row : d.jobs.get? j = some job) (new : job.status ≠ .completed)
    (clear : s.Clear env d a agent j job) (now : Int) :
    s.Delivers env d a now j job ↔ queryDispatchedJobForAgentSync d a = some (j, job) ∧
      lateHealthCompletionStuckAllowsTerminal d a j = true ∧ job.cancelRequested = false := by
  constructor
  · rintro ⟨-, completed⟩
    have reached : (s.apply env d a now).statusOf j = some .completed := by
      obtain ⟨row', hrow', e⟩ := Option.map_eq_some_iff.mp completed
      simp [Db.statusOf, hrow', (Prod.mk.inj e).1]
    have new' : d.statusOf j ≠ some .completed := by simpa [Db.statusOf, row] using new
    obtain ⟨agent', job', h, settled⟩ := (Signal.reaches_iff now new').mp reached
    obtain ⟨row', -, -⟩ := queryDispatchedJobForAgentSync_some h.dispatched
    cases found.symm.trans h.found
    cases row.symm.trans row'
    have event : s ≠ .marker := by
      rintro rfl
      exact clear
    refine ⟨h.dispatched, ?_, ?_⟩
    · rw [← acceptsEventCompletion_of_stuck stuck h.dispatched]
      exact h.accepted event
    · cases e : job.cancelRequested <;> simp [e, JobStatus.settled] at settled ⊢
  · rintro ⟨dispatched, allowed, uncancelled⟩
    have accepted : acceptsEventCompletion d a agent = true := by
      rw [acceptsEventCompletion_of_stuck stuck dispatched]
      exact allowed
    exact (clear.settles found accepted dispatched).delivers uncancelled now

/-- A late event never completes the job that the agent worked on when it was given up. Another
dispatched job it completes just if that was the second in line, is not to be cancelled, and
neither the line nor the newest change of the agent's state was touched since. -/
theorem delivers_late_iff {detect : String → String → Bool} {o : HealthCheckObservation}
    {threshold t now : Int} {d d₁ d₂ : Db} {n : Nat} {j : String} {s : Signal}
    {env : CompletionEnv} {agent : Agent} {job : Job} {ts : List (Transition Db DaemonOp)}
    (escalated : EscalatesToStuck detect o threshold t d n d₁) (owned : d.Owns o.agentId j)
    (afterwards : Run DaemonOp.Step d₁ ts d₂) (alone : ∀ t ∈ ts, LeavesAlone o.agentId j t)
    (found : d₂.agents.get? o.agentId = some agent) (row : d₂.jobs.get? j = some job)
    (clear : s.Clear env d₂ o.agentId agent j job) :
    (∀ current, queryDispatchedJobForAgentSync d o.agentId = some (j, current) →
      ¬s.Delivers env d₂ o.agentId now j job) ∧
    ((∀ t ∈ ts, Undisturbed o.agentId t) → (s.Delivers env d₂ o.agentId now j job ↔
      (dispatchedJobs d o.agentId)[1]? = some (j, job) ∧ job.cancelRequested = false)) := by
  obtain ⟨state, rows⟩ := leavesAlone_run afterwards alone
  have stuck : agent.state = .stuck := by
    rw [escalated.stuck, Db.stateOf, found] at state
    exact Option.some.inj state
  obtain ⟨k, head, first, failed, line, others⟩ := escalated.fails owned
  rw [row] at rows
  have status : job.status = if j = k then .failed else .dispatched := by
    split
    · rename_i e
      rw [e] at rows
      simpa [Db.statusOf, ← rows] using failed
    · rename_i e
      obtain ⟨stored, dispatched⟩ := owned.imp fun _ h => And.intro h.1 h.2.2
      rw [others j e] at rows
      cases rows.trans dispatched.1
      exact dispatched.2
  have new : job.status ≠ .completed := by
    rw [status]
    split <;> simp
  have late := delivers_stuck_iff found stuck row new clear now
  constructor
  · intro current own delivered
    cases first.symm.trans own
    have dispatched := (queryDispatchedJobForAgentSync_some (late.mp delivered).1).2.2
    simp [status] at dispatched
  · intro still
    obtain ⟨lines, changes⟩ := undisturbed_run afterwards still
    have second : queryDispatchedJobForAgentSync d₂ o.agentId = (dispatchedJobs d o.agentId)[1]? := by
      rw [queryDispatchedJobForAgentSync, lines, line, List.head?_tail]
    rw [late, second]
    refine and_congr_right fun next => and_iff_right ?_
    obtain ⟨-, -, -, -, -, report⟩ := escalated.marked
    have report₂ : latestStateChange d₂ o.agentId =
        some (d₂.reportOf o (healthCheckObserve detect o threshold)) := by
      rw [changes, report, Db.reportOf, Db.reportOf, queryDispatchedJobForAgentSync,
        queryDispatchedJobForAgentSync, lines]
    exact allowsTerminal_of_report report₂ escalated.completionDead (second.trans next)

/-- The agent's pane is gone and its last progress too long ago. -/
def silentPane : HealthCheckObservation where
  agentId := "a1"
  provider := "claude"
  state := .waitingForAck
  paneCapture := ""
  paneCaptureOk := false
  lastOutputTs := none
  lastMarkerTs := none
  dispatchedAt := some 4
  nowTs := 1000

/-- An agent that was taken for idle while it worked on `j1`, and got `j2` as well. -/
def twoJobsDb : Db :=
  List.foldl DaemonOp.apply Db.oneSession
    [.insertAgent "a1" "s1" "claude" none 1, .db (.markUnknown "a1" "lost" "e1" 2),
      .db (.assertIdle "a1" "e1" 2), .db (.insertJob "j1" "a1" none "task" 3),
      .db (.dispatchQueuedJob "a1" 4), .db (.assertIdle "a1" "e1" 5),
      .db (.insertJob "j2" "a1" none "next" 6), .db (.dispatchQueuedJob "a1" 7)]

/-- The first job fails for good, and the second completes. -/
theorem delivers_late_second :
    ∃ n d₁ lost job, EscalatesToStuck (fun _ _ => true) silentPane 300 1000 twoJobsDb n d₁ ∧
      ¬(Signal.log "claude" (some "done") "" 0 none).Delivers .blank d₁ "a1" 1001 "j1" lost ∧
      (Signal.log "claude" (some "done") "" 0 none).Delivers .blank d₁ "a1" 1001 "j2" job := by
  obtain ⟨n, d₁, ran, stuck, ⟨lost, failed, free⟩, job, row, evidence, next, uncancelled⟩ :=
    Ends.exists_ok (m := escalateHealthStuck (fun _ _ => true) silentPane 300 1000) (s := twoJobsDb)
      (P := fun d₁ => d₁.stateOf "a1" = some .stuck ∧ (∃ lost ∈ d₁.jobs.get? "j1",
          evidenceDenialForJob d₁ "a1" "j1" lost = none) ∧
        ∃ job ∈ d₁.jobs.get? "j2", evidenceDenialForJob d₁ "a1" "j2" job = none ∧
          (dispatchedJobs twoJobsDb "a1")[1]? = some ("j2", job) ∧
          job.cancelRequested = false) (by decide +kernel)
  obtain ⟨agent, found, -⟩ := Option.map_eq_some_iff.mp stuck
  have escalated : EscalatesToStuck (fun _ _ => true) silentPane 300 1000 twoJobsDb n d₁ :=
    ⟨ran, .inr (by decide +kernel), stuck, by decide +kernel⟩
  have owned : ∀ j ∈ ["j1", "j2"], twoJobsDb.Owns "a1" j := by
    simp only [List.forall_mem_cons]
    exact ⟨⟨_, rfl, by decide +kernel, by decide +kernel⟩,
      ⟨_, rfl, by decide +kernel, by decide +kernel⟩, nofun⟩
  obtain ⟨current, first⟩ :
      ∃ current, queryDispatchedJobForAgentSync twoJobsDb "a1" = some ("j1", current) := ⟨_, rfl⟩
  have terminal : classifyTerminality "claude" "done" none = .terminal := by decide +kernel
  have clear {j job} (evidence : evidenceDenialForJob d₁ "a1" j job = none) :
      (Signal.log "claude" (some "done") "" 0 none).Clear .blank d₁ "a1" agent j job :=
    ⟨rfl, evidenceDenialForJob_eq_none.mp evidence, terminal⟩
  refine ⟨n, d₁, lost, job, escalated, ?_, ?_⟩
  · exact (delivers_late_iff escalated (owned "j1" (by simp)) (.nil d₁) (List.forall_mem_nil _)
      found failed (clear free)).1 current first
  · exact ((delivers_late_iff escalated (owned "j2" (by simp)) (.nil d₁) (List.forall_mem_nil _)
      found row (clear evidence)).2 (List.forall_mem_nil _)).mpr ⟨next, uncancelled⟩

/-- An agent at work on its only job. -/
def oneJobDb : Db := firstDispatch.foldl DaemonOp.apply Db.oneSession

/-- The only job is failed before it is reported, and the event that completes it is
swallowed. -/
theorem not_delivers_late_only :
    ¬∀ (detect : String → String → Bool) (o : HealthCheckObservation) (threshold t now : Int)
      (d d₁ d₂ : Db) (n : Nat) (j : String) (s : Signal) (env : CompletionEnv) (agent : Agent)
      (current job : Job) (ts : List (Transition Db DaemonOp)),
      EscalatesToStuck detect o threshold t d n d₁ →
      queryDispatchedJobForAgentSync d o.agentId = some (j, current) →
      Run DaemonOp.Step d₁ ts d₂ → (∀ t ∈ ts, LeavesAlone o.agentId j t) →
      d₂.agents.get? o.agentId = some agent → d₂.jobs.get? j = some job →
      s.Clear env d₂ o.agentId agent j job → s.Delivers env d₂ o.agentId now j job := by
  intro h
  obtain ⟨n, d₁, ran, stuck, agent, found, job, row, evidence, swallowed⟩ :=
    Ends.exists_ok (m := escalateHealthStuck (fun _ _ => true) silentPane 300 1000) (s := oneJobDb)
      (P := fun d₁ => d₁.stateOf "a1" = some .stuck ∧ ∃ agent ∈ d₁.agents.get? "a1",
        ∃ job ∈ d₁.jobs.get? "j1", evidenceDenialForJob d₁ "a1" "j1" job = none ∧
          (Signal.apply .blank d₁ "a1" 1001 (.log "claude" (some "done") "" 0 none)).stateOf "a1" =
            some .stuck) (by decide +kernel)
  have escalated : EscalatesToStuck (fun _ _ => true) silentPane 300 1000 oneJobDb n d₁ :=
    ⟨ran, .inr (by decide +kernel), stuck, by decide +kernel⟩
  obtain ⟨current, head⟩ :
      ∃ current, queryDispatchedJobForAgentSync oneJobDb "a1" = some ("j1", current) := ⟨_, rfl⟩
  have terminal : classifyTerminality "claude" "done" none = .terminal := by decide +kernel
  have clear : (Signal.log "claude" (some "done") "" 0 none).Clear .blank d₁ "a1" agent "j1" job :=
    ⟨rfl, evidenceDenialForJob_eq_none.mp evidence, terminal⟩
  have idle := (h _ _ _ _ 1001 _ _ _ _ _ _ _ agent current job [] escalated head (.nil d₁)
    (List.forall_mem_nil _) found row clear).1
  cases swallowed.symm.trans idle

end Ccbd
