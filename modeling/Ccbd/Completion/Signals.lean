import Ccbd.Audit.Operations

/-!
# Completion signals

The marker, the hook event and the log event end the work of an agent. Each makes its
checks and then settles the dispatched job: as COMPLETED, or as CANCELLED if a cancel was
asked for. Two consequences of the order of the checks: evidence that was discarded still
opens the gate, and a requested cancel waits for evidence and for background work.
-/

namespace Ccbd

open Lib Reply

/-- A completion signal with what it carries besides the agent. -/
inductive Signal where
  | marker
  | hook (provider hookEvent : String) (eventId reply : Option String)
      (expectedStateVersion : Option Int)
  | log (provider : String) (reply : Option String) (rawPath : String) (rawOffset : Nat)
      (providerTurnId : Option String)

namespace Signal

/-- The operation that handles the signal. -/
def op (env : CompletionEnv) (a : String) (now : Int) : Signal → DbOp
  | marker => .markerMatched env a now
  | hook provider event eventId reply expected =>
    .hookEvent env a provider event eventId reply expected now
  | log provider reply path offset turn => .logEvent env a provider reply path offset turn now

/-- The database after the signal. -/
def apply (env : CompletionEnv) (d : Db) (a : String) (now : Int) (s : Signal) : Db :=
  (s.op env a now).apply d

def subState : Signal → String
  | marker => "Matched"
  | hook .. => "HookEvent"
  | log .. => "LogEvent"

/-- The text that becomes the reply of the job. -/
def replyText (env : CompletionEnv) (d : Db) (a : String) (job : Job) : Signal → String
  | marker => collectReplyForDispatchedJobSync env d a job.dispatchedAtSeqId job.promptText
  | hook _ _ _ reply _ | log _ reply _ _ _ =>
    reply.getD (collectReplyForDispatchedJobSync env d a job.dispatchedAtSeqId job.promptText)

/-- The checks the signal makes before it settles the job. -/
def Settles (env : CompletionEnv) (d : Db) (a : String) (agent : Agent) (j : String) (job : Job) :
    Signal → Prop
  | marker => MarkerSettles env d a agent j job
  | hook provider _ _ reply expected => EventSettles env d a provider reply agent j job ∧
      expected.getD agent.stateVersion = agent.stateVersion
  | log provider reply _ _ _ => EventSettles env d a provider reply agent j job

variable {s : Signal} {env : CompletionEnv} {d : Db} {a j : String} {agent : Agent} {job : Job}

theorem Settles.dispatched (h : s.Settles env d a agent j job) :
    queryDispatchedJobForAgentSync d a = some (j, job) := by
  cases s with
  | marker => exact MarkerSettles.dispatched h
  | hook => exact h.1.dispatched
  | log => exact EventSettles.dispatched h

theorem Settles.found (h : s.Settles env d a agent j job) : d.agents.get? a = some agent := by
  cases s with
  | marker => exact MarkerSettles.found h
  | hook => exact h.1.found
  | log => exact EventSettles.found h

theorem Settles.settled (h : s.Settles env d a agent j job) (now : Int) :
    Settled d a s.subState j (s.replyText env d a job) job.cancelRequested now
      (s.apply env d a now) := by
  cases s with
  | marker =>
    obtain ⟨d', ok, settled⟩ := MarkerSettles.succeeds h "MARKER_MATCHED" now
    have after : apply env d a now marker = d' := by
      rw [apply, op, DbOp.apply, markAgentIdleMatchedOutcomeSync, ok, commit]
    rwa [after]
  | hook provider event eventId reply expected =>
    obtain ⟨d', ok, settled⟩ := h.1.succeeds h.2 "hook" "HookEvent" _ now
    have after : apply env d a now (hook provider event eventId reply expected) = d' := by
      rw [apply, op, DbOp.apply, markAgentIdleHookEventOutcomeSync_eq, ok, commit]
    rwa [after]
  | log provider reply path offset turn =>
    obtain ⟨d', ok, settled⟩ := EventSettles.succeeds h Option.getD_none "log" "LogEvent" _ now
    have after : apply env d a now (log provider reply path offset turn) = d' := by
      rw [apply, op, DbOp.apply, markAgentIdleLogEventOutcomeSync_eq, ok, commit]
    rwa [after]

/-- A signal changes jobs only if it passes its checks. -/
theorem jobs_eq_or_settles (s : Signal) (env : CompletionEnv) (d : Db) (a : String) (now : Int) :
    (s.apply env d a now).jobs = d.jobs ∨ ∃ agent j job, s.Settles env d a agent j job := by
  cases s with
  | marker =>
    refine commit_induction (P := fun d' => d'.jobs = d.jobs ∨ _) (.inl rfl) fun r d' ok => ?_
    rcases (markAgentIdleMatchedOutcomeSyncInner_cases ok).jobs with same | ⟨agent, j, job, h, -⟩
    · exact .inl same
    · exact .inr ⟨agent, j, job, h⟩
  | hook provider event eventId reply expected =>
    refine commit_induction (P := fun d' => d'.jobs = d.jobs ∨ _) (.inl rfl) fun r d' ok => ?_
    rw [markAgentIdleHookEventOutcomeSync_eq] at ok
    rcases (markAgentIdleEventOutcome_cases ok).jobs with same | ⟨agent, j, job, h, -, version⟩
    · exact .inl same
    · exact .inr ⟨agent, j, job, h, version⟩
  | log provider reply path offset turn =>
    refine commit_induction (P := fun d' => d'.jobs = d.jobs ∨ _) (.inl rfl) fun r d' ok => ?_
    rw [markAgentIdleLogEventOutcomeSync_eq] at ok
    rcases (markAgentIdleEventOutcome_cases ok).jobs with same | ⟨agent, j, job, h, -⟩
    · exact .inl same
    · exact .inr ⟨agent, j, job, h⟩

theorem Settles.statusOf (h : s.Settles env d a agent j job) (now : Int) :
    (s.apply env d a now).statusOf j = some (.settled job.cancelRequested) := by
  obtain ⟨found, -, -⟩ := queryDispatchedJobForAgentSync_some h.dispatched
  simp [Db.statusOf, (h.settled now).jobs, found]

theorem reaches_iff (now : Int) (new : d.statusOf j ≠ some t) :
    (s.apply env d a now).statusOf j = some t ↔
      ∃ agent job, s.Settles env d a agent j job ∧ .settled job.cancelRequested = t := by
  constructor
  · intro reached
    rcases jobs_eq_or_settles s env d a now with same | ⟨agent, k, job, h⟩
    · have unchanged : (s.apply env d a now).statusOf j = d.statusOf j := by
        simp [Db.statusOf, same]
      exact absurd (unchanged.symm.trans reached) new
    · by_cases e : j = k
      · subst e
        exact ⟨agent, job, h, Option.some.inj ((h.statusOf now).symm.trans reached)⟩
      · have unchanged : (s.apply env d a now).statusOf j = d.statusOf j := by
          simp [Db.statusOf, (h.settled now).jobs, Table.get?_modify_of_ne, e]
        exact absurd (unchanged.symm.trans reached) new
  · rintro ⟨agent, job, h, rfl⟩
    exact h.statusOf now

end Signal

/-! ## The evidence gate -/

/-- Nobody has discarded the evidence. -/
def Evidence.Live (e : Evidence) : Prop :=
  e.status ≠ "DISCARDED"

theorem Db.evidenced_of_evidence {counts : Evidence → Prop} {d d' : Db}
    (same : d'.evidence = d.evidence) :
    d'.Evidenced counts a j job ↔ d.Evidenced counts a j job := by
  have rows (types : List String) : d'.HasEvidence counts a j types ↔ d.HasEvidence counts a j types
    := by rw [Db.HasEvidence, same, Db.HasEvidence]
  constructor
  · rintro ⟨physical, test⟩
    exact ⟨fun required => (rows _).mp (physical required),
      fun required => (rows _).mp (test required)⟩
  · rintro ⟨physical, test⟩
    exact ⟨fun required => (rows _).mpr (physical required),
      fun required => (rows _).mpr (test required)⟩

/-- The signal completes the job only on evidence. -/
def Signal.Gated (env : CompletionEnv) (d : Db) (a : String) (now : Int) (j : String)
    (s : Signal) : Prop :=
  ∀ job, d.jobs.get? j = some job → job.status ≠ .completed →
    (s.apply env d a now).statusOf j = some .completed →
    (s.apply env d a now).Evidenced Evidence.Live job.agentId j job

/-- The gate holds exactly if a signal that passes the checks, and so finds rows of evidence of
each required kind, finds some among them that were not discarded. -/
theorem gated_iff (s : Signal) (env : CompletionEnv) (d : Db) (a : String) (now : Int)
    (j : String) :
    s.Gated env d a now j ↔ ∀ agent job, s.Settles env d a agent j job →
      job.cancelRequested = false → d.Evidenced Evidence.Live job.agentId j job := by
  constructor
  · intro gated agent job h uncancelled
    obtain ⟨found, -, dispatched⟩ := queryDispatchedJobForAgentSync_some h.dispatched
    have completed : (s.apply env d a now).statusOf j = some .completed := by
      rw [h.statusOf now, uncancelled]
      rfl
    have evidenced := gated job found (by simp [dispatched]) completed
    exact (Db.evidenced_of_evidence (h.settled now).evidence).mp evidenced
  · intro live job found new completed
    have before : d.statusOf j ≠ some .completed := by simpa [Db.statusOf, found] using new
    obtain ⟨agent, job', h, settled⟩ := (Signal.reaches_iff now before).mp completed
    obtain ⟨found', -, -⟩ := queryDispatchedJobForAgentSync_some h.dispatched
    cases found.symm.trans found'
    have uncancelled : job.cancelRequested = false := by
      cases e : job.cancelRequested <;> simp [e, JobStatus.settled] at settled ⊢
    exact (Db.evidenced_of_evidence (h.settled now).evidence).mpr (live agent job h uncancelled)

/-- A job that requires physical evidence, and the only evidence for it discarded. -/
def discardedDb : Db :=
  List.foldl DaemonOp.apply Db.oneSession
    [.insertAgent "a1" "s1" "claude" none 1, .learnedReadiness "a1" 2,
      .db (.insertJob "j1" "a1" none "task" 3), .db (.setEvidenceRequirements "j1" true false),
      .db (.dispatchQueuedJob "a1" 4),
      .recordEvidence "e1" "a1" (some "j1") "diff_generated" .null 5, .discardEvidence "e1"]

theorem not_gated_discarded :
    ¬∀ (s : Signal) (env : CompletionEnv) (d : Db) (a : String) (now : Int) (j : String),
      s.Gated env d a now j := by
  intro h
  obtain ⟨job, found, status, required⟩ : ∃ job, discardedDb.jobs.get? "j1" = some job ∧
      job.status ≠ .completed ∧ job.requiresPhysicalEvidence = true :=
    ⟨_, rfl, by decide +kernel, by decide +kernel⟩
  have completed : (Signal.apply .blank discardedDb "a1" 6
      (.log "claude" (some "done") "" 0 none)).statusOf "j1" = some .completed := by
    decide +kernel
  have discarded : ∀ row ∈ (Signal.apply .blank discardedDb "a1" 6
      (.log "claude" (some "done") "" 0 none)).evidence.rows, row.2.status = "DISCARDED" := by
    decide +kernel
  obtain ⟨row, mem, -, -, -, live⟩ :=
    (h _ .blank discardedDb "a1" 6 "j1" job found status completed).physical required
  exact live (discarded row mem)

/-! ## A requested cancel -/

/-- The signal puts the agent to IDLE and the job to CANCELLED. -/
def Signal.Cancels (env : CompletionEnv) (d : Db) (a : String) (now : Int) (j : String)
    (s : Signal) : Prop :=
  ((s.apply env d a now).agents.get? a).map (·.state) = some .idle ∧
    (s.apply env d a now).statusOf j = some .cancelled

/-- Nothing the event brings holds it up: neither the expected version nor the evidence nor
background work. -/
structure EventClear (env : CompletionEnv) (d : Db) (a provider : String)
    (reply : Option String) (expected : Option Int) (agent : Agent) (j : String) (job : Job) :
    Prop where
  version : expected.getD agent.stateVersion = agent.stateVersion
  evidence : d.Evidenced (fun _ => True) a j job
  terminal : classifyTerminality provider (reply.getD (collectReplyForDispatchedJobSync env d a
    job.dispatchedAtSeqId job.promptText)) (env.pendingTasks agent.sessionId a provider) = .terminal

/-- What an event completion of a working agent checks before it looks at the request. -/
structure EventUnhindered (env : CompletionEnv) (d : Db) (a provider : String)
    (reply : Option String) (expected : Option Int) (agent : Agent) (j : String) (job : Job) : Prop
    extends EventClear env d a provider reply expected agent j job where
  dispatched : queryDispatchedJobForAgentSync d a = some (j, job)

def Signal.Unhindered (env : CompletionEnv) (d : Db) (a : String) (agent : Agent) (j : String)
    (job : Job) : Signal → Prop
  | marker => MarkerSettles env d a agent j job
  | hook provider _ _ reply expected => EventUnhindered env d a provider reply expected agent j job
  | log provider reply _ _ _ => EventUnhindered env d a provider reply none agent j job

theorem Signal.settles_iff_unhindered {s : Signal} (found : d.agents.get? a = some agent)
    (working : agent.state = .waitingForAck ∨ agent.state = .busy) :
    s.Settles env d a agent j job ↔ s.Unhindered env d a agent j job := by
  have accepted : acceptsEventCompletion d a agent = true := by
    rcases working with e | e <;> simp [acceptsEventCompletion, e]
  cases s with
  | marker => exact Iff.rfl
  | hook =>
    constructor
    · rintro ⟨h, version⟩
      exact ⟨⟨version, h.evidence, h.terminal⟩, h.dispatched⟩
    · intro h
      exact ⟨⟨found, accepted, h.dispatched, h.evidence, h.terminal⟩, h.version⟩
  | log =>
    constructor
    · intro h
      exact ⟨⟨rfl, h.evidence, h.terminal⟩, h.dispatched⟩
    · intro h
      exact ⟨found, accepted, h.dispatched, h.evidence, h.terminal⟩

/-- A requested cancel is honoured exactly if nothing that is checked before it holds the
signal up. -/
theorem cancels_iff {s : Signal} {env : CompletionEnv} {d : Db} {a j : String} {agent : Agent}
    {job : Job} (found : d.agents.get? a = some agent)
    (working : agent.state = .waitingForAck ∨ agent.state = .busy)
    (owned : d.jobs.get? j = some job) (dispatched : job.status = .dispatched)
    (requested : job.cancelRequested = true) (now : Int) :
    s.Cancels env d a now j ↔ s.Unhindered env d a agent j job := by
  have before : d.statusOf j ≠ some .cancelled := by simp [Db.statusOf, owned, dispatched]
  rw [← Signal.settles_iff_unhindered found working]
  constructor
  · rintro ⟨-, cancelled⟩
    obtain ⟨agent', job', h, -⟩ := (Signal.reaches_iff now before).mp cancelled
    obtain ⟨owned', -, -⟩ := queryDispatchedJobForAgentSync_some h.dispatched
    cases found.symm.trans h.found
    cases owned.symm.trans owned'
    exact h
  · intro h
    refine ⟨?_, ?_⟩
    · simp [(h.settled now).agents, found]
    · rw [h.statusOf now, requested]
      rfl

/-- A dispatched job whose cancel is requested, with or without evidence required. -/
def cancelRequestedDb (physical : Bool) : Db :=
  List.foldl DaemonOp.apply Db.oneSession
    [.insertAgent "a1" "s1" "claude" none 1, .learnedReadiness "a1" 2,
      .db (.insertJob "j1" "a1" none "task" 3), .db (.setEvidenceRequirements "j1" physical false),
      .db (.dispatchQueuedJob "a1" 4), .db (.requestCancel "j1" 5)]

theorem cancels_iff_log :
    (Signal.log "claude" (some "stopped") "" 0 none).Cancels .blank (cancelRequestedDb false) "a1" 6
      "j1" := by
  obtain ⟨agent, job, found, working, owned, dispatched, requested, query, evidence⟩ :
      ∃ agent job, (cancelRequestedDb false).agents.get? "a1" = some agent ∧
        (agent.state = .waitingForAck ∨ agent.state = .busy) ∧
        (cancelRequestedDb false).jobs.get? "j1" = some job ∧ job.status = .dispatched ∧
        job.cancelRequested = true ∧
        queryDispatchedJobForAgentSync (cancelRequestedDb false) "a1" = some ("j1", job) ∧
        evidenceDenialForJob (cancelRequestedDb false) "a1" "j1" job = none :=
    ⟨_, _, rfl, .inl (by decide +kernel), rfl, by decide +kernel, by decide +kernel,
      by decide +kernel, by decide +kernel⟩
  have terminal : classifyTerminality "claude" "stopped" none = .terminal := by decide +kernel
  have unhindered : (Signal.log "claude" (some "stopped") "" 0 none).Unhindered .blank
      (cancelRequestedDb false) "a1" agent "j1" job :=
    ⟨⟨rfl, evidenceDenialForJob_eq_none.mp evidence, terminal⟩, query⟩
  exact (cancels_iff found working owned dispatched requested 6).mpr unhindered

/-- Missing evidence keeps a job DISPATCHED whose cancel was requested. -/
theorem not_cancels_denied :
    ¬∀ (s : Signal) (env : CompletionEnv) (d : Db) (a j : String) (agent : Agent) (job : Job)
      (now : Int), d.agents.get? a = some agent →
      (agent.state = .waitingForAck ∨ agent.state = .busy) → d.jobs.get? j = some job →
      job.agentId = a → job.status = .dispatched → job.cancelRequested = true →
      s ≠ .marker → s.Cancels env d a now j := by
  intro h
  obtain ⟨agent, job, found, working, owned, owner, dispatched, requested⟩ :
      ∃ agent job, (cancelRequestedDb true).agents.get? "a1" = some agent ∧
        (agent.state = .waitingForAck ∨ agent.state = .busy) ∧
        (cancelRequestedDb true).jobs.get? "j1" = some job ∧ job.agentId = "a1" ∧
        job.status = .dispatched ∧ job.cancelRequested = true :=
    ⟨_, _, rfl, .inl (by decide +kernel), rfl, by decide +kernel, by decide +kernel,
      by decide +kernel⟩
  have cancelled := (h (.log "claude" (some "stopped") "" 0 none) .blank _ _ _ agent job 6 found
    working owned owner dispatched requested nofun).2
  have stays : (Signal.apply .blank (cancelRequestedDb true) "a1" 6
      (.log "claude" (some "stopped") "" 0 none)).statusOf "j1" = some .dispatched := by
    decide +kernel
  cases cancelled

/-! ## The same transition by a hook and by a log line -/

/-- The rows agree, up to the `sub_state` of an agent and to the payload of a state change
that both logs end with. -/
structure Db.SameBut (d₁ d₂ : Db) : Prop where
  agents : ∀ a, (d₁.agents.get? a).map ({ · with subState := none }) =
    (d₂.agents.get? a).map ({ · with subState := none })
  jobs : d₁.jobs = d₂.jobs
  jobTransitions : d₁.jobTransitions = d₂.jobTransitions
  events : d₁.events = d₂.events ∨ ∃ (log : AutoTable Event) (row : Event) (p₁ p₂ : Json),
    row.eventType = "state_change" ∧ d₁.events = log.append { row with payload := p₁ } ∧
      d₂.events = log.append { row with payload := p₂ }

theorem Db.SameBut.refl (d : Db) : d.SameBut d := ⟨fun _ => rfl, rfl, rfl, .inl rfl⟩

/-- Both are refused with one error, or both return the same and leave the same rows. -/
inductive SameTransition {α : Type} :
    Except CcbdError (α × Db) → Except CcbdError (α × Db) → Prop
  | refused (e : CcbdError) : SameTransition (.error e) (.error e)
  | done (r : α) {d₁ d₂ : Db} (same : d₁.SameBut d₂) : SameTransition (.ok (r, d₁)) (.ok (r, d₂))

theorem transitJobState_modifyAgent (d : Db) (a : String) (f : Agent → Agent) (j : String)
    (source target : JobStatus) (reason : String) (now : Int) :
    transitJobState (d.modifyAgent a f) j source target reason now =
      (transitJobState d j source target reason now).map (·.modifyAgent a f) := by
  have late : ∀ b, checkLateCompletionEvidence (d.modifyAgent a f) b j =
      checkLateCompletionEvidence d b j := fun _ => rfl
  rw [transitJobState, transitJobState, Db.modifyAgent_jobs]
  cases d.jobs.get? j with
  | none => rfl
  | some job =>
    simp only [late]
    split_ifs
    · rfl
    · rfl
    · rfl
    · simp only [recordJobTransition, Db.modifyJob, Db.modifyAgent]
      split <;> rfl

theorem settleIfAny_modifyAgent (d : Db) (a : String) (f : Agent → Agent)
    (settlement : Option Settlement) (now : Int) :
    settleIfAny (d.modifyAgent a f) settlement now =
      (settleIfAny d settlement now).map (·.modifyAgent a f) := by
  have settle : ∀ j reply target reason,
      (settleDispatchedJob (d.modifyAgent a f) j reply target reason now).map Prod.snd =
        ((settleDispatchedJob d j reply target reason now).map Prod.snd).map
          (·.modifyAgent a f) := by
    intro j reply target reason
    rw [settleDispatchedJob, settleDispatchedJob, Db.modifyAgent_jobs]
    cases d.jobs.get? j with
    | none => rfl
    | some job =>
      dsimp only
      split_ifs
      · have swap : (d.modifyAgent a f).modifyJob j (·.setReplyText reply) =
            (d.modifyJob j (·.setReplyText reply)).modifyAgent a f := rfl
        rw [swap, transitJobState_modifyAgent]
        cases transitJobState (d.modifyJob j (·.setReplyText reply)) j .dispatched target reason now
        · rfl
        · rfl
      · rfl
  cases settlement with
  | none => rfl
  | some s =>
    rw [settleIfAny, settleIfAny, Settlement.apply, Settlement.apply]
    split_ifs
    · exact settle ..
    · exact settle ..

theorem Db.SameBut.of_enterSub (d : Db) (a sub₁ sub₂ : String) (p₁ p₂ : Json) (now : Int) :
    Db.SameBut ((d.modifyAgent a (·.enterSub .idle sub₁ now)).appendEvent a "state_change" p₁ now)
      ((d.modifyAgent a (·.enterSub .idle sub₂ now)).appendEvent a "state_change" p₂ now) where
  agents b := by
    simp only [Db.appendEvent_agents, Db.modifyAgent, Table.get?_modify]
    split_ifs
    · cases d.agents.get? b <;> rfl
    · rfl
  jobs := rfl
  jobTransitions := rfl
  events := .inr ⟨d.events, ⟨a, none, "state_change", p₁, now⟩, p₁, p₂, rfl, rfl, rfl⟩

theorem markIdleAndSettle_sameTransition (d : Db) (a : String) (states : List AgentState)
    (version : Int) (sub₁ sub₂ : String) (settlement : Option Settlement) (p₁ p₂ : Json)
    (now : Int) :
    SameTransition (markIdleAndSettle d a states version sub₁ settlement p₁ now)
      (markIdleAndSettle d a states version sub₂ settlement p₂ now) := by
  simp only [markIdleAndSettle, settleIfAny_modifyAgent]
  split_ifs
  · cases settleIfAny d settlement now with
    | error e => exact .refused e
    | ok d₁ => exact .done 1 (.of_enterSub ..)
  · exact .done 0 (.refl d)

theorem SameTransition.map {α β : Type} {x y : Except CcbdError (α × Db)} (h : SameTransition x y)
    (f : α → β) : SameTransition (x.map fun r => (f r.1, r.2)) (y.map fun r => (f r.1, r.2)) := by
  cases h with
  | refused e => exact .refused e
  | done r same => exact .done (f r) same

theorem markAgentIdleEventOutcome_sameTransition (env : CompletionEnv) (d : Db)
    (a provider source₁ source₂ : String) (reply : Option String) (expected : Option Int)
    (sub₁ sub₂ : String) (payload₁ payload₂ : AgentState → String → Json) (now : Int) :
    SameTransition
      (markAgentIdleEventOutcome env d a provider source₁ reply expected sub₁ payload₁ now)
      (markAgentIdleEventOutcome env d a provider source₂ reply expected sub₂ payload₂ now) := by
  let outcome (changes : Nat) : MarkerMatchedSyncOutcome := { changes := changes }
  have finish (agent : Agent) (version : Int) (settlement : Option Settlement)
      (text₁ text₂ : String) :=
    (markIdleAndSettle_sameTransition d a [.waitingForAck, .busy, .stuck] version sub₁ sub₂
      settlement (payload₁ agent.state text₁) (payload₂ agent.state text₂) now).map outcome
  unfold markAgentIdleEventOutcome
  split
  · exact .done _ (.refl d)
  split
  · exact .done _ (.refl d)
  dsimp only
  split
  · exact finish ..
  split
  · exact .done _ (.refl _)
  split
  · exact .done _ (.refl _)
  · exact finish ..

/-- A hook event without an expected version and a log event are the same transition. -/
theorem hookEvent_logEvent_sameTransition (env : CompletionEnv) (d : Db)
    (a provider hookEvent : String) (eventId reply : Option String) (rawPath : String)
    (rawOffset : Nat) (providerTurnId : Option String) (now : Int) :
    SameTransition
      (markAgentIdleHookEventOutcomeSync env d a provider hookEvent eventId reply none now)
      (markAgentIdleLogEventOutcomeSync env d a provider reply rawPath rawOffset providerTurnId
        now) := by
  rw [markAgentIdleHookEventOutcomeSync_eq, markAgentIdleLogEventOutcomeSync_eq]
  exact markAgentIdleEventOutcome_sameTransition ..

end Ccbd
