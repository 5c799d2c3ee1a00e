import Ccbd.Orchestrator.RecoveryParts

/-!
# The intents of crashed agents

The crash of a worker stores its recovery intent in the same transaction, and a recovery
whose respawn failed stores it again before it counts the retry. The startup writes CRASHED
without an intent, so a worker that died with the daemon is passed over for ever.
-/

namespace Ccbd

open Lib

/-! ## What has to be stored -/

/-- The agent could be recovered after a crash, but for its intent. -/
def Db.lacksIntent (db : Db) (a : String) : Bool :=
  (db.agents.get? a).any (isRecoveryEligibleProvider ·.provider) &&
    (queryAgentSpawnSpecSync db a).isSome && (queryAgentRecoveryIntentSync db a).isNone

/-- The agent is CRASHED without an intent, whether or not it has a spawn spec. -/
def Db.stranded (db : Db) (a : String) : Bool :=
  (db.agents.get? a).any (fun row => row.state = .crashed &&
    isRecoveryEligibleProvider row.provider) && (queryAgentRecoveryIntentSync db a).isNone

/-- The agent whose row the attempt may have restored and whose intent it has still to store. -/
def RecoveryStage.unstored : RecoveryStage → Option String
  | .finishing x _ steps _ =>
    if .storeIntent ∈ steps ∧ .restoreRow ∉ steps then some x.agentId else none
  | _ => none

/-- The step leaves no CRASHED agent with a spec but without an intent: the startup finds the
agents alive that lack one, no spec is stored for a CRASHED agent without one, the agent is
not moved to CRASHED after it lost it, and the daemon does not die before it is stored. -/
def RecoveryWorld.captures (w : RecoveryWorld) : RecoveryAct → Bool
  | .daemon (.reconcileStartup probe _) => (startupReconcilePhaseASelectCandidates w.db).all
      fun r => !w.db.lacksIntent r.1 || probe.finds r.1 r.2
  | .persistSpawnSpec spec _ _ => !w.db.stranded spec.agentId
  | .restoreKilledWorker _ stored _ => !w.db.stranded stored.spec.agentId
  | .proceed _ _ => match w.stage with
    | .finishing x _ (.enterCrashed :: _) _ => !w.db.lacksIntent x.agentId
    | _ => true
  | .restart => w.stage.unstored.all fun a => !w.db.lacksIntent a
  | _ => true

variable {spec : AgentSpawnSpec} {steps : List FinishStep} {hash s : String}

section Recoverable

variable {db db' : Db} {a : String}

theorem recoverable_of_absent (absent : db.agents.get? a = none) : db.Recoverable a := by
  intro agent found
  rw [absent] at found
  cases found

theorem recoverable_of_lacksIntent (h : db.lacksIntent a = false) : db.Recoverable a := by
  intro agent found _ eligible specced
  rw [Db.lacksIntent, found, Option.any_some, eligible, specced] at h
  simpa [Option.isSome_iff_ne_none] using h

theorem intent_of_not_stranded (h : db.stranded a = false) (crashed : db.stateOf a = some .crashed)
    (eligible : (db.agents.get? a).any (isRecoveryEligibleProvider ·.provider) = true) :
    (queryAgentRecoveryIntentSync db a).isSome = true := by
  obtain ⟨row, found, state⟩ := Option.map_eq_some_iff.mp crashed
  rw [found, Option.any_some] at eligible
  rw [Db.stranded, found, Option.any_some, state, eligible] at h
  simpa [Option.isSome_iff_ne_none] using h

theorem lacksIntent_congr
    (origin : (db'.agents.get? a).map Agent.origin = (db.agents.get? a).map Agent.origin)
    (spec : db'.agentSpawnSpecs.get? a = db.agentSpawnSpecs.get? a)
    (intent : db'.agentRecoveryIntents.get? a = db.agentRecoveryIntents.get? a) :
    db'.lacksIntent a = db.lacksIntent a := by
  have eligible (d : Db) : (d.agents.get? a).any (isRecoveryEligibleProvider ·.provider) =
      ((d.agents.get? a).map Agent.origin).any (isRecoveryEligibleProvider ·.2) := by
    cases d.agents.get? a <;> rfl
  rw [Db.lacksIntent, Db.lacksIntent, eligible, eligible, origin, queryAgentSpawnSpecSync, spec,
    queryAgentRecoveryIntentSync_congr intent, queryAgentSpawnSpecSync]

theorem recoverable_persistAgentSpawnSpecSync
    (stored : db.stranded spec.agentId = false) (recoverable : db.Recoverable a)
    (h : persistAgentSpawnSpecSync db spec hash now = .ok db') : db'.Recoverable a := by
  by_cases own : a = spec.agentId
  · subst own
    obtain ⟨specs, rfl⟩ := persistAgentSpawnSpecSync_ok h
    intro agent found crashed eligible _
    have crashed : db.stateOf spec.agentId = some .crashed := by
      rw [Db.stateOf, found, Option.map_some, crashed]
    have eligible : (db.agents.get? spec.agentId).any
        (isRecoveryEligibleProvider ·.provider) = true := by rw [found]; exact eligible
    exact intent_of_not_stranded stored crashed eligible
  · exact (Steady.of_apart (Db.apart_persistAgentSpawnSpecSync h) own).toKept.recoverable recoverable

theorem recoverable_of_deleteAgent (recoverable : db.Recoverable a)
    (h : db.deleteAgent c context = .ok db') : db'.Recoverable a := by
  by_cases own : a = c
  · subst own
    exact recoverable_of_absent (Db.absent_of_deleteAgent h)
  · exact (Steady.of_apart (Db.apart_deleteAgent h) own).toKept.recoverable recoverable

theorem recoverable_of_state (up : t ≠ .crashed)
    (found : db.agents.get? a = some row) (state : row.state = t) : db.Recoverable a := by
  refine Db.recoverable_of fun crashed => ?_
  rw [Db.stateOf, found, Option.map_some, state] at crashed
  exact absurd (Option.some.inj crashed) up

theorem recoverable_insertAgentSync (up : state ≠ .crashed) (recoverable : db.Recoverable a) :
    (insertAgentSync db a s p state pid now).2.Recoverable a := by
  rcases insertAgentSync_cases db a s p state pid now with same | ⟨db₁, deleted, freed | new⟩
  · rwa [same]
  · rw [freed]
    exact recoverable_of_absent (Db.absent_of_deleteAgent deleted)
  · obtain ⟨row, found, spawned, -⟩ := new.row
    exact recoverable_of_state up found spawned

theorem recoverable_replaceKilledAgent
    (h : replaceKilledAgentAndRequeueJobSync db s spec hash pid intent now = .ok (n, db')) :
    db'.Recoverable spec.agentId := by
  obtain ⟨db₁, db₂, -, -, new, requeued⟩ := replaceKilledAgentAndRequeueJobSync_ok h
  obtain ⟨row, found, spawned, -⟩ := new.row
  have agents : db'.agents = db₂.agents :=
    congrArg Prod.fst (requeueCapturedIntent_agentTables requeued)
  exact recoverable_of_state (by decide) (agents ▸ found) spawned

/-- The startup crashes an agent it does not find alive, with whatever intent the agent has. -/
theorem recoverable_reconcileStartup
    (finds : ∀ agent, db.agents.get? a = some agent → isStartupCandidate agent.state = true →
      db.lacksIntent a = false ∨ probe.finds a agent = true) (recoverable : db.Recoverable a) :
    ((DaemonOp.reconcileStartup probe now).apply db).Recoverable a := by
  obtain ⟨crashes, steady⟩ := reconcileStartup_crashes probe now db a
  cases lacks : db.lacksIntent a with
  | false =>
    refine recoverable_of_lacksIntent ?_
    rwa [lacksIntent_congr crashes.origin crashes.spec crashes.intent]
  | true =>
    refine (steady fun agent found candidate => ?_).toKept.recoverable recoverable
    exact (finds agent found candidate).resolve_left (by simp [lacks])

end Recoverable

/-! ## The operations next to the loop -/

section Operations

variable {w : RecoveryWorld} {a : String}

theorem DaemonOp.recoverable_apply (loop : op.ofRecovery = false)
    (captures : w.captures (.daemon op) = true) (recoverable : w.db.Recoverable a) :
    (op.apply w.db).Recoverable a := by
  cases row : op.rowOf with
  | none =>
    rcases op.leaves loop row w.db a with ⟨probe, now, rfl⟩ | ⟨leaves, -⟩
    · refine recoverable_reconcileStartup (fun agent found candidate => ?_) recoverable
      have inside : (a, agent) ∈ startupReconcilePhaseASelectCandidates w.db :=
        Table.mem_select.mpr ⟨found, candidate⟩
      simpa using List.all_eq_true.mp captures (a, agent) inside
    · exact leaves.recoverable recoverable
  | some c =>
    by_cases own : a = c
    swap
    · exact (Steady.of_apart (op.apart_apply row w.db) own).toKept.recoverable recoverable
    subst own
    cases op with
    | insertAgent =>
      cases row
      exact recoverable_insertAgentSync (by decide) recoverable
    | deleteAgent =>
      exact commit_unit_induction recoverable fun _ => recoverable_of_deleteAgent recoverable
    | replaceKilledAgent s spec =>
      cases row
      exact commit_induction recoverable fun _ _ => recoverable_replaceKilledAgent
    | _ => cases row

theorem recoverable_restoreKilledWorker
    (captures : w.captures (.restoreKilledWorker s stored now) = true)
    (recoverable : w.db.Recoverable a) :
    (restoreKilledWorkerSpawnSpec w.db s stored now).2.Recoverable a := by
  have kept : w.db.stranded stored.spec.agentId = false := by
    simpa [RecoveryWorld.captures] using captures
  by_cases own : a = stored.spec.agentId
  swap
  · exact (Steady.of_apart (Db.apart_restoreKilledWorker ..) own).toKept.recoverable recoverable
  subst own
  obtain ⟨db₁, rfl | ⟨absent, rfl⟩, spec⟩ := Db.restoreKilledWorker_cases w.db s stored now
  · rcases spec with same | persisted
    · rwa [same]
    · exact recoverable_persistAgentSpawnSpecSync kept recoverable persisted
  · refine Db.recoverable_of fun crashed => ?_
    have agents : (restoreKilledWorkerSpawnSpec w.db s stored now).2.agents =
        (insertAgentRow w.db stored.spec.agentId s stored.spec.provider .killed none now).agents := by
      rcases spec with same | persisted
      · rw [same]
      · obtain ⟨specs, same⟩ := persistAgentSpawnSpecSync_ok persisted
        rw [same]
    rw [Db.stateOf, agents] at crashed
    -- a row that was not there is inserted as KILLED
    obtain ⟨row, found, killed, -⟩ :=
      (newRow_insertAgentRow absent s stored.spec.provider .killed none now).row
    rw [found, Option.map_some, killed] at crashed
    cases crashed

theorem recoverable_clearRecoveryBackoffSync (c : String) (now : Int)
    (recoverable : db.Recoverable a) : (clearRecoveryBackoffSync db c now).Recoverable a := by
  by_cases own : a = c
  · subst own
    exact (kept_clearRecoveryBackoffSync db a now).recoverable recoverable
  · exact (Steady.of_apart (Db.apart_clearRecoveryBackoffSync db c now) own).toKept.recoverable
      recoverable

theorem recoverable_confirmStableAgents (now : Int) (recoverable : db.Recoverable a) :
    (confirmStableAgents db now).Recoverable a := by
  unfold confirmStableAgents
  generalize stableAgents db now = ids
  induction ids generalizing db with
  | nil => exact recoverable
  | cons c rest ih => exact ih (recoverable_clearRecoveryBackoffSync c now recoverable)

end Operations

/-! ## The loop -/

namespace FinishStep

variable {x : RecoveryAttempt} {result : Except CcbdError Unit} {now : Int} {step : FinishStep}

theorem ends_run_recoverable (row : step ≠ .restoreRow) (spec : step ≠ .restoreSpec) (db : Db)
    (kept : step = .enterCrashed → db.lacksIntent x.agentId = false) :
    Ends (step.run x result now) db fun _ db' =>
      db.Recoverable x.agentId → db'.Recoverable x.agentId := by
  have tables {db' : Db} (h : db'.agentTables = db.agentTables) :
      db.Recoverable x.agentId → db'.Recoverable x.agentId :=
    (Steady.of_tables h).toKept.recoverable
  cases step with
  | restoreRow => exact absurd rfl row
  | restoreSpec => exact absurd rfl spec
  | restoreBackoff => exact (kept_setRecoveryBackoff db x.agentId x.agent.backoff).recoverable
  | storeIntent => exact (ends_storeIntent x result now db).mono fun _ _ h _ => h.2.2.2
  | requeueJob => exact (keeps_requeueJob x result now db).mono fun _ _ => tables
  | enterCrashed =>
    have origin : ((db.modifyAgent x.agentId (·.enter .crashed now)).agents.get? x.agentId).map
        Agent.origin = (db.agents.get? x.agentId).map Agent.origin := by
      have row : (db.modifyAgent x.agentId (·.enter .crashed now)).agents.get? x.agentId =
        (db.agents.get? x.agentId).map (·.enter .crashed now) := Table.get?_modify_self ..
      rw [row, Option.map_map]
      rfl
    have lacks := (lacksIntent_congr origin rfl rfl).trans (kept rfl)
    exact fun _ => recoverable_of_lacksIntent lacks
  | renewSpec => exact (ends_renewSpec x result now db).mono fun _ _ h => h.2.2.2
  | countRetry => exact (ends_countRetry x result now db).mono fun _ _ h => h.2.2.1.recoverable
  | emit => exact (ends_emit x result now db).mono fun _ _ h => tables h.1

end FinishStep

open RecoveryStage

namespace RecoveryWorld

/-- Every agent is recoverable, but for the one whose intent is still to be stored. -/
def Captured (w : RecoveryWorld) : Prop :=
  ∀ a, w.stage.unstored ≠ some a → w.db.Recoverable a

variable {w : RecoveryWorld}

/-- While the intent is still to be stored it is stored next, or the row is not there yet. -/
theorem unstored_of_head (rest : step :: steps <:+ finishSteps result)
    (rest' : steps <:+ finishSteps result) (first : step = .restoreRow ∨ step = .restoreSpec) :
    (finishing x result steps rest').unstored = some x.agentId := by
  refine if_pos (forall_finishSteps (P := fun steps =>
    steps.head? = some .restoreRow ∨ steps.head? = some .restoreSpec →
      .storeIntent ∈ steps.tail ∧ .restoreRow ∉ steps.tail) (by decide) (by decide) rest ?_)
  exact first.imp (congrArg some) (congrArg some)

theorem unstored_cons
    (rest : step :: steps <:+ finishSteps result) (rest' : steps <:+ finishSteps result)
    (row : step ≠ .restoreRow) (intent : step ≠ .storeIntent) :
    (finishing x result (step :: steps) rest).unstored =
      (finishing x result steps rest').unstored := by
  simp [unstored, row.symm, intent.symm]

section Finish

variable {db : Db} (rest : step :: steps <:+ finishSteps result)
  (rest' : steps <:+ finishSteps result) (now : Int)
  (captured : Captured ⟨db, .finishing x result (step :: steps) rest⟩)
  (kept : step = .enterCrashed → db.lacksIntent x.agentId = false)

include captured kept

/-- After a part the agent of the attempt is recoverable, or its intent is still to be stored. -/
theorem ends_finish_own :
    Ends (step.run x result now) db fun r db' => db'.Recoverable x.agentId ∨
      r.isOk = true ∧ (finishing x result steps rest').unstored = some x.agentId := by
  -- a part that fails before the intent is stored finds no row
  have early (failed : step ≠ .requeueJob)
      (later : (finishing x result steps rest').unstored = some x.agentId) :
      Ends (step.run x result now) db fun r db' => db'.Recoverable x.agentId ∨ r.isOk = true ∧
        (finishing x result steps rest').unstored = some x.agentId := by
    refine (FinishStep.ends_run_error x result now failed db).mono fun r db' absent => ?_
    cases r with
    | ok => exact .inr ⟨rfl, later⟩
    | error => exact .inl (recoverable_of_absent (absent rfl))
  by_cases first : step = .restoreRow ∨ step = .restoreSpec
  · exact early (by rcases first with rfl | rfl <;> decide) (unstored_of_head rest rest' first)
  rw [not_or] at first
  by_cases stores : step = .storeIntent
  · subst stores
    exact (FinishStep.ends_storeIntent x result now db).mono fun _ _ h => .inl h.2.2.2
  by_cases later : (finishing x result steps rest').unstored = some x.agentId
  · refine early ?_ later
    rintro rfl
    have returned : .storeIntent ∉ steps :=
      forall_finishSteps (P := fun steps => steps.head? = some .requeueJob →
        .storeIntent ∉ steps.tail) (by decide) (by decide) rest rfl
    rw [unstored, if_neg fun h => returned h.1] at later
    cases later
  · have same := unstored_cons (x := x) rest rest' first.1 stores
    have recoverable : db.Recoverable x.agentId := captured x.agentId fun h => later (same ▸ h)
    exact (FinishStep.ends_run_recoverable first.1 first.2 db kept).mono
      fun _ _ h => .inl (h recoverable)

theorem finish_captured :
    (after (step.run x result now) (fun _ => .finishing x result steps rest') db).Captured := by
  have own := ends_finish_own rest rest' now captured kept
  refine after_of_ends (((step.apart_run x result now db).and own).mono fun r db' h => ?_)
  have others {a : String} (ne : a ≠ x.agentId) : db'.Recoverable a := by
    refine (Steady.of_apart h.1 ne).toKept.recoverable (captured a fun unstored => ne ?_)
    simp only [RecoveryStage.unstored] at unstored
    split_ifs at unstored
    exact (Option.some.inj unstored).symm
  cases r with
  | ok =>
    intro a settled
    by_cases e : a = x.agentId
    · subst e
      exact h.2.resolve_right fun unstored => settled unstored.2
    · exact others e
  | error =>
    intro a _
    by_cases e : a = x.agentId
    · subst e
      exact h.2.resolve_right fun unstored => Bool.noConfusion unstored.1
    · exact others e

end Finish

theorem respawn_captured {db : Db} (respawn : Respawn) (recoverable : ∀ a, db.Recoverable a) :
    (after (attempt (x.respawn respawn))
      (fun result => .finishing x result (finishSteps result) (List.suffix_refl _)) db).Captured := by
  refine after_of_ends (ends_attempt.mpr ((respawn.effect ..).mono fun result db' effect => ?_))
  intro a _
  have others := effect.others
  have own := effect.own
  rw [StoredAgentSpawnSpec.respawnParams, x.spec] at others own
  by_cases e : a = x.agentId
  · subst e
    rcases own with rfl | up
    · exact recoverable _
    · exact fun agent found crashed => absurd crashed (up agent found)
  · exact (Steady.of_apart others e).toKept.recoverable (recoverable a)

theorem proceed_captured (captured : w.Captured)
    (captures : w.captures (.proceed respawn now) = true) : (w.proceed respawn now).Captured := by
  obtain ⟨db, stage⟩ := w
  cases stage with
  | claiming tick claim version rest =>
    intro a _
    have recoverable := captured a (Option.some_ne_none a).symm
    rcases tryClaimAgentRecoverySync_cases db claim.agentId version tick now with
      ⟨row, -, -, -, claimed⟩ | refused
    · have steady := Steady.modifyAgent (Agent.calm_claim now) a claim.agentId db
      simp only [proceed, claimed]
      exact steady.toKept.recoverable recoverable
    · simp only [proceed, refused]
      exact recoverable
  | claimed claim =>
    refine after_of_ends (ends_atomic.mpr ?_)
    rcases readSnapshot_cases claim db with ⟨e, -, failed⟩ | ⟨x, -, -, snapshot⟩
    · rw [failed]
      exact captured
    · rw [snapshot]
      exact captured
  | deleting x =>
    refine after_of_ends (ends_atomically.mpr ?_)
    cases deleted : deleteAgentSync db x.agentId with
    | error => exact captured
    | ok db' =>
      intro a _
      exact recoverable_of_deleteAgent (captured a (Option.some_ne_none a).symm) deleted
  | respawning x =>
    exact respawn_captured respawn fun a => captured a (Option.some_ne_none a).symm
  | finishing x result steps rest =>
    cases steps with
    | nil => exact captured
    | cons step steps =>
      refine finish_captured rest _ now captured fun crashes => ?_
      subst crashes
      simpa [RecoveryWorld.captures] using captures
  | _ => exact captured

theorem consider_captured (captured : w.Captured) : (w.consider sqlNow).Captured := by
  obtain ⟨db, stage⟩ := w
  cases stage with
  | scanning now check candidates =>
    cases candidates with
    | nil => exact captured
    | cons head rest =>
      obtain ⟨c, listed⟩ := head
      refine after_of_ends (ends_atomic.mpr ?_)
      cases done : considerCandidate db c listed now sqlNow check with
      | error => exact captured
      | ok r =>
        obtain ⟨outcome, db'⟩ := r
        cases considerCandidate_effect done with
        | skipped tables =>
          exact fun a settled => (Steady.of_tables tables).toKept.recoverable (captured a settled)
        | reaped deleted =>
          exact fun a settled => recoverable_of_deleteAgent (captured a settled) deleted
        | next | passed => exact captured
  | _ => exact captured

theorem start_captured (captured : w.Captured) : (w.start now).Captured := by
  obtain ⟨db, stage⟩ := w
  cases stage with
  | idle => exact fun a settled => recoverable_confirmStableAgents now (captured a settled)
  | _ => exact captured

theorem Step.captured (captured : w.Captured) (captures : w.captures act = true)
    (step : Step w act w') : w'.Captured := by
  obtain ⟨apart, rfl⟩ := step
  -- an operation next to the loop leaves it where it is
  have beside {db' : Db} (h : ∀ a, w.db.Recoverable a → db'.Recoverable a) :
      Captured { w with db := db' } := fun a settled => h a (captured a settled)
  cases act with
  | start => exact start_captured captured
  | consider => exact consider_captured captured
  | proceed => exact proceed_captured captured captures
  | restart =>
    intro a _
    by_cases unstored : w.stage.unstored = some a
    · have kept : w.db.lacksIntent a = false := by
        simpa [RecoveryWorld.captures, unstored] using captures
      exact recoverable_of_lacksIntent kept
    · exact captured a unstored
  | daemon op =>
    have loop : op.ofRecovery = false := by simpa [RecoveryAct.apart] using apart
    exact beside fun a => DaemonOp.recoverable_apply loop captures
  | updateConfigHash c hash now =>
    exact beside fun a => (Steady.updateAgentConfigHashSync a w.db c hash now).toKept.recoverable
  | persistSpawnSpec spec hash now =>
    have kept : w.db.stranded spec.agentId = false := by
      simpa [RecoveryWorld.captures] using captures
    exact beside fun a recoverable => commit_unit_induction
      recoverable fun _ => recoverable_persistAgentSpawnSpecSync kept recoverable
  | clearBackoff c now => exact beside fun a => recoverable_clearRecoveryBackoffSync c now
  | restoreKilledWorker =>
    exact beside fun a => recoverable_restoreKilledWorker captures
  | learnRule =>
    exact beside fun a recoverable => commit_unit_induction recoverable fun _ learned =>
        (Steady.of_tables (insertLearnedRuleSync_agentTables learned)).toKept.recoverable recoverable

end RecoveryWorld

/-! ## Whole runs -/

/-- Outside a running attempt every CRASHED agent of an eligible provider that has a spawn
spec also has an intent. -/
def RecoveryWorld.AllRecoverable (w : RecoveryWorld) : Prop :=
  w.stage.attempts = none → ∀ a, w.db.Recoverable a

theorem RecoveryWorld.Captured.allRecoverable {w : RecoveryWorld} (captured : w.Captured) :
    w.AllRecoverable := by
  intro outside a
  refine captured a fun unstored => ?_
  cases stage : w.stage with
  | finishing x =>
    rw [stage] at outside
    cases outside
  | _ =>
    rw [stage] at unstored
    cases unstored

/-- In a run whose steps all store the intents they owe, the loop never passes over a crashed
worker for want of one. -/
theorem allRecoverable_of_captures {db : Db} {w : RecoveryWorld}
    {ts : List (Transition RecoveryWorld RecoveryAct)} (start : ∀ a, db.Recoverable a)
    (run : Run RecoveryWorld.Step ⟨db, .idle⟩ ts w)
    (captures : ∀ t ∈ ts, t.pre.captures t.act = true) :
    ∀ t ∈ ts, t.pre.AllRecoverable ∧ t.post.AllRecoverable :=
  run.forall_transition (I := RecoveryWorld.Captured)
    (fun _ _ _ captured captures step => step.captured captured captures)
    (fun _ _ _ captured captures step =>
      ⟨captured.allRecoverable, (step.captured captured captures).allRecoverable⟩)
    (fun a _ => start a) captures

theorem oneSession_recoverable (a : String) : Db.oneSession.Recoverable a :=
  recoverable_of_absent rfl

/-- A worker crashes, its recovery fails, and the daemon is started again. -/
def failedAndRestarted : List RecoveryAct :=
  RecoveryAct.spawnWorker ++ [.crashWorker] ++ RecoveryAct.tick 10 13 ++
    [.restart, .daemon (.reconcileStartup ⟨fun _ => false, false, fun _ => false⟩ 20)]

theorem allRecoverable_failedAndRestarted :
    (∃ t ∈ trace RecoveryWorld.apply ⟨Db.oneSession, .idle⟩ failedAndRestarted,
      t.post.stage.attempts = none ∧ t.post.db.stateOf "a1" = some .crashed) ∧
    ∀ t ∈ trace RecoveryWorld.apply ⟨Db.oneSession, .idle⟩ failedAndRestarted,
      t.pre.AllRecoverable ∧ t.post.AllRecoverable :=
  ⟨by decide +kernel, allRecoverable_of_captures oneSession_recoverable
    (RecoveryWorld.run_of_list _ _ (by decide +kernel)) (by decide +kernel)⟩

/-- A worker that is ready dies with the daemon. -/
def diedWithDaemon : List RecoveryAct :=
  RecoveryAct.spawnWorker ++
    [.restart, .daemon (.reconcileStartup ⟨fun _ => false, false, fun _ => false⟩ 20)]

theorem not_allRecoverable_diedWithDaemon : ∃ w, Run RecoveryWorld.Step ⟨Db.oneSession, .idle⟩
      (trace RecoveryWorld.apply ⟨Db.oneSession, .idle⟩ diedWithDaemon) w ∧
    ¬∀ t ∈ trace RecoveryWorld.apply ⟨Db.oneSession, .idle⟩ diedWithDaemon,
      t.pre.AllRecoverable ∧ t.post.AllRecoverable := by
  refine ⟨_, RecoveryWorld.run_of_list _ _ (by decide +kernel), fun all => ?_⟩
  have bad : ∃ t ∈ trace RecoveryWorld.apply ⟨Db.oneSession, .idle⟩ diedWithDaemon,
      t.post.stage.attempts = none ∧ t.post.db.stateOf "a1" = some .crashed ∧
        t.post.db.lacksIntent "a1" = true := by decide +kernel
  obtain ⟨t, inside, outside, crashed, lacks⟩ := bad
  have recoverable := (all t inside).2 outside "a1"
  obtain ⟨row, found, state⟩ := Option.map_eq_some_iff.mp crashed
  rw [Db.lacksIntent, found] at lacks
  simp only [Bool.and_eq_true] at lacks
  have stored := recoverable row found state lacks.1.1 lacks.1.2
  rw [Option.isNone_iff_eq_none.mp lacks.2] at stored
  cases stored

end Ccbd
