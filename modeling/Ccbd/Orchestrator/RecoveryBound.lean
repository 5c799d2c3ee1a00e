import Ccbd.Orchestrator.RecoveryParts

/-!
# How often an agent is claimed

A row that is not exhausted after `n` retries can be claimed `5 - n` times before its backoff
is cleared. `claimsLeft` says how many an agent has left: they are kept in the backoff columns
of its row, or, from the deletion of the row to the restoration of its backoff, in the row the
attempt has read. A claim takes one. Only the steps that clear the backoff, and those that end
an attempt before its retry is counted, add any.
-/

namespace Ccbd

open Lib RecoveryBackoff

/-! ## Claims that are left -/

namespace RecoveryBackoff

/-- The claims that are left once the retry of a running attempt is counted. -/
def leftAfter (b : RecoveryBackoff) : Nat := 4 - b.retryCount

/-- The claims that are left when no attempt runs. -/
def left (b : RecoveryBackoff) : Nat := if b.retryExhausted then 0 else b.leftAfter + 1

theorem left_le (b : RecoveryBackoff) : b.left ≤ b.leftAfter + 1 := by
  unfold left
  split_ifs <;> omega

theorem leftAfter_le (b : RecoveryBackoff) : b.leftAfter ≤ 4 := Nat.sub_le ..

theorem left_next (n : Nat) (now : Int) : (nextRecoveryBackoff n now).left = 4 - n := by
  unfold left leftAfter nextRecoveryBackoff
  dsimp only
  split_ifs with exhausted <;> simp only [decide_eq_true_eq] at exhausted <;> omega

theorem leftAfter_next_le (n : Nat) (now : Int) :
    (nextRecoveryBackoff n now).leftAfter ≤ 4 - n := by
  unfold leftAfter nextRecoveryBackoff
  dsimp only
  omega

end RecoveryBackoff

/-- The claims the row of `a` has left, by either count. -/
def Db.tally (db : Db) (a : String) (count : RecoveryBackoff → Nat) : Nat :=
  (db.backoffOf a).elim 0 count

/-- The agent whose attempt is running and has not been counted. -/
def RecoveryStage.uncounted : RecoveryStage → Option String
  | .finishing x _ steps _ => if .countRetry ∈ steps then some x.agentId else none
  | stage => stage.attempts

/-- How often `a` can still be claimed. -/
def RecoveryStage.claimsLeft (a : String) (db : Db) : RecoveryStage → Nat
  | .claimed claim =>
    if claim.agentId = a then
      -- without a spec the attempt ends uncounted
      if (db.agentSpawnSpecs.get? a).isSome then db.tally a leftAfter
      else db.tally a (·.leftAfter + 1)
    else db.tally a left
  | .deleting x | .respawning x =>
    if x.agentId = a then x.agent.backoff.leftAfter else db.tally a left
  | .finishing x _ steps _ =>
    if x.agentId = a ∧ .restoreBackoff ∈ steps then x.agent.backoff.leftAfter
    else if x.agentId = a ∧ .countRetry ∈ steps then db.tally a leftAfter
    else db.tally a left
  | _ => db.tally a left

namespace Db

variable {db db' : Db} {a : String}

theorem tally_of_absent (absent : db.agents.get? a = none) (count : RecoveryBackoff → Nat) :
    db.tally a count = 0 := by
  rw [tally, backoffOf, absent]
  rfl

theorem tally_of_found (found : db.agents.get? a = some agent)
    (count : RecoveryBackoff → Nat) : db.tally a count = count agent.backoff := by
  rw [tally, backoffOf, found]
  rfl

theorem tally_mono (le : ∀ b, f b ≤ g b) : db.tally a f ≤ db.tally a g := by
  unfold tally
  cases db.backoffOf a with
  | none => exact Nat.le_refl _
  | some b => exact le b

theorem tally_le (le : ∀ b, f b ≤ n) : db.tally a f ≤ n := by
  unfold tally
  cases db.backoffOf a with
  | none => exact Nat.zero_le _
  | some b => exact le b

theorem tally_map (h : db'.backoffOf a = (db.backoffOf a).map g) (count : RecoveryBackoff → Nat) :
    db'.tally a count = db.tally a (count ∘ g) := by
  unfold tally
  rw [h]
  cases db.backoffOf a <;> rfl

end Db

/-- The step adds no claims: the row of `a` goes, or it keeps its backoff, and its spec stays. -/
def AddsNone (a : String) (db db' : Db) : Prop :=
  db'.agents.get? a = none ∨ db'.backoffOf a = db.backoffOf a ∧
    ((db.agentSpawnSpecs.get? a).isSome = true → (db'.agentSpawnSpecs.get? a).isSome = true)

variable {result : Except CcbdError Unit} {now tick version : Int} {steps : List FinishStep}
    {x : RecoveryAttempt} {claim : RecoveryClaim} {c : String}

open RecoveryStage

open Db

namespace AddsNone

variable {a : String} {db db' : Db}

theorem refl (a : String) (db : Db) : AddsNone a db db := .inr ⟨rfl, id⟩

theorem of_same (backoff : (db'.agents.get? a).map Agent.backoff =
    (db.agents.get? a).map Agent.backoff)
    (spec : db'.agentSpawnSpecs.get? a = db.agentSpawnSpecs.get? a) : AddsNone a db db' :=
  .inr ⟨backoff, fun specced => spec ▸ specced⟩

theorem of_steady (h : Steady a db db') : AddsNone a db db' := of_same h.backoff h.spec

theorem of_tables (h : db'.agentTables = db.agentTables) : AddsNone a db db' :=
  of_steady (.of_tables h)

theorem of_apart (h : db'.apart c = db.apart c) (other : a ≠ c) : AddsNone a db db' :=
  of_steady (.of_apart h other)

theorem tally_le (h : AddsNone a db db') (count : RecoveryBackoff → Nat) :
    db'.tally a count ≤ db.tally a count := by
  rcases h with gone | ⟨backoff, -⟩
  · rw [tally_of_absent gone]
    exact Nat.zero_le _
  · rw [tally, tally, backoff]

theorem claimsLeft_le (h : AddsNone a db db') (stage : RecoveryStage) :
    stage.claimsLeft a db' ≤ stage.claimsLeft a db := by
  have left := h.tally_le left
  have after := h.tally_le leftAfter
  cases stage with
  | claimed claim =>
    simp only [claimsLeft]
    split_ifs with own specced' specced specced
    · exact after
    · exact after.trans (tally_mono fun _ => Nat.le_succ _)
    · rcases h with gone | ⟨-, spec⟩
      · rw [tally_of_absent gone]
        exact Nat.zero_le _
      · exact absurd (spec specced) specced'
    · exact h.tally_le _
    · exact left
  | deleting x | respawning x =>
    simp only [claimsLeft]
    split_ifs
    · exact Nat.le_refl _
    · exact left
  | finishing x result steps rest =>
    simp only [claimsLeft]
    split_ifs
    · exact Nat.le_refl _
    · exact after
    · exact left
  | _ => exact left

end AddsNone

/-! ## What clears the backoff, and what counts the retry -/

/-- The captured job can go back into the queue: it is still there as a FAILED job of its
agent, or neither its id nor its request is taken by another job. -/
def Db.readmits (db : Db) (intent : AgentRecoveryIntent) : Bool :=
  intent.action ≠ .revive || intent.interruptedJobId.all fun jobId =>
    ((db.jobs.get? jobId).any fun job =>
      job.status = .failed && job.agentId = intent.agentId) ||
    intent.interruptedJob.all fun captured =>
      match captured.requestId.bind (queryJobByRequestIdSync db intent.agentId) with
      | some (existing, _) => existing = captured.id
      | none => (db.jobs.get? captured.id).isNone

/-- The step gives `a` a row with a fresh backoff, or clears the one it has. -/
def RecoveryWorld.clears (a : String) (w : RecoveryWorld) : RecoveryAct → Bool
  | .start now => match w.stage with
    | .idle => a ∈ stableAgents w.db now
    | _ => false
  | .clearBackoff c _ => c = a
  | .daemon (.insertAgent c s p pid now) =>
    c = a && (insertAgentSync w.db c s p .spawning pid now).1.isOk
  | .daemon (.replaceKilledAgent s spec hash pid intent now) =>
    spec.agentId = a && (replaceKilledAgentAndRequeueJobSync w.db s spec hash pid intent now).isOk
  | .restoreKilledWorker s stored now =>
    stored.spec.agentId = a && (w.db.agents.get? a).isNone &&
      ((restoreKilledWorkerSpawnSpec w.db s stored now).2.agents.get? a).isSome
  | _ => false

/-- The step does not end an attempt on `a` before its retry is counted. -/
def RecoveryWorld.counts (a : String) (w : RecoveryWorld) : RecoveryAct → Bool
  | .proceed _ _ => match w.stage with
    | .claiming _ claim _ _ => claim.agentId ≠ a || (w.db.agentSpawnSpecs.get? a).isSome
    | .deleting x => x.agentId ≠ a || !w.db.cascadeBlocked a
    | .finishing x _ (.requeueJob :: _) _ => x.agentId ≠ a || w.db.readmits x.intent
    | _ => true
  | .restart => w.stage.uncounted ≠ some a || (w.db.agents.get? a).isNone
  | _ => true

/-- The requeue of a job that can be readmitted fails only if the agent has no row. -/
theorem requeueCapturedIntent_error (readmits : db.readmits intent = true)
    (failed : requeueCapturedIntent db now (some intent) = .error e) :
    db.agents.get? intent.agentId = none := by
  obtain ⟨-, none⟩ | ⟨jobId, revive, interrupted, ⟨_, _, -, -, -, -, done⟩ | ⟨gone, inserts⟩⟩ :=
    requeueInterruptedJobFromCapturedIntentSync_cases db intent now
  · cases none.symm.trans failed
  · cases done.symm.trans failed
  · rw [requeueCapturedIntent, inserts] at failed
    simp only [Db.readmits, revive, interrupted, ne_eq, not_true_eq_false, decide_false,
      Bool.false_or, Option.all_some, Bool.or_eq_true] at readmits
    have readmits := readmits.resolve_left fun still => by
      simp only [Option.any_eq_true, Bool.and_eq_true, decide_eq_true_eq] at still
      obtain ⟨job, found, failed, own⟩ := still
      exact gone job found failed own
    by_contra row
    cases captured : intent.interruptedJob with
    | none =>
      rw [reinsertCapturedJob, captured] at failed
      cases failed
    | some job =>
      simp only [captured, Option.all_some] at readmits
      split at readmits
      · rename_i existing _ request
        simp only [decide_eq_true_eq] at readmits
        subst readmits
        rw [reinsertCapturedJob_of_kept captured request] at failed
        cases failed
      · rename_i request
        have row := Option.isSome_iff_ne_none.mpr row
        have fresh := Option.isNone_iff_eq_none.mp readmits
        obtain ⟨_, _, -, -, -, done⟩ := reinsertCapturedJob_of_free captured request fresh row now
        rw [done] at failed
        cases failed

/-! ## One step -/

open RecoveryWorld

section Steps

variable {a : String} {db db' : Db}

theorem Db.cascadeBlocked_of_deleteAgent
    (h : db.deleteAgent a context = .error e) : db.cascadeBlocked a = true := by
  unfold deleteAgent at h
  split_ifs at h with _ blocked
  exact blocked

theorem AddsNone.of_deleted (h : db.deleteAgent a context = .ok db') :
    AddsNone a db db' := .inl (absent_of_deleteAgent h)

theorem insertAgentSync_addsNone
    (failed : (insertAgentSync db a s p state pid now).1.isOk = false) :
    AddsNone a db (insertAgentSync db a s p state pid now).2 := by
  rcases insertAgentSync_rows db a s p state pid now with
    ⟨e, same⟩ | ⟨db₁, deleted, ⟨e, same⟩ | written⟩
  · rw [same]
    exact .refl a db
  · rw [same]
    exact .of_deleted deleted
  · rw [written] at failed
    cases failed

theorem persistAgentSpawnSpecSync_addsNone {hash : String}
    (h : persistAgentSpawnSpecSync db spec hash now = .ok db') : AddsNone a db db' := by
  obtain ⟨version, rfl⟩ := persistAgentSpawnSpecSync_ok h
  refine .inr ⟨rfl, fun specced => ?_⟩
  rw [Table.get?_upsert]
  split_ifs
  · rfl
  · exact specced

theorem DaemonOp.addsNone {w : RecoveryWorld} (loop : op.ofRecovery = false)
    (spared : w.clears a (.daemon op) = false) : AddsNone a w.db (op.apply w.db) := by
  cases row : op.rowOf with
  | none =>
    rcases op.leaves loop row w.db a with ⟨probe, now, rfl⟩ | ⟨leaves, -⟩
    · have crashes := (reconcileStartup_crashes probe now w.db a).1
      exact .of_same crashes.backoff crashes.spec
    · exact .of_same leaves.backoff leaves.spec
  | some c =>
    by_cases own : a = c
    swap
    · exact .of_apart (op.apart_apply row w.db) own
    subst own
    cases op with
    | insertAgent =>
      cases row
      simp only [clears] at spared
      exact insertAgentSync_addsNone spared
    | deleteAgent =>
      cases row
      exact commit_unit_induction (.refl _ _) fun _ => .of_deleted
    | replaceKilledAgent s spec hash pid intent now =>
      cases row
      simp only [clears] at spared
      refine commit_induction (.refl _ _) fun n d h => ?_
      rw [h] at spared
      cases spared
    | _ => cases row

theorem restoreKilledWorker_addsNone {w : RecoveryWorld}
    (spared : w.clears a (.restoreKilledWorker s stored now) = false) :
    AddsNone a w.db (restoreKilledWorkerSpawnSpec w.db s stored now).2 := by
  by_cases own : a = stored.spec.agentId
  swap
  · exact .of_apart (apart_restoreKilledWorker ..) own
  subst own
  simp only [clears] at spared
  obtain ⟨db₁, rfl | ⟨absent, rfl⟩, stored⟩ := restoreKilledWorker_cases w.db s stored now
  · rcases stored with same | persisted
    · rw [same]
      exact .refl _ _
    · exact persistAgentSpawnSpecSync_addsNone persisted
  · left
    simpa [absent] using spared

theorem restoreBackoff_counted (rest : steps <:+ finishSteps result)
    (restores : .restoreBackoff ∈ steps) : .countRetry ∈ steps :=
  forall_finishSteps (P := fun steps => .restoreBackoff ∈ steps → .countRetry ∈ steps)
    (by decide) (by decide) rest restores

theorem RecoveryStage.claimsLeft_of_counted {stage : RecoveryStage}
    (counted : stage.uncounted ≠ some a) :
    stage.claimsLeft a db = db.tally a left := by
  cases stage with
  | claimed claim | deleting x | respawning x => exact if_neg fun own => counted (congrArg some own)
  | finishing x result steps rest =>
    have done (own : x.agentId = a) : .countRetry ∉ steps := fun inside => by
      rw [uncounted, if_pos inside, own] at counted
      exact counted rfl
    refine (if_neg fun h => ?_).trans (if_neg fun h => done h.1 h.2)
    exact done h.1 (restoreBackoff_counted rest h.2)
  | _ => rfl

theorem finishing_claimsLeft_own (own : x.agentId = a) :
    (finishing x result steps rest).claimsLeft a db =
      if .restoreBackoff ∈ steps then x.agent.backoff.leftAfter
      else if .countRetry ∈ steps then db.tally a leftAfter
      else db.tally a left := by
  simp [claimsLeft, own]

theorem FinishStep.claimsLeft_le (rest : step :: steps <:+ finishSteps result)
    (rest' : steps <:+ finishSteps result) (own : x.agentId = a) (now : Int)
    (row : step ≠ .restoreRow → db'.backoffOf a = (db.backoffOf a).map (step.onBackoff x now)) :
    (finishing x result steps rest').claimsLeft a db' ≤
      (finishing x result (step :: steps) rest).claimsLeft a db := by
  rw [finishing_claimsLeft_own own, finishing_claimsLeft_own own]
  cases step with
  | restoreRow =>
    have ahead : .restoreBackoff ∈ steps :=
      forall_finishSteps (P := fun steps => steps.head? = some .restoreRow →
        .restoreBackoff ∈ steps.tail) (by decide) (by decide) rest rfl
    rw [if_pos ahead, if_pos (List.mem_cons_of_mem _ ahead)]
  | restoreBackoff =>
    have ahead : .countRetry ∈ steps :=
      forall_finishSteps (P := fun steps => steps.head? = some .restoreBackoff →
        .countRetry ∈ steps.tail) (by decide) (by decide) rest rfl
    rw [if_pos (List.mem_cons_self (a := FinishStep.restoreBackoff)), if_pos ahead,
      tally_map (row (by decide))]
    split_ifs
    · exact Nat.le_refl _
    · exact tally_le fun _ => Nat.le_refl _
  | countRetry =>
    have counted := tally_map (row (by decide))
    simp only [List.mem_cons, reduceCtorEq, false_or, true_or, counted]
    split_ifs
    · exact Nat.le_refl _
    · exact tally_mono fun b => leftAfter_next_le b.retryCount now
    · exact tally_mono fun b => (left_next b.retryCount now).le
  | _ =>
    have kept := tally_map (row (by decide))
    simp [kept, FinishStep.onBackoff]

end Steps

/-- The claims of `a` that a transition makes. -/
def claimsOf (a : String) (t : Transition RecoveryWorld RecoveryAct) : Nat :=
  match t.pre.stage with
  | .claiming _ claim _ _ =>
    if claim.agentId = a ∧ t.post.stage.attempts = some a then 1 else 0
  | _ => 0

namespace RecoveryWorld

variable {a : String} {w w' : RecoveryWorld} {act : RecoveryAct}

def claimsLeft (a : String) (w : RecoveryWorld) : Nat := w.stage.claimsLeft a w.db

theorem steady_confirmStableAgents {db : Db} (other : a ∉ stableAgents db now) :
    Steady a db (confirmStableAgents db now) := by
  unfold confirmStableAgents
  generalize stableAgents db now = ids at other
  induction ids generalizing db with
  | nil => exact .refl a db
  | cons c rest ih =>
    rw [List.mem_cons, not_or] at other
    have cleared := apart_clearRecoveryBackoffSync db c now
    exact (Steady.of_apart cleared other.1).trans (ih other.2)

theorem pays_of_stage (same : w'.stage = w.stage) (adds : AddsNone a w.db w'.db) :
    claimsOf a ⟨w, act, w'⟩ + w'.claimsLeft a ≤ w.claimsLeft a := by
  have left := adds.claimsLeft_le w.stage
  have none : claimsOf a ⟨w, act, w'⟩ = 0 := by
    unfold claimsOf
    rw [same]
    cases w.stage with
    | claiming => exact if_neg fun h => Option.some_ne_none _ h.2.symm
    | _ => rfl
  rw [none, Nat.zero_add, claimsLeft, claimsLeft, same]
  exact left

theorem start_pays (spared : w.clears a (.start now) = false) :
    claimsOf a ⟨w, .start now, w.start now⟩ + (w.start now).claimsLeft a ≤ w.claimsLeft a := by
  obtain ⟨db, stage⟩ := w
  cases stage with
  | idle =>
    have steady := steady_confirmStableAgents (of_decide_eq_false spared)
    have left := (AddsNone.of_steady steady).tally_le left
    exact (Nat.zero_add _).trans_le left
  | _ => exact pays_of_stage rfl (.refl a db)

/-- The checks of a candidate add no claims, to the candidate or to others. -/
theorem considerCandidate_addsNone {db db' : Db}
    (h : CandidateEffect db c check outcome db') : AddsNone a db db' := by
  cases h with
  | skipped tables => exact .of_tables tables
  | reaped deleted =>
    by_cases own : a = c
    · subst own
      exact .of_deleted deleted
    · exact .of_apart (apart_deleteAgent deleted) own
  | next | passed => exact .refl a db

theorem consider_pays (sqlNow : Int) :
    claimsOf a ⟨w, .consider sqlNow, w.consider sqlNow⟩ + (w.consider sqlNow).claimsLeft a ≤
      w.claimsLeft a := by
  obtain ⟨db, stage⟩ := w
  cases stage with
  | confirmed now => exact (Nat.zero_add _).le
  | scanning now check candidates =>
    cases candidates with
    | nil => exact (Nat.zero_add _).le
    | cons head rest =>
      obtain ⟨c, listed⟩ := head
      refine (Nat.zero_add _).trans_le ?_
      refine after_of_ends (P := fun w' => w'.claimsLeft a ≤ db.tally a left) (ends_atomic.mpr ?_)
      cases done : considerCandidate db c listed now sqlNow check with
      | error => exact Nat.le_refl _
      | ok r =>
        obtain ⟨outcome, db'⟩ := r
        have left := (considerCandidate_addsNone (a := a) (considerCandidate_effect done)).tally_le
          left
        cases outcome <;> exact left
  | _ => exact pays_of_stage rfl (.refl a db)

theorem claim_pays {db : Db}
    (specced : claim.agentId = a → (db.agentSpawnSpecs.get? a).isSome = true) :
    let w : RecoveryWorld := ⟨db, .claiming tick claim version rest⟩
    claimsOf a ⟨w, .proceed respawn now, w.proceed respawn now⟩ +
      (w.proceed respawn now).claimsLeft a ≤ w.claimsLeft a := by
  rcases tryClaimAgentRecoverySync_cases db claim.agentId version tick now with
    ⟨row, found, open_, -, claimed⟩ | refused
  · have same : AddsNone a db (db.modifyAgent claim.agentId (·.claim now)) :=
      .of_steady (.modifyAgent (Agent.calm_claim now) a claim.agentId db)
    by_cases own : claim.agentId = a
    · subst own
      have before : db.tally claim.agentId left = row.backoff.leftAfter + 1 := by
        have open_ : row.backoff.retryExhausted = false := open_
        rw [tally_of_found found, left, open_]
        rfl
      have after := same.tally_le leftAfter
      rw [tally_of_found found] at after
      have specced : ((db.modifyAgent claim.agentId (·.claim now)).agentSpawnSpecs.get?
        claim.agentId).isSome = true := specced rfl
      simp only [proceed, claimed, claimsOf, claimsLeft, RecoveryStage.claimsLeft,
        RecoveryStage.attempts, and_self, ↓reduceIte, specced]
      omega
    · have left := same.tally_le left
      simpa only [proceed, claimed, claimsOf, claimsLeft, RecoveryStage.claimsLeft, own,
        false_and, ↓reduceIte, Nat.zero_add] using left
  · simp [proceed, refused, claimsOf, claimsLeft, RecoveryStage.claimsLeft, RecoveryStage.attempts]

theorem pays_of_apart {α : Type} {m : EStateM CcbdError Db α} {db : Db} (next : α → RecoveryStage)
    (keeps : Ends m db fun _ db' => db'.apart c = db.apart c) (other : a ≠ c)
    (attempts : ∀ x db, (next x).claimsLeft a db = db.tally a left) :
    (after m next db).claimsLeft a ≤ db.tally a left := by
  refine after_of_ends (P := fun w' => w'.claimsLeft a ≤ _) (keeps.mono fun r db' apart => ?_)
  have left := (AddsNone.of_apart apart other).tally_le left
  cases r with
  | ok x => exact (attempts x db').trans_le left
  | error => exact left

theorem snapshot_pays {db : Db} :
    (after (atomic fun db => (readSnapshot claim db).map (·, db)) .deleting db).claimsLeft a ≤
      (RecoveryStage.claimed claim).claimsLeft a db := by
  refine after_of_ends (P := fun w' => w'.claimsLeft a ≤ _) (ends_atomic.mpr ?_)
  rcases readSnapshot_cases claim db with ⟨e, unread, failed⟩ | ⟨x, rfl, read, snapshot⟩
  · simp only [failed, Except.map, claimsLeft, RecoveryStage.claimsLeft]
    split_ifs with own specced
    · rcases recoverySnapshot_error unread with absent | unspecced
      · rw [tally_of_absent (own ▸ absent)]
        exact Nat.zero_le _
      · rw [← own, unspecced] at specced
        cases specced
    · exact tally_mono left_le
    · exact Nat.le_refl _
  · obtain ⟨found, specced, -⟩ := recoverySnapshot_ok read
    simp only [snapshot, Except.map, claimsLeft, RecoveryStage.claimsLeft]
    split_ifs with own specced'
    · rw [tally_of_found (own ▸ found)]
    · exact absurd (own ▸ specced) specced'
    · exact Nat.le_refl _

theorem delete_pays {db : Db} (free : x.agentId = a → db.cascadeBlocked a = false) :
    (after (atomically (deleteAgentSync · x.agentId)) (fun _ => .respawning x) db).claimsLeft a ≤
      (RecoveryStage.deleting x).claimsLeft a db := by
  by_cases own : x.agentId = a
  · refine after_of_ends (P := fun w' => w'.claimsLeft a ≤ _) (ends_atomically.mpr ?_)
    cases deleted : deleteAgentSync db x.agentId with
    | error =>
      have blocked := own ▸ cascadeBlocked_of_deleteAgent deleted
      rw [free own] at blocked
      cases blocked
    | ok db' =>
      simp [claimsLeft, RecoveryStage.claimsLeft, own]
  · have apart : Keeps (apart x.agentId) (atomically (deleteAgentSync · x.agentId)) :=
      keeps_atomically fun _ _ => apart_deleteAgent
    have kept := pays_of_apart (fun _ => .respawning x) (apart db) (Ne.symm own)
      fun _ db => if_neg own
    exact kept.trans_eq (if_neg own).symm

theorem respawn_pays {db : Db} (respawn : Respawn) :
    (after (attempt (x.respawn respawn))
        (fun result => .finishing x result (finishSteps result) (List.suffix_refl _)) db).claimsLeft a ≤
      (RecoveryStage.respawning x).claimsLeft a db := by
  by_cases own : x.agentId = a
  · refine after_of_ends (P := fun w' => w'.claimsLeft a ≤ _) (ends_attempt.mpr ?_)
    refine (ends_const.mpr trivial).mono fun result db' _ => ?_
    have ahead : .restoreBackoff ∈ finishSteps result := by
      rcases result with e | ⟨⟩
      · exact (by decide : .restoreBackoff ∈ failedSteps)
      · exact (by decide : .restoreBackoff ∈ returnedSteps)
    simp [claimsLeft, RecoveryStage.claimsLeft, own, ahead]
  · have apart : Ends (attempt (x.respawn respawn)) db fun _ db' =>
        db'.apart x.agentId = db.apart x.agentId := by
      refine ends_attempt.mpr ((respawn.effect ..).mono fun _ _ effect => ?_)
      have others := effect.others
      rwa [StoredAgentSpawnSpec.respawnParams, x.spec] at others
    have kept := pays_of_apart
      (fun result => .finishing x result (finishSteps result) (List.suffix_refl _)) apart
      (Ne.symm own) fun _ db => by simp only [RecoveryStage.claimsLeft, own, false_and, ↓reduceIte]
    exact kept.trans_eq (if_neg own).symm

theorem finish_pays {db : Db} (rest : step :: steps <:+ finishSteps result)
    (rest' : steps <:+ finishSteps result) (now : Int)
    (readmits : step = .requeueJob → x.agentId = a → db.readmits x.intent = true) :
    (after (step.run x result now) (fun _ => .finishing x result steps rest') db).claimsLeft a ≤
      (RecoveryStage.finishing x result (step :: steps) rest).claimsLeft a db := by
  by_cases own : x.agentId = a
  · have failed : Ends (step.run x result now) db fun r db' =>
        r.isOk = false → db'.agents.get? x.agentId = none := by
      by_cases requeue : step = .requeueJob
      · subst requeue
        refine ends_bind.mpr (ends_atomic.mpr ?_)
        cases requeued : requeueCapturedIntent db now (some x.intent) with
        | error =>
          exact fun _ => x.own ▸ requeueCapturedIntent_error (readmits rfl own) requeued
        | ok => exact nofun
      · exact FinishStep.ends_run_error x result now requeue db
    have backoff : Ends (step.run x result now) db fun _ db' => step ≠ .restoreRow →
        db'.backoffOf a = (db.backoffOf a).map (step.onBackoff x now) := by
      by_cases first : step = .restoreRow
      · exact (ends_const.mpr trivial).mono fun _ _ _ other => absurd first other
      · exact (FinishStep.ends_run_backoff x result now first db).mono fun _ _ h _ => own ▸ h
    refine after_of_ends (P := fun w' => w'.claimsLeft a ≤ _)
      ((failed.and backoff).mono fun r db' h => ?_)
    cases r with
    | ok => exact FinishStep.claimsLeft_le rest rest' own now h.2
    | error =>
      have absent := own ▸ h.1 rfl
      have none : claimsLeft a ⟨db', .idle⟩ = 0 := tally_of_absent absent _
      exact none.trans_le (Nat.zero_le _)
  · have kept := pays_of_apart (fun _ => .finishing x result steps rest')
      (step.apart_run x result now db) (Ne.symm own) fun _ db => by
        simp only [RecoveryStage.claimsLeft, own, false_and, ↓reduceIte]
    refine kept.trans_eq ?_
    simp [RecoveryStage.claimsLeft, own]

theorem proceed_pays (counted : w.counts a (.proceed respawn now) = true) :
    claimsOf a ⟨w, .proceed respawn now, w.proceed respawn now⟩ +
      (w.proceed respawn now).claimsLeft a ≤ w.claimsLeft a := by
  obtain ⟨db, stage⟩ := w
  cases stage with
  | claiming => exact claim_pays (by simpa [counts, or_iff_not_imp_left] using counted)
  | claimed => exact (Nat.zero_add _).trans_le snapshot_pays
  | deleting => exact (Nat.zero_add _).trans_le (delete_pays
      (by simpa [counts, or_iff_not_imp_left] using counted))
  | respawning => exact (Nat.zero_add _).trans_le (respawn_pays respawn)
  | finishing x result steps rest =>
    cases steps with
    | nil =>
      have ended : (finishing x result [] rest).claimsLeft a db = db.tally a left :=
        claimsLeft_of_counted (Option.some_ne_none a).symm
      exact (Nat.zero_add _).trans_le ended.ge
    | cons step steps =>
      refine (Nat.zero_add _).trans_le (finish_pays rest _ now fun requeue own => ?_)
      subst requeue
      simpa [counts, own] using counted
  | _ => exact pays_of_stage rfl (.refl a db)

/-- Every step pays for its claim, unless it clears the backoff or ends an attempt early. -/
theorem Step.pays (counted : w.counts a act = true) (spared : w.clears a act = false)
    (step : Step w act w') : claimsOf a ⟨w, act, w'⟩ + w'.claimsLeft a ≤ w.claimsLeft a := by
  obtain ⟨apart, rfl⟩ := step
  cases act with
  | start => exact start_pays spared
  | consider sqlNow => exact consider_pays sqlNow
  | proceed => exact proceed_pays counted
  | restart =>
    have idle : claimsOf a ⟨w, .restart, w.apply .restart⟩ = 0 := by
      unfold claimsOf
      cases w.stage with
      | claiming => exact if_neg fun h => Option.some_ne_none _ h.2.symm
      | _ => rfl
    rw [idle, Nat.zero_add]
    by_cases running : w.stage.uncounted = some a
    · have absent : w.db.agents.get? a = none := by simpa [counts, running] using counted
      have gone : (w.apply .restart).claimsLeft a = 0 := tally_of_absent absent _
      exact gone.trans_le (Nat.zero_le _)
    · exact (claimsLeft_of_counted running).ge
  | daemon op =>
    have loop : op.ofRecovery = false := by simpa [RecoveryAct.apart] using apart
    exact pays_of_stage rfl (DaemonOp.addsNone loop spared)
  | updateConfigHash c hash now =>
    exact pays_of_stage rfl (.of_steady (.updateAgentConfigHashSync a w.db c hash now))
  | persistSpawnSpec =>
    exact pays_of_stage rfl (commit_unit_induction (.refl _ _)
      fun _ => persistAgentSpawnSpecSync_addsNone)
  | clearBackoff c now =>
    have other : a ≠ c := fun e => of_decide_eq_false spared e.symm
    exact pays_of_stage rfl (.of_apart (apart_clearRecoveryBackoffSync w.db c now) other)
  | restoreKilledWorker => exact pays_of_stage rfl (restoreKilledWorker_addsNone spared)
  | learnRule =>
    exact pays_of_stage rfl (commit_unit_induction (.refl _ _)
      fun _ learned => .of_tables (insertLearnedRuleSync_agentTables learned))

theorem claimsLeft_le_five (a : String) (w : RecoveryWorld) : w.claimsLeft a ≤ 5 := by
  have left (db : Db) : db.tally a left ≤ 5 :=
    tally_le fun b => b.left_le.trans (Nat.succ_le_succ b.leftAfter_le)
  have after (db : Db) : db.tally a leftAfter ≤ 5 :=
    tally_le fun b => b.leftAfter_le.trans (by decide)
  have more (db : Db) : db.tally a (·.leftAfter + 1) ≤ 5 :=
    tally_le fun b => Nat.succ_le_succ b.leftAfter_le
  have saved (x : RecoveryAttempt) : x.agent.backoff.leftAfter ≤ 5 :=
    x.agent.backoff.leftAfter_le.trans (by decide)
  obtain ⟨db, stage⟩ := w
  cases stage with
  | claimed claim =>
    simp only [claimsLeft, RecoveryStage.claimsLeft]
    split_ifs
    · exact after db
    · exact more db
    · exact left db
  | deleting x | respawning x =>
    simp only [claimsLeft, RecoveryStage.claimsLeft]
    split_ifs
    · exact saved x
    · exact left db
  | finishing x =>
    simp only [claimsLeft, RecoveryStage.claimsLeft]
    split_ifs
    · exact saved x
    · exact after db
    · exact left db
  | _ => exact left db

end RecoveryWorld

/-! ## Whole runs -/

/-- The run claims `a` at most five times; when it has claimed it five times and the last
attempt is counted, the row that is there is exhausted; and it claims `a` only when the next
retry is due. -/
structure BoundedEffort (a : String) (ts : List (Transition RecoveryWorld RecoveryAct))
    (w : RecoveryWorld) : Prop where
  five : (ts.map (claimsOf a)).sum ≤ 5
  exhausted : (ts.map (claimsOf a)).sum = 5 → w.stage.uncounted ≠ some a →
    ∀ row, w.db.agents.get? a = some row → row.retryExhausted = true
  due : ∀ t ∈ ts, claimsOf a t = 1 → ∀ tick claim version rest,
    t.pre.stage = .claiming tick claim version rest → ∀ row at_,
      t.pre.db.agents.get? a = some row → row.nextRetryAt = some at_ → at_ ≤ tick

/-- Only the claim takes the loop from a candidate into an attempt. -/
theorem claims_of_claimsOf (step : Step w act w') (claims : claimsOf a ⟨w, act, w'⟩ = 1)
    (stage : w.stage = .claiming tick claim version rest) :
    claim.agentId = a ∧
      ∃ sqlNow, (tryClaimAgentRecoverySync w.db claim.agentId version tick sqlNow).1 = true := by
  obtain ⟨-, rfl⟩ := step
  simp only [claimsOf, stage] at claims
  split_ifs at claims with claimed
  obtain ⟨own, attempts⟩ := claimed
  refine ⟨own, ?_⟩
  cases act with
  | proceed respawn now =>
    refine ⟨now, ?_⟩
    simp only [apply, proceed, stage] at attempts
    split_ifs at attempts with taken
    · exact taken
    · cases attempts
  | start now =>
    simp only [apply, start, stage] at attempts
    cases attempts
  | consider now =>
    simp only [apply, consider, stage] at attempts
    cases attempts
  | restart => cases attempts
  | _ =>
    simp only [apply, stage] at attempts
    cases attempts

theorem due_of_claimsOf (step : Step w act w') (claims : claimsOf a ⟨w, act, w'⟩ = 1)
    (stage : w.stage = .claiming tick claim version rest) (found : w.db.agents.get? a = some row)
    (next : row.nextRetryAt = some at_) : at_ ≤ tick := by
  obtain ⟨rfl, sqlNow, taken⟩ := claims_of_claimsOf step claims stage
  rcases tryClaimAgentRecoverySync_cases w.db claim.agentId version tick sqlNow with
    ⟨row', found', -, due, -⟩ | refused
  · rw [found] at found'
    cases found'
    exact due at_ next
  · rw [refused] at taken
    cases taken

/-- Between two clearings of its backoff an agent is recovered with bounded effort, in every
run that counts each of its attempts. -/
theorem boundedEffort_of_counted {a : String} {w w' : RecoveryWorld}
    {ts : List (Transition RecoveryWorld RecoveryAct)} (run : Run Step w ts w')
    (spared : ∀ t ∈ ts, t.pre.clears a t.act = false)
    (counted : ∀ t ∈ ts, t.pre.counts a t.act = true) : BoundedEffort a ts w' := by
  have budget : (ts.map (claimsOf a)).sum + w'.claimsLeft a ≤ w.claimsLeft a :=
    run.sum_add_le (C := fun w act => w.counts a act = true ∧ w.clears a act = false)
      (fun _ _ _ cond step => step.pays cond.1 cond.2) fun t ht => ⟨counted t ht, spared t ht⟩
  have five := w.claimsLeft_le_five a
  refine ⟨by omega, fun all settled row found => ?_, ?_⟩
  · have none : w'.claimsLeft a = 0 := by omega
    have settled : w'.claimsLeft a = row.backoff.left :=
      (claimsLeft_of_counted settled).trans (tally_of_found found _)
    rw [settled, left] at none
    split_ifs at none with exhausted
    exact exhausted
  · refine run.forall_transition (C := fun _ _ => True)
      (fun _ _ _ _ _ _ => trivial) (fun w act w' _ _ step => ?_) trivial fun _ _ => trivial
    intro claims tick claim version rest stage row at_ found next
    exact due_of_claimsOf step claims stage found next

/-- A worker that has been spawned. -/
def spawnedWorker : RecoveryWorld :=
  apply ⟨oneSession, .idle⟩ (.daemon (.insertAgent "a1" "s1" "codex" (some 7) 0))

/-- It crashes, and no respawn brings it back. -/
def fiveFailures : List RecoveryAct :=
  RecoveryAct.spawnWorker.tail ++ [.crashWorker] ++
    [10, 20, 30, 40, 50, 60].flatMap (RecoveryAct.tick · 13)

open RecoveryWorld in
theorem boundedEffort_fiveFailures :
    ((trace apply spawnedWorker fiveFailures).map (claimsOf "a1")).sum = 5 ∧
      BoundedEffort "a1" (trace apply spawnedWorker fiveFailures)
        (fiveFailures.foldl apply spawnedWorker) :=
  ⟨by decide +kernel, boundedEffort_of_counted (run_of_list _ _ (by decide +kernel))
    (by decide +kernel) (by decide +kernel)⟩

/-- A rule is learned from the first event of the worker before it crashes. The event cannot
be deleted any more, and with it the row. -/
def citedEvent : List RecoveryAct :=
  RecoveryAct.spawnWorker.tail ++ [.learnRule none "r1" ⟨"codex", some 1⟩, .crashWorker] ++
    [10, 10, 10, 10, 10, 10].flatMap (RecoveryAct.tick · 3)

open RecoveryWorld in
/-- Each tick claims the worker, fails to delete its row and counts nothing. -/
theorem not_boundedEffort_citedEvent : ∃ ts w',
    Run Step spawnedWorker ts w' ∧ (∀ t ∈ ts, t.pre.clears "a1" t.act = false) ∧
      ¬BoundedEffort "a1" ts w' := by
  refine ⟨_, _, run_of_list spawnedWorker citedEvent (by decide +kernel), by decide +kernel, ?_⟩
  intro bounded
  have six : ((trace apply spawnedWorker citedEvent).map (claimsOf "a1")).sum = 6 := by
    decide +kernel
  have five := bounded.five
  omega

end Ccbd
