import Ccbd.Db.Schema
import Ccbd.Lib.Run

/-!
# Master generations

Several tasks replace the master of a session: the watchers of its process and of its
anchor, the realignment and the cutover. Who may do it is decided by a claim, an update of
the session's row that expects the pid and the generation the claimant has seen and
increments the generation. The world is the table of these rows, and a step is one of the
statements that write to them. One that SQLite refuses changes nothing. The generation is a
64-bit integer, in a strict table: an increment beyond it is refused.
-/

namespace Ccbd.Master

open Lib

inductive SessionStatus where
  | active
  | killed
  | failed
  | closed
deriving DecidableEq, Repr

inductive MasterState where
  | idle
  | busy
deriving DecidableEq, Repr

inductive MasterExitReason where
  | oomOrCrash
  | reviveFailed
  | intentionalKill
  | idleMasterExit
  | fused
  | masterReviveWindowExpired
deriving DecidableEq, Repr

/-- The columns of a session that are about its master. -/
structure MasterRow where
  status : SessionStatus := .active
  masterPid : Int := 0
  masterPaneId : Option String := none
  masterCmd : Option String := none
  masterRetryCount : Int := 0
  masterNextRetryAt : Int := 0
  masterGeneration : Int := 0
  masterLastExitReason : Option MasterExitReason := none
  masterState : MasterState := .idle
  masterPendingTellRequest : Option String := none
deriving DecidableEq, Repr

abbrev Masters := Table String MasterRow

inductive MasterTransitionOutcome where
  | claimed
  | stale
  | noChange
deriving DecidableEq, Repr

structure ReviveSessionMasterOutcome where
  generation : Int
  monitorKey : String
deriving DecidableEq, Repr

variable (t : Masters) (sessionId : String)

def masterMonitorKey (generation : Int) : String :=
  s!"master:{sessionId}:{generation}"

/-- `UPDATE sessions SET .. WHERE id = ?1 AND ..`: the number of changed rows and the table. -/
def updateMaster (guard : MasterRow → Bool) (f : MasterRow → MasterRow) : Nat × Masters :=
  match t.get? sessionId with
  | none => (0, t)
  | some row => if guard row then (1, t.modify sessionId f) else (0, t)

/-- A statement with `master_generation = master_generation + 1`. -/
def advanceMaster (context : String) (t : Masters) (sessionId : String) (guard : MasterRow → Bool)
    (f : MasterRow → MasterRow) : Except CcbdError (Nat × Masters) :=
  match (t.get? sessionId).filter guard with
  | none => .ok (0, t)
  | some row =>
    if row.masterGeneration + 1 < 2 ^ 63 then
      .ok (updateMaster t sessionId guard fun row =>
        { f row with masterGeneration := row.masterGeneration + 1 })
    else .error (.dbConstraintViolation
      (context ++ ": cannot store REAL value in INTEGER column sessions.master_generation"))

/-- The row is the one the caller has seen. -/
def MasterRow.isCurrent (pid generation : Int) (row : MasterRow) : Bool :=
  row.status = .active && row.masterPid = pid && row.masterGeneration = generation

/-! ## The claim and what follows it -/

def tryClaimMasterTransition (expectedPid expectedGeneration : Int) :
    Except CcbdError (MasterTransitionOutcome × Masters) := do
  let (changes, t) ← advanceMaster "claim master transition" t sessionId
    (·.isCurrent expectedPid expectedGeneration)
    fun row => { row with masterState := .idle, masterPendingTellRequest := none }
  return (if changes = 1 then .claimed else .stale, t)

def completeClaimedMasterTransition (claimedGeneration newPid : Int) (newPaneId : String) :
    Option ReviveSessionMasterOutcome × Masters :=
  let (changes, t) := updateMaster t sessionId
    (fun row => row.status = .active && row.masterGeneration = claimedGeneration)
    fun row => { row with
      masterPid := newPid
      masterPaneId := some newPaneId
      masterState := .idle
      masterPendingTellRequest := none
      masterLastExitReason := some .oomOrCrash }
  (if changes ≠ 1 then none
    else some ⟨claimedGeneration, masterMonitorKey sessionId claimedGeneration⟩, t)

def recordSpawnedMasterRuntime (paneId : String) (pid : Int) :
    Except CcbdError (Int × Masters) := do
  let (_, t) ← advanceMaster "record spawned master runtime" t sessionId (fun _ => true)
    fun row => { row with
      masterPid := pid
      masterPaneId := some paneId
      masterState := .idle
      masterPendingTellRequest := none }
  match t.get? sessionId with
  | none => .error (.dbConstraintViolation "query spawned master generation: Query returned no rows")
  | some row => return (row.masterGeneration, t)

def recordSpawnedMasterRuntimeAfterClaim (paneId : String)
    (pid claimedGeneration : Int) : Option Int × Masters :=
  let (changes, t) := updateMaster t sessionId
    (fun row => row.status = .active && row.masterGeneration = claimedGeneration)
    fun row => { row with
      masterPid := pid
      masterPaneId := some paneId
      masterState := .idle
      masterPendingTellRequest := none }
  (if changes = 1 then some claimedGeneration else none, t)

/-! ## The writers of the status -/

/-- The session ends: its master has nothing to do any more. -/
def MasterRow.ended (status : SessionStatus) (reason : MasterExitReason) (row : MasterRow) :
    MasterRow :=
  { row with
    status := status
    masterState := .idle
    masterPendingTellRequest := none
    masterLastExitReason := some reason }

def MasterRow.isActive (row : MasterRow) : Bool := row.status = .active

def markSessionClosedAfterIdleMasterDeath : Nat × Masters :=
  updateMaster t sessionId (·.isActive) (·.ended .closed .idleMasterExit)

def markAllSessionsIntentionalShutdown : Masters :=
  t.updateWhere (fun _ row => row.isActive) (·.ended .killed .intentionalKill)

def fuseSessionAfterMasterReviveExhausted : Nat × Masters :=
  updateMaster t sessionId (fun _ => true) (·.ended .failed .fused)

def markSessionIntentionalKilled : Nat × Masters :=
  updateMaster t sessionId (·.isActive) (·.ended .killed .intentionalKill)

/-- The status change of `cascade_kill_session_agents`. -/
def cascadeKillSession : Nat × Masters :=
  updateMaster t sessionId (·.isActive) ({ · with status := .killed })

def markTerminalSessionKilled : Nat × Masters :=
  updateMaster t sessionId (!·.isActive) ({ · with status := .killed, masterState := .idle })

/-- The status change of a cutover that is rolled back. -/
def rollbackCutoverSession : Nat × Masters :=
  updateMaster t sessionId (·.isActive) ({ · with status := .failed })

/-- The status change of `expire_master_recovery_window`. -/
def expireMasterRecoverySession : Nat × Masters :=
  updateMaster t sessionId (fun _ => true)
    ({ · with status := .failed, masterLastExitReason := some .masterReviveWindowExpired })

def migrateSessionsFailedIdleToClosed : Masters :=
  t.updateWhere (fun _ row => row.status = .failed && row.masterLastExitReason = some .idleMasterExit)
    ({ · with status := .closed })

/-! ## The other writers -/

def insertSession : Except CcbdError (Unit × Masters) :=
  if (t.get? sessionId).isSome then
    .error (.dbConstraintViolation "insert session: UNIQUE constraint failed: sessions.id")
  else .ok ((), t.insert sessionId {})

def persistRevivedMasterCmd (masterCmd : String) : Nat × Masters :=
  updateMaster t sessionId (fun _ => true) ({ · with masterCmd := some masterCmd })

/-- The retry of the attempt; the fifth one is followed by the fuse. -/
def recordMasterReviveAttempt (currentPid claimedGeneration now : Int) : Nat × Masters :=
  updateMaster t sessionId (·.isCurrent currentPid claimedGeneration) fun row =>
    let newCount := row.masterRetryCount + 1
    { row with
      masterRetryCount := newCount
      masterNextRetryAt := now + 2 ^ (min (newCount - 1) 4).toNat
      masterLastExitReason := some .reviveFailed }

def confirmMasterStable (expectedPid expectedGeneration : Int) : Nat × Masters :=
  updateMaster t sessionId (·.isCurrent expectedPid expectedGeneration)
    ({ · with masterRetryCount := 0, masterNextRetryAt := 0 })

def setSessionMasterPaneId (paneId : String) : Nat × Masters :=
  updateMaster t sessionId (fun _ => true) ({ · with masterPaneId := some paneId })

def applyMasterNotifyEvent (eventGeneration : Int)
    (newState : MasterState) (clearPendingRequest : Bool) : Nat × Masters :=
  updateMaster t sessionId
    (fun row => row.isActive && row.masterGeneration = eventGeneration) fun row =>
    { row with
      masterState := newState
      masterPendingTellRequest :=
        if clearPendingRequest then none else row.masterPendingTellRequest }

def masterTellBegin (requestId : String) : Nat × Masters :=
  updateMaster t sessionId (·.isActive) ({ · with masterPendingTellRequest := some requestId })

def masterTellFailed (requestId : String) : Nat × Masters :=
  updateMaster t sessionId (·.masterPendingTellRequest = some requestId)
    ({ · with masterPendingTellRequest := none })

/-! ## The system -/

inductive MasterOp where
  | tryClaim (sessionId : String) (expectedPid expectedGeneration : Int)
  | completeClaimed (sessionId : String) (claimedGeneration newPid : Int) (newPaneId : String)
  | recordSpawned (sessionId paneId : String) (pid : Int)
  | recordSpawnedAfterClaim (sessionId paneId : String) (pid claimedGeneration : Int)
  | closeAfterIdleMasterDeath (sessionId : String)
  | intentionalShutdown
  | fuse (sessionId : String)
  | intentionalKill (sessionId : String)
  | cascadeKill (sessionId : String)
  | terminalKill (sessionId : String)
  | rollbackCutover (sessionId : String)
  | expireRecovery (sessionId : String)
  | migrateFailedIdle
  | insert (sessionId : String)
  | persistMasterCmd (sessionId masterCmd : String)
  | reviveAttempt (sessionId : String) (currentPid claimedGeneration now : Int)
  | confirmStable (sessionId : String) (expectedPid expectedGeneration : Int)
  | setPaneId (sessionId paneId : String)
  | notify (sessionId : String) (eventGeneration : Int) (newState : MasterState)
      (clearPendingRequest : Bool)
  | tellBegin (sessionId requestId : String)
  | tellFailed (sessionId requestId : String)

/-- The table after a statement that may fail. -/
def committed {α : Type} (r : Except CcbdError (α × Masters)) (t : Masters) : Masters :=
  match r with
  | .ok (_, t') => t'
  | .error _ => t

def MasterOp.apply : MasterOp → Masters
  | .tryClaim sessionId pid generation =>
    committed (tryClaimMasterTransition t sessionId pid generation) t
  | .completeClaimed sessionId generation pid paneId =>
    (completeClaimedMasterTransition t sessionId generation pid paneId).2
  | .recordSpawned sessionId paneId pid =>
    committed (recordSpawnedMasterRuntime t sessionId paneId pid) t
  | .recordSpawnedAfterClaim sessionId paneId pid generation =>
    (recordSpawnedMasterRuntimeAfterClaim t sessionId paneId pid generation).2
  | .closeAfterIdleMasterDeath sessionId => (markSessionClosedAfterIdleMasterDeath t sessionId).2
  | .intentionalShutdown => markAllSessionsIntentionalShutdown t
  | .fuse sessionId => (fuseSessionAfterMasterReviveExhausted t sessionId).2
  | .intentionalKill sessionId => (markSessionIntentionalKilled t sessionId).2
  | .cascadeKill sessionId => (cascadeKillSession t sessionId).2
  | .terminalKill sessionId => (markTerminalSessionKilled t sessionId).2
  | .rollbackCutover sessionId => (rollbackCutoverSession t sessionId).2
  | .expireRecovery sessionId => (expireMasterRecoverySession t sessionId).2
  | .migrateFailedIdle => migrateSessionsFailedIdleToClosed t
  | .insert sessionId => committed (insertSession t sessionId) t
  | .persistMasterCmd sessionId masterCmd => (persistRevivedMasterCmd t sessionId masterCmd).2
  | .reviveAttempt sessionId pid generation now =>
    (recordMasterReviveAttempt t sessionId pid generation now).2
  | .confirmStable sessionId pid generation => (confirmMasterStable t sessionId pid generation).2
  | .setPaneId sessionId paneId => (setSessionMasterPaneId t sessionId paneId).2
  | .notify sessionId generation newState clearPendingRequest =>
    (applyMasterNotifyEvent t sessionId generation newState clearPendingRequest).2
  | .tellBegin sessionId requestId => (masterTellBegin t sessionId requestId).2
  | .tellFailed sessionId requestId => (masterTellFailed t sessionId requestId).2

def MasterOp.Step (op : MasterOp) (t' : Masters) : Prop := t' = op.apply t

variable {t sessionId}

/-! ## What a step can do -/

theorem get?_updateMaster (t : Masters) (sessionId : String) (guard : MasterRow → Bool)
    (f : MasterRow → MasterRow) (k : String) :
    (updateMaster t sessionId guard f).2.get? k =
      if k = sessionId then (t.get? k).map fun row => if guard row then f row else row
      else t.get? k := by
  unfold updateMaster
  by_cases same : k = sessionId
  · subst same
    cases held : t.get? k with
    | none => simp [held]
    | some row => cases passes : guard row <;> simp [passes, held]
  · rw [if_neg same]
    split
    · rfl
    · split
      · exact Table.get?_modify_of_ne t f same
      · rfl

theorem updateMaster_changes (t : Masters) (sessionId : String) (guard : MasterRow → Bool)
    (f : MasterRow → MasterRow) :
    (updateMaster t sessionId guard f).1 = 1 ∧ (∃ row, t.get? sessionId = some row ∧ guard row) ∨
      updateMaster t sessionId guard f = (0, t) ∧ ∀ row, t.get? sessionId = some row → ¬ guard row := by
  unfold updateMaster
  cases t.get? sessionId with
  | none => exact .inr ⟨rfl, by simp⟩
  | some row => cases passes : guard row <;> simp [passes]

/-- Every session stays, and no generation decreases. -/
def Ascends (t t' : Masters) : Prop :=
  ∀ k row, t.get? k = some row →
    ∃ row', t'.get? k = some row' ∧ row.masterGeneration ≤ row'.masterGeneration

theorem Ascends.refl (t : Masters) : Ascends t t := fun _ row held => ⟨row, held, le_rfl⟩

theorem updateMaster_ascends (t : Masters) (sessionId : String) (guard : MasterRow → Bool)
    (up : ∀ row, row.masterGeneration ≤ (f row).masterGeneration) :
    Ascends t (updateMaster t sessionId guard f).2 := by
  intro k row held
  rw [get?_updateMaster, held]
  split_ifs
  · refine ⟨_, rfl, ?_⟩
    dsimp only
    split_ifs
    · exact up row
    · exact le_rfl
  · exact ⟨row, rfl, le_rfl⟩

theorem updateWhere_ascends (t : Masters) (p : String → MasterRow → Bool)
    (up : ∀ row, row.masterGeneration ≤ (f row).masterGeneration) :
    Ascends t (t.updateWhere p f) := by
  intro k row held
  rw [Table.get?_updateWhere, held]
  refine ⟨_, rfl, ?_⟩
  dsimp only
  split_ifs
  · exact up row
  · exact le_rfl

variable {generation : Int} {t t' : Masters} {sessionId : String}

theorem advanceMaster_ok {guard : MasterRow → Bool}
    (h : advanceMaster context t sessionId guard f = .ok (changes, t')) :
    changes = 0 ∧ t' = t ∨
      ∃ row, t.get? sessionId = some row ∧ guard row ∧ t' = t.modify sessionId fun row =>
        { f row with masterGeneration := row.masterGeneration + 1 } := by
  unfold advanceMaster at h
  cases found : (t.get? sessionId).filter guard with
  | none =>
    rw [found] at h
    cases h
    exact .inl ⟨rfl, rfl⟩
  | some row =>
    obtain ⟨held, passes⟩ := Option.filter_eq_some_iff.mp found
    rw [found] at h
    dsimp only at h
    split_ifs at h
    simp only [updateMaster, held, passes] at h
    cases h
    exact .inr ⟨row, held, passes, rfl⟩

theorem modify_ascends (t : Masters) (sessionId : String)
    (up : ∀ row, row.masterGeneration ≤ (f row).masterGeneration) :
    Ascends t (t.modify sessionId f) := by
  intro k row held
  rw [Table.get?_modify, held]
  split_ifs
  · exact ⟨_, rfl, up row⟩
  · exact ⟨_, rfl, le_rfl⟩

theorem advanceMaster_ascends {guard : MasterRow → Bool}
    (h : advanceMaster context t sessionId guard f = .ok (changes, t')) : Ascends t t' := by
  rcases advanceMaster_ok h with ⟨-, rfl⟩ | ⟨row, -, -, rfl⟩
  · exact .refl t'
  · exact modify_ascends t sessionId fun row => by dsimp only; omega

theorem committed_ascends {α : Type} {r : Except CcbdError (α × Masters)}
    (success : ∀ a t', r = .ok (a, t') → Ascends t t') : Ascends t (committed r t) := by
  match r with
  | .ok (a, t') => exact success a t' rfl
  | .error _ => exact .refl t

/-- The claim that succeeds met the row as expected and leaves the next generation. -/
theorem tryClaimMasterTransition_ok
    (h : tryClaimMasterTransition t sessionId pid generation = .ok (outcome, t')) :
    Ascends t t' ∧
      (outcome = .claimed → ∃ row row', t.get? sessionId = some row ∧ row.isCurrent pid generation ∧
        t'.get? sessionId = some row' ∧ row'.masterGeneration = generation + 1) := by
  obtain ⟨⟨changes, t₁⟩, advanced, h⟩ := bind_eq_ok.mp h
  cases h
  refine ⟨advanceMaster_ascends advanced, fun claimed => ?_⟩
  rcases advanceMaster_ok advanced with ⟨rfl, -⟩ | ⟨row, held, current, rfl⟩
  · cases claimed
  · refine ⟨row, _, held, current, by rw [Table.get?_modify, if_pos rfl, held]; rfl, ?_⟩
    have same : row.masterGeneration = generation := by
      simp only [MasterRow.isCurrent, Bool.and_eq_true, decide_eq_true_eq] at current
      exact current.2
    simp [same]

theorem recordSpawnedMasterRuntime_ascends
    (h : recordSpawnedMasterRuntime t sessionId paneId pid = .ok (generation, t')) :
    Ascends t t' := by
  obtain ⟨⟨changes, t₁⟩, advanced, h⟩ := bind_eq_ok.mp h
  dsimp only at h
  split at h
  · cases h
  · cases h
    exact advanceMaster_ascends advanced

theorem insertSession_ascends (h : insertSession t sessionId = .ok (u, t')) : Ascends t t' := by
  unfold insertSession at h
  split_ifs at h with taken
  cases h
  have absent : t.get? sessionId = none := by simpa using taken
  intro k row held
  rw [Table.get?_insert absent]
  split_ifs with same
  · rw [same, absent] at held
    cases held
  · exact ⟨row, held, le_rfl⟩

theorem apply_ascends (t : Masters) (op : MasterOp) : Ascends t (op.apply t) := by
  cases op with
  | tryClaim sessionId pid generation =>
    exact committed_ascends fun _ _ h => (tryClaimMasterTransition_ok h).1
  | recordSpawned sessionId paneId pid =>
    exact committed_ascends fun _ _ h => recordSpawnedMasterRuntime_ascends h
  | insert sessionId => exact committed_ascends fun _ _ h => insertSession_ascends h
  | intentionalShutdown | migrateFailedIdle => exact updateWhere_ascends t _ fun _ => le_rfl
  | _ => exact updateMaster_ascends t _ _ fun _ => le_rfl

theorem Ascends.trans (h : Ascends t t') (h' : Ascends t' t'') : Ascends t t'' := by
  intro k row held
  obtain ⟨row', held', up⟩ := h k row held
  obtain ⟨row'', held'', up'⟩ := h' k row' held'
  exact ⟨row'', held'', up.trans up'⟩

/-- Whether the transition is a claim with this expectation that is granted. -/
def claimsGranted (sessionId : String) (pid generation : Int)
    (tr : Transition Masters MasterOp) : Nat :=
  match tr.act with
  | .tryClaim s p g =>
    if s = sessionId ∧ p = pid ∧ g = generation then
      match tryClaimMasterTransition tr.pre s p g with
      | .ok (.claimed, _) => 1
      | _ => 0
    else 0
  | _ => 0

theorem claimsGranted_eq (sessionId : String) (pid generation : Int) (t : Masters) (op : MasterOp) :
    claimsGranted sessionId pid generation ⟨t, op, op.apply t⟩ = 0 ∨
      claimsGranted sessionId pid generation ⟨t, op, op.apply t⟩ = 1 ∧
        ∃ row row', t.get? sessionId = some row ∧ row.masterGeneration = generation ∧
          (op.apply t).get? sessionId = some row' ∧ row'.masterGeneration = generation + 1 := by
  unfold claimsGranted
  cases op with
  | tryClaim s p g =>
    dsimp only
    split_ifs with same
    · obtain ⟨rfl, rfl, rfl⟩ := same
      split
      · rename_i t' claimed
        obtain ⟨row, row', held, current, held', next⟩ :=
          (tryClaimMasterTransition_ok claimed).2 rfl
        simp only [MasterRow.isCurrent, Bool.and_eq_true, decide_eq_true_eq] at current
        refine .inr ⟨rfl, row, row', held, current.2, ?_, next⟩
        simpa [MasterOp.apply, claimed, committed] using held'
      · exact .inl rfl
    · exact .inl rfl
  | _ => exact .inl rfl

theorem completion_stale (stale : ∀ row, t.get? sessionId = some row →
      row.status ≠ .active ∨ row.masterGeneration ≠ generation) (f : MasterRow → MasterRow) :
    updateMaster t sessionId
      (fun row => row.status = .active && row.masterGeneration = generation) f = (0, t) := by
  rcases updateMaster_changes t sessionId
    (fun row => row.status = .active && row.masterGeneration = generation) f with
    ⟨-, row, held, passes⟩ | ⟨unchanged, -⟩
  · simp only [Bool.and_eq_true, decide_eq_true_eq] at passes
    rcases stale row held with ended | old
    · exact absurd passes.1 ended
    · exact absurd passes.2 old
  · exact unchanged

/-- The calls that complete a claim. -/
def MasterOp.Completes (op : MasterOp) (sessionId : String) (generation : Int) : Prop :=
  ∃ pid paneId, op = .completeClaimed sessionId generation pid paneId ∨
    op = .recordSpawnedAfterClaim sessionId paneId pid generation

theorem apply_completion_stale {op : MasterOp} (completes : op.Completes sessionId generation)
    (stale : ∀ row, t.get? sessionId = some row →
      row.status ≠ .active ∨ row.masterGeneration ≠ generation) : op.apply t = t := by
  obtain ⟨pid, paneId, rfl | rfl⟩ := completes
  · simp [MasterOp.apply, completeClaimedMasterTransition, completion_stale stale]
  · simp [MasterOp.apply, recordSpawnedMasterRuntimeAfterClaim, completion_stale stale]

/-- In every interleaving no generation decreases, a claim is granted at most once for the
same expectation, and a completion that comes too late changes nothing. -/
theorem master_fencing {t t' : Masters} {ts : List (Transition Masters MasterOp)}
    (run : Run MasterOp.Step t ts t') :
    (Ascends t t' ∧ (∀ tr ∈ ts, Ascends t tr.pre ∧ Ascends tr.pre tr.post) ∧
      ts.Pairwise fun tr tr' => Ascends tr.post tr'.pre) ∧
    (∀ sessionId pid generation, (ts.map (claimsGranted sessionId pid generation)).sum ≤ 1) ∧
    ∀ tr ∈ ts, ∀ sessionId generation, tr.act.Completes sessionId generation →
      (∀ row, tr.pre.get? sessionId = some row →
        row.status ≠ .active ∨ row.masterGeneration ≠ generation) → tr.post = tr.pre := by
  refine ⟨?_, fun sessionId pid generation => ?_, fun tr mem => ?_⟩
  · refine run.relates Ascends.refl (fun _ _ _ => Ascends.trans) ?_
    rintro t op t' rfl
    exact apply_ascends t op
  · refine (Run.sum_le_one (P := fun t => ∃ row, t.get? sessionId = some row ∧
      generation < row.masterGeneration) ?_ ?_ ?_ run).1
    · rintro t op t' rfl ⟨row, held, later⟩
      obtain ⟨row', held', up⟩ := apply_ascends t op sessionId row held
      exact ⟨row', held', by omega⟩
    · rintro t op t' rfl ⟨row, held, later⟩
      rcases claimsGranted_eq sessionId pid generation t op with none | ⟨-, row', -, held', same, -⟩
      · exact none
      · rw [held] at held'
        cases held'
        omega
    · rintro t op t' rfl
      rcases claimsGranted_eq sessionId pid generation t op with none | ⟨one, -, row', -, -, held', next⟩
      · exact .inl none
      · exact .inr ⟨one, row', held', by omega⟩
  · exact Run.forall_transition (C := fun _ _ => True)
      (P := fun tr => ∀ sessionId generation, tr.act.Completes sessionId generation →
        (∀ row, tr.pre.get? sessionId = some row →
          row.status ≠ .active ∨ row.masterGeneration ≠ generation) → tr.post = tr.pre)
      (fun _ _ _ _ _ _ => trivial)
      (by rintro t op t' - - rfl sessionId generation completes stale
          exact apply_completion_stale completes stale)
      run trivial (fun _ _ => trivial) tr mem

/-- Two watchers claim the same master; the loser's completion comes after the winner's
session was killed. -/
def racingClaims : List MasterOp :=
  [.insert "s1", .recordSpawned "s1" "%1" 111, .tryClaim "s1" 111 1, .tryClaim "s1" 111 1,
    .completeClaimed "s1" 2 222 "%2", .intentionalKill "s1", .completeClaimed "s1" 2 333 "%3"]

theorem master_fencing_race : ∃ (t t' : Masters) (ts : List (Transition Masters MasterOp)),
    (Run MasterOp.Step t ts t' ∧ (ts.map (claimsGranted "s1" 111 1)).sum = 1 ∧
      (t'.get? "s1").map (·.masterPid) = some 222) ∧
    (Ascends t t' ∧ (∀ tr ∈ ts, Ascends t tr.pre ∧ Ascends tr.pre tr.post) ∧
      ts.Pairwise fun tr tr' => Ascends tr.post tr'.pre) ∧
    (∀ sessionId pid generation, (ts.map (claimsGranted sessionId pid generation)).sum ≤ 1) ∧
    ∀ tr ∈ ts, ∀ sessionId generation, tr.act.Completes sessionId generation →
      (∀ row, tr.pre.get? sessionId = some row →
        row.status ≠ .active ∨ row.masterGeneration ≠ generation) → tr.post = tr.pre := by
  have run := Run.of_list (f := fun t op => MasterOp.apply t op) Table.empty racingClaims
  exact ⟨_, _, _, ⟨run, by decide +kernel, by decide +kernel⟩, master_fencing run⟩

end Ccbd.Master
