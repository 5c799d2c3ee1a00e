import Ccbd.Master.DeathWatch

/-!
# Failed revivals

A call that finds work in the session and cannot spawn a replacement leaves the session with
its dead master, for the next call. That one decides anew whether there is work, and by then
the workers are down. What it can still find is the lasting work.
-/

namespace Ccbd.Master

open Lib

/-- The session is active, no cutover is under way, and its master is the one with this pid
and generation. -/
def Awaits (m : MasterDb) (sessionId : String) (pid generation : Int) : Prop :=
  masterCutoverInflight m sessionId = false ∧
    (m.masters.get? sessionId).any (·.isCurrent pid generation) = true

instance (m : MasterDb) (sessionId : String) (pid generation : Int) :
    Decidable (Awaits m sessionId pid generation) :=
  inferInstanceAs (Decidable (_ ∧ _))

variable {e : CcbdError} {db db' : Db} {p : RevivePoint} {s : String} {α : Type}

theorem awaits_iff :
    Awaits m s pid g ↔ masterCutoverInflight m s = false ∧
      ∃ row, m.masters.get? s = some row ∧ row.isCurrent pid g = true := by
  simp only [Awaits, Option.any_eq_true]

theorem Awaits.of_eq (h : Awaits m s pid g) (masters : m'.masters.get? s = m.masters.get? s)
    (cutovers : m'.cutovers = m.cutovers) : Awaits m' s pid g := by
  rw [awaits_iff] at *
  rwa [masters, masterCutoverInflight, cutovers]

/-- While the call waits for the database nobody ends the session or replaces its master,
and if `b` tells whether the session has lasting work, that stays so. -/
structure ReviveCall.Undisturbed (call : ReviveCall) (b : Bool) : Prop where
  awaits : ∀ p m g, Awaits m call.sessionId call.expectedPid g →
    Awaits (call.between p m) call.sessionId call.expectedPid g
  work : ∀ p m, lastingWork m.db call.sessionId = b →
    lastingWork (call.between p m).db call.sessionId = b

/-- Where a call stands: its session still awaits a master for the generation. -/
structure Stands (call : ReviveCall) (b : Bool) (g : Int) (log : List ReviveEvent)
    (w : DeathWorld) : Prop where
  awaits : Awaits w.m call.sessionId call.expectedPid g
  work : lastingWork w.m.db call.sessionId = b
  log : w.log = log

section Steps

variable {call : ReviveCall} {b : Bool} {g : Int} {log : List ReviveEvent} {w : DeathWorld}

theorem ends_transact {Q : Except CcbdError α → DeathWorld → Prop} :
    Ends (transact call p t) w Q ↔
      match t (call.between p w.m) with
      | .ok (a, m') => Q (.ok a) { w with m := m' }
      | .error e => Q (.error e) { w with m := call.between p w.m } := by
  rw [transact, ends_bind, ends_modify]
  rw [ends_zoom, ends_atomic]
  cases t (call.between p w.m) <;> rfl

theorem Stands.returns_transact
    {R : α → DeathWorld → Prop} (h : Stands call b g log w) (calm : call.Undisturbed b)
    (step : ∀ m, Stands call b g log ⟨m, log⟩ → ∃ a m', t m = .ok (a, m') ∧ R a ⟨m', log⟩) :
    Returns (transact call p t) w R := by
  obtain ⟨a, m', e, r⟩ := step (call.between p w.m)
    ⟨calm.awaits p w.m g h.awaits, calm.work p w.m h.work, rfl⟩
  refine ⟨a, { w with m := m' }, ?_, by rwa [h.log]⟩
  exact bind_eq_ok_iff.mpr ⟨(), _, rfl, zoom_eq_ok_iff.mpr ⟨m', atomic_eq_ok_iff.mpr e, rfl⟩⟩

theorem Stands.returns_query {f : MasterDb → α} (h : Stands call b g log w)
    (calm : call.Undisturbed b) :
    Returns (transact call p fun m => .ok (f m, m)) w fun a w' =>
      a = f w'.m ∧ Stands call b g log w' :=
  h.returns_transact calm fun m held => ⟨_, m, rfl, rfl, held⟩

theorem Stands.returns_markPhase (h : Stands call b g log w) (calm : call.Undisturbed b)
    (newPhase : RecoveryPhase) :
    Returns (markMasterRecoveryPhase call newPhase) w fun _ w' => Stands call b g log w' := by
  refine h.returns_transact calm fun m held => ⟨_, _, rfl, ?_⟩
  unfold updateMasterRecoveryPhaseSync updateWindow
  split_ifs
  · exact ⟨held.awaits.of_eq rfl rfl, held.work, rfl⟩
  · exact held

theorem Stands.returns_classifyMasterDeath (h : Stands call b call.expectedGeneration log w)
    (calm : call.Undisturbed b) (woken : Bool) :
    Returns (classifyMasterDeath call woken) w fun a w' =>
      a = .revive ∧ Stands call b call.expectedGeneration log w' := by
  refine (h.returns_query calm).bind fun read w₁ first => ?_
  obtain ⟨rfl, stands⟩ := first
  obtain ⟨-, row, found, current⟩ := awaits_iff.mp stands.awaits
  simp only [MasterRow.isCurrent, Bool.and_eq_true, decide_eq_true_eq] at current
  rw [found]
  dsimp only
  rw [if_neg (by simp [current.1.1])]
  refine (stands.returns_query calm).bind fun inflight w₂ second => ?_
  rw [second.1, (awaits_iff.mp second.2.awaits).1, if_neg Bool.false_ne_true,
    if_pos ⟨current.1.2, current.2⟩]
  exact .pure ⟨rfl, second.2⟩

theorem Stands.returns_beginWindow (h : Stands call b g log w) (calm : call.Undisturbed b)
    (classification : MasterDeathSessionActivity) :
    Returns (beginMasterRecoveryWindowForSnapshot call classification) w fun _ w' =>
      Stands call b g log w' := by
  refine h.returns_transact calm fun m held => ?_
  obtain ⟨-, row, found, -⟩ := awaits_iff.mp held.awaits
  unfold beginMasterRecoveryWindowSync
  split
  · rw [insertWindow_held found]
    exact ⟨_, _, rfl, held.awaits.of_eq rfl rfl, held.work, rfl⟩
  · split_ifs
    all_goals exact ⟨_, _, rfl, held.awaits.of_eq rfl rfl, held.work, rfl⟩

theorem Stands.returns_cleanWorker (h : Stands call b g log w) (calm : call.Undisturbed b)
    (agentId : String) :
    Returns (cleanWorker call agentId) w fun _ w' => Stands call b g log w' := by
  refine h.returns_transact calm fun m held => ?_
  obtain ⟨⟨n, db'⟩, killed⟩ := markAgentKilledForMasterDeathSync_succeeds m.db agentId
    "MASTER_EXIT" (call.clock (.worker agentId))
  refine ⟨n, { m with db := db' }, map_eq_ok.mpr ⟨_, killed, rfl⟩, held.awaits.of_eq rfl rfl, ?_, rfl⟩
  exact (lastingWork_markAgentKilled killed call.sessionId).trans held.work

theorem Stands.returns_cleanWorkers (h : Stands call b g log w) (calm : call.Undisturbed b)
    (workerIds : List String) :
    Returns (cleanWorkersAfterMasterDeath call workerIds) w fun _ w' =>
      Stands call b g log w' :=
  returns_forEach (fun agentId _ _ held => held.returns_cleanWorker calm agentId) h

theorem Stands.returns_waitForRetry (h : Stands call b call.expectedGeneration log w)
    (calm : call.Undisturbed b) :
    Returns (waitForMasterReviveRetryBackoff call) w fun a w' =>
      a = true ∧ Stands call b call.expectedGeneration log w' := by
  refine (h.returns_query calm).bind fun nextRetryAt w₁ read => ?_
  split_ifs
  · refine (read.2.returns_classifyMasterDeath calm true).bind fun decision w₂ woken => ?_
    rw [woken.1, if_neg (by simp)]
    exact .pure ⟨rfl, woken.2⟩
  · exact .pure ⟨rfl, read.2⟩

theorem tryClaimMasterTransition_current
    (held : t.get? s = some row) (current : row.isCurrent pid g = true) (bound : g + 1 < 2 ^ 63) :
    ∃ t', tryClaimMasterTransition t s pid g = .ok (.claimed, t') ∧
      ∃ row', t'.get? s = some row' ∧ row'.isCurrent pid (g + 1) = true := by
  have parts := current
  simp only [MasterRow.isCurrent, Bool.and_eq_true, decide_eq_true_eq] at parts
  obtain ⟨⟨active, same⟩, generation⟩ := parts
  simp only [tryClaimMasterTransition, advanceMaster, held, Option.filter_some, current,
    if_true, generation, bound, updateMaster]
  refine ⟨_, rfl, _, by rw [Table.get?_modify_self, held]; rfl, ?_⟩
  simp [MasterRow.isCurrent, active, same, generation]

theorem Stands.returns_claim (h : Stands call b call.expectedGeneration log w)
    (calm : call.Undisturbed b)
    (bound : call.expectedGeneration + 1 < 2 ^ 63) :
    Returns (claimMasterReviveGeneration call) w fun a w' =>
      a = some (call.expectedGeneration + 1) ∧
        Stands call b (call.expectedGeneration + 1) log w' := by
  refine Returns.bind (R := fun a w' => a = .claimed ∧
    Stands call b (call.expectedGeneration + 1) log w') ?_ fun a w₁ claimed => ?_
  · refine h.returns_transact calm fun m held => ?_
    obtain ⟨noCutover, row, found, current⟩ := awaits_iff.mp held.awaits
    obtain ⟨t', claimed, row', found', current'⟩ :=
      tryClaimMasterTransition_current found current bound
    refine ⟨.claimed, { m with masters := t' }, map_eq_ok.mpr ⟨_, claimed, rfl⟩, rfl, ?_, held.work,
      rfl⟩
    exact awaits_iff.mpr ⟨noCutover, row', found', current'⟩
  · rw [claimed.1, if_pos rfl]
    exact .pure ⟨rfl, claimed.2⟩

theorem transact_log (call : ReviveCall) (p : RevivePoint)
    (t : MasterDb → Except CcbdError (α × MasterDb)) :
    Keeps DeathWorld.log (transact call p t) := by
  intro w
  rw [ends_transact]
  split <;> rfl

theorem markMasterRecoveryPhase_log (call : ReviveCall) (newPhase : RecoveryPhase) :
    Keeps DeathWorld.log (markMasterRecoveryPhase call newPhase) :=
  transact_log call _ _

theorem finishRevival_log (call : ReviveCall) (claimedGeneration : Int)
    (spawned : SpawnedRevivedMaster) :
    Keeps DeathWorld.log (finishRevival call claimedGeneration spawned) := by
  refine (transact_log call _ _).bind fun outcome => ?_
  split_ifs
  · exact markMasterRecoveryPhase_log call _
  · refine (markMasterRecoveryPhase_log call _).bind fun _ => ?_
    refine (transact_log call _ _).bind fun _ w => ?_
    rw [ends_zoom, ends_ofStep]

/-- The attempt is counted: it is for a spawn, or the last one and the session is fused. -/
theorem Stands.returns_attempt (h : Stands call b (call.expectedGeneration + 1) log w)
    (calm : call.Undisturbed b) :
    Returns (recordMasterReviveSpawnAttempt call (call.expectedGeneration + 1)) w fun a w' =>
      a = true ∧ Stands call b (call.expectedGeneration + 1) log w' ∨
        a = false ∧ w'.log = log ++ [.fuse] := by
  refine Returns.bind (R := fun a w' => a ≠ .stale ∧
    Stands call b (call.expectedGeneration + 1) log w') ?_ fun decision w₁ counted => ?_
  · refine h.returns_transact calm fun m held => ⟨_, _, rfl, ?_, ?_, held.work, rfl⟩
    · obtain ⟨-, row, found, current⟩ := awaits_iff.mp held.awaits
      simp only [attemptDecision, found, Option.filter_some, current, if_true]
      split_ifs <;> simp
    · obtain ⟨noCutover, row, found, current⟩ := awaits_iff.mp held.awaits
      refine awaits_iff.mpr ⟨noCutover, ?_⟩
      dsimp only [recordMasterReviveAttempt]
      rw [get?_updateMaster, if_pos rfl, found, Option.map_some, if_pos current]
      refine ⟨_, rfl, ?_⟩
      simpa only [MasterRow.isCurrent] using current
  · cases decision with
    | stale => exact absurd rfl counted.1
    | spawn =>
      refine (counted.2.returns_markPhase calm .masterSpawning).bind fun _ w₂ held => ?_
      exact .pure (.inl ⟨rfl, held⟩)
    | fused =>
      refine ⟨false, _, rfl, .inr ⟨rfl, ?_⟩⟩
      show w₁.log ++ [ReviveEvent.fuse] = _
      rw [counted.2.log]

theorem Stands.ends_reviveMaster (h : Stands call b call.expectedGeneration log w)
    (calm : call.Undisturbed b) (bound : call.expectedGeneration + 1 < 2 ^ 63) :
    Ends (reviveMaster call) w fun _ w' =>
      w'.log = log ++ [.spawn] ∨ w'.log = log ++ [.fuse] := by
  refine (h.returns_markPhase calm .workersReaped).ends_bind fun _ w₁ reaped => ?_
  refine (reaped.returns_waitForRetry calm).ends_bind fun go w₂ waited => ?_
  rw [waited.1, if_pos rfl]
  refine (waited.2.returns_claim calm bound).ends_bind fun claimed w₃ granted => ?_
  rw [granted.1]
  refine (granted.2.returns_attempt calm).ends_bind fun go w₄ counted => ?_
  rcases counted with ⟨rfl, stands⟩ | ⟨rfl, fused⟩
  · rw [if_pos rfl, spawnReplacementMasterPane, record, bind_assoc, ends_bind, ends_modify]
    rw [ends_bind, ends_ofResult, stands.log]
    cases call.spawn with
    | error e => exact .inl rfl
    | ok master => exact ((finishRevival_log call _ master) _).mono fun _ _ same => .inl same
  · exact .inr fused

theorem ends_reviveMasterAfterExitLocked
    (windowed : Ends (reviveMasterAfterExitWindowed call) w fun _ w' =>
      w'.log = log ++ [.spawn] ∨ w'.log = log ++ [.fuse]) :
    Ends (reviveMasterAfterExitLocked call) w fun _ w' =>
      w'.log = log ++ [.spawn] ∨ w'.log = log ++ [.fuse] := by
  refine ends_bind.mpr (ends_attempt.mpr (windowed.mono fun r w' done => ?_))
  cases r with
  | ok => exact done
  | error e =>
    refine ends_bind.mpr ((markMasterRecoveryPhase_log call .failed w').mono ?_)
    rintro (_ | _) w₁ same
    all_goals exact done.imp same.trans same.trans

/-- A call for the dead master of a session with lasting work asks for a replacement, or the
session is fused. -/
theorem Stands.ends_handle (h : Stands call true call.expectedGeneration log w)
    (calm : call.Undisturbed true) (bound : call.expectedGeneration + 1 < 2 ^ 63) :
    Ends (handleMasterDeathDetected call) w fun _ w' =>
      w'.log = log ++ [.spawn] ∨ w'.log = log ++ [.fuse] := by
  refine (h.returns_classifyMasterDeath calm false).ends_bind fun decision w₁ classified => ?_
  rw [classified.1]
  refine ends_reviveMasterAfterExitLocked ?_
  refine (classified.2.returns_query calm).ends_bind fun snapshot w₂ taken => ?_
  have active : snapshot.classification = .activeWork := by
    rw [taken.1]
    exact if_pos (sessionHasActiveWork_of_lasting taken.2.work)
  refine (taken.2.returns_beginWindow calm _).ends_bind fun _ w₃ begun => ?_
  refine (begun.returns_cleanWorkers calm _).ends_bind fun _ w₄ cleaned => ?_
  rw [active]
  exact cleaned.ends_reviveMaster calm bound

end Steps

/-! ## What a call does to the workers and jobs -/

section Jobs

variable {call : ReviveCall} {I : Db → Prop}

/-- The others keep `I` while the call waits. -/
def ReviveCall.Sustains (call : ReviveCall) (I : Db → Prop) : Prop :=
  ∀ p m, I m.db → I (call.between p m).db

theorem preserves_transact {t : MasterDb → Except CcbdError (α × MasterDb)}
    (calm : call.Sustains I) (keeps : ∀ m a m', I m.db → t m = .ok (a, m') → I m'.db) :
    Preserves (fun w => I w.m.db) (transact call p t) := by
  intro w start
  rw [ends_transact]
  have held := calm p w.m start
  cases result : t (call.between p w.m) with
  | ok x => exact keeps _ x.1 x.2 held result
  | error => exact held

theorem preserves_transact_of_db {f : MasterDb → α} {g : MasterDb → MasterDb}
    (calm : call.Sustains I) (same : ∀ m, (g m).db = m.db) :
    Preserves (fun w => I w.m.db) (transact call p fun m => .ok (f m, g m)) := by
  refine preserves_transact calm fun m a m' held done => ?_
  cases done
  rwa [same]

theorem preserves_query {f : MasterDb → α} (calm : call.Sustains I) :
    Preserves (fun w => I w.m.db) (transact call p fun m => .ok (f m, m)) :=
  preserves_transact_of_db calm fun _ => rfl

theorem preserves_writeMasters {f : MasterDb → α} {g : MasterDb → Masters}
    (calm : call.Sustains I) :
    Preserves (fun w => I w.m.db) (transact call p fun m => .ok (f m, { m with masters := g m })) :=
  preserves_transact_of_db calm fun _ => rfl

theorem preserves_markPhase (calm : call.Sustains I) (newPhase : RecoveryPhase) :
    Preserves (fun w => I w.m.db) (markMasterRecoveryPhase call newPhase) := by
  refine preserves_transact_of_db calm fun m => ?_
  simp only [updateMasterRecoveryPhaseSync, updateWindow]
  split_ifs <;> rfl

theorem preserves_classifyMasterDeath (calm : call.Sustains I) (woken : Bool) :
    Preserves (fun w => I w.m.db) (classifyMasterDeath call woken) := by
  refine (preserves_query calm).bind fun read => ?_
  cases read with
  | none => exact .pure _
  | some row =>
    dsimp only
    split
    · exact .pure _
    · refine (preserves_query calm).bind fun inflight => ?_
      split_ifs <;> exact .pure _

theorem preserves_waitForRetry (calm : call.Sustains I) :
    Preserves (fun w => I w.m.db) (waitForMasterReviveRetryBackoff call) := by
  refine (preserves_query calm).bind fun next => ?_
  split_ifs
  · refine (preserves_classifyMasterDeath calm true).bind fun _ => ?_
    split_ifs
    · exact (preserves_markPhase calm _).bind fun _ => .pure _
    · exact .pure _
  · exact .pure _

theorem preserves_claim (calm : call.Sustains I) :
    Preserves (fun w => I w.m.db) (claimMasterReviveGeneration call) := by
  refine (preserves_transact calm fun m a m' held done => ?_).bind fun outcome => ?_
  · obtain ⟨r, -, same⟩ := map_eq_ok.mp done
    cases same
    exact held
  · split_ifs
    · exact .pure _
    · exact (preserves_markPhase calm _).bind fun _ => .pure _

theorem preserves_record (event : ReviveEvent) :
    Preserves (fun w => I w.m.db) (record event) := fun _ held => held

theorem preserves_attempt (calm : call.Sustains I) (claimedGeneration : Int) :
    Preserves (fun w => I w.m.db) (recordMasterReviveSpawnAttempt call claimedGeneration) := by
  refine (preserves_writeMasters calm).bind fun decision => ?_
  cases decision with
  | spawn | stale => exact (preserves_markPhase calm _).bind fun _ => .pure _
  | fused =>
    refine (preserves_record .fuse).bind fun _ => ?_
    refine (preserves_writeMasters calm).bind fun _ => ?_
    exact (preserves_markPhase calm _).bind fun _ => .pure _

theorem preserves_reviveMaster (calm : call.Sustains I) (fails : call.spawn = .error e) :
    Preserves (fun w => I w.m.db) (reviveMaster call) := by
  refine (preserves_markPhase calm _).bind fun _ => ?_
  refine (preserves_waitForRetry calm).bind fun go => ?_
  split_ifs
  · refine (preserves_claim calm).bind fun claimed => ?_
    cases claimed with
    | none => exact .pure _
    | some generation =>
      refine (preserves_attempt calm generation).bind fun go => ?_
      split_ifs
      · intro w held
        rw [spawnReplacementMasterPane, fails, ends_bind, ends_bind]
        exact held
      · exact .pure _
  · exact .pure _

theorem preserves_closeIdle (calm : call.Sustains I) :
    Preserves (fun w => I w.m.db) (closeIdleMasterDeathWithoutRevive call) := by
  refine (preserves_record .closeIdle).bind fun _ => ?_
  refine (preserves_writeMasters calm).bind fun _ => ?_
  exact preserves_markPhase calm _

theorem preserves_beginWindow (calm : call.Sustains I)
    (classification : MasterDeathSessionActivity) :
    Preserves (fun w => I w.m.db) (beginMasterRecoveryWindowForSnapshot call classification) := by
  refine preserves_transact calm fun m w m' held done => ?_
  unfold beginMasterRecoveryWindowSync insertWindow at done
  split at done
  · split_ifs at done
    cases done
    exact held
  · split_ifs at done <;> cases done <;> exact held

theorem preserves_handle (calm : call.Sustains I) (fails : call.spawn = .error e)
    (reap : ∀ db a now n db', I db →
      markAgentKilledForMasterDeathSync db a "MASTER_EXIT" now = .ok (n, db') → I db') :
    Preserves (fun w => I w.m.db) (handleMasterDeathDetected call) := by
  have windowed : Preserves (fun w => I w.m.db) (reviveMasterAfterExitWindowed call) := by
    refine (preserves_query calm).bind fun snapshot => ?_
    refine (preserves_beginWindow calm _).bind fun _ => ?_
    refine (Preserves.forEach fun agentId _ => ?_).bind fun _ => ?_
    · refine preserves_transact calm fun m a m' held done => ?_
      obtain ⟨r, killed, same⟩ := map_eq_ok.mp done
      cases same
      exact reap _ _ _ _ _ held killed
    · cases snapshot.classification with
      | idleNoWork => exact preserves_closeIdle calm
      | activeWork => exact preserves_reviveMaster calm fails
  refine (preserves_classifyMasterDeath calm false).bind fun decision => ?_
  cases decision with
  | revive =>
    refine windowed.attempt.bind fun r => ?_
    cases r with
    | ok => exact .pure _
    | error e => exact (preserves_markPhase calm _).bind fun _ _ held => held
  | _ => exact preserves_markPhase calm _

end Jobs

/-! ## The calls after a failed one -/

/-- What the call leaves. -/
def ReviveCall.result (call : ReviveCall) (w : DeathWorld) : DeathWorld :=
  final (handleMasterDeathDetected call) w

/-- The call is for the master the session has, and finds it dead. -/
def ReviveCall.IsFor (call : ReviveCall) (sessionId : String) (w : DeathWorld) : Prop :=
  call.sessionId = sessionId ∧ Awaits w.m sessionId call.expectedPid call.expectedGeneration

/-- The call asks for a replacement or the session is fused; it is not closed. -/
def ReviveCall.Retries (call : ReviveCall) (w : DeathWorld) : Prop :=
  (call.result w).log = w.log ++ [.spawn] ∨ (call.result w).log = w.log ++ [.fuse]

inductive DeathAct where
  | death (call : ReviveCall)
  | other (f : MasterDb → MasterDb)

def DeathAct.Step (w : DeathWorld) (a : DeathAct) (w' : DeathWorld) : Prop :=
  match a with
  | .death call => w' = call.result w
  | .other f => w' = { w with m := f w.m }

def HasLastingWork (sessionId : String) (db : Db) : Prop := lastingWork db sessionId = true

instance (sessionId : String) (db : Db) : Decidable (HasLastingWork sessionId db) :=
  inferInstanceAs (Decidable (_ = _))

/-- The lasting work of the session is left alone, and no call for it can spawn. -/
def DeathAct.Sustains (sessionId : String) : DeathAct → Prop
  | .death call => (∃ e, call.spawn = .error e) ∧ call.Sustains (HasLastingWork sessionId)
  | .other f => ∀ m, HasLastingWork sessionId m.db → HasLastingWork sessionId (f m).db

theorem hasLastingWork_step {a : DeathAct} (held : HasLastingWork s w.m.db)
    (sustains : a.Sustains s) (step : a.Step w w') : HasLastingWork s w'.m.db := by
  cases a with
  | death call =>
    obtain ⟨⟨e, fails⟩, calm⟩ := sustains
    cases step
    have kept := preserves_handle calm fails
      (fun db a now n db' held h => (lastingWork_markAgentKilled h s).trans held) w held
    exact ends_iff_final.mp kept
  | other f =>
    cases step
    exact sustains w.m held

theorem ReviveCall.retries_of_lasting {call : ReviveCall} (isFor : call.IsFor s w)
    (held : HasLastingWork s w.m.db) (calm : call.Undisturbed true)
    (bound : call.expectedGeneration + 1 < 2 ^ 63) : call.Retries w := by
  obtain ⟨rfl, dead⟩ := isFor
  have stands : Stands call true call.expectedGeneration w.log w := ⟨dead, held, rfl⟩
  exact ends_iff_final.mp (stands.ends_handle calm bound)

/-! ## Without the others -/

/-- Nobody else uses the database during the call. -/
def ReviveCall.Alone (call : ReviveCall) : Prop := ∀ p m, call.between p m = m

theorem ReviveCall.Alone.undisturbed {call : ReviveCall} (alone : call.Alone) (b : Bool) :
    call.Undisturbed b where
  awaits p m g h := by rwa [alone p m]
  work p m h := by rwa [alone p m]

theorem ReviveCall.Alone.sustains {call : ReviveCall} (alone : call.Alone) (I : Db → Prop) :
    call.Sustains I := by
  intro p m h
  rwa [alone p m]

section Alone

variable {call : ReviveCall} {b : Bool} {log : List ReviveEvent} {w : DeathWorld}

/-- The workers that are up after a reaping were up before it and are not among the reaped. -/
def SparedOnly (db : Db) (reaped : List String) (db' : Db) : Prop :=
  ∀ a agent, db'.agents.get? a = some agent → agent.state.isUp = true →
    a ∉ reaped ∧ db.agents.get? a = some agent

theorem sparedOnly_markAgentKilled
    (h : markAgentKilledForMasterDeathSync db a reason now = .ok (n, db')) :
    SparedOnly db [a] db' := by
  intro b agent row up
  rcases markAgentKilledSyncInner_ok h with ⟨-, rfl, down⟩ | ⟨-, -, -, -, -, killed⟩
  · refine ⟨fun mem => ?_, row⟩
    rw [List.mem_singleton] at mem
    subst mem
    rcases down agent row with state | state <;> simp [state, AgentState.isUp] at up
  · rw [killed.agents, Table.get?_modify] at row
    split_ifs at row with same
    · obtain ⟨agent₀, -, rfl⟩ := Option.map_eq_some_iff.mp row
      simp [AgentState.isUp] at up
    · exact ⟨by simpa using same, row⟩

theorem returns_cleanWorker_alone (alone : call.Alone) (agentId : String) (w : DeathWorld) :
    Returns (cleanWorker call agentId) w fun _ w' => SparedOnly w.m.db [agentId] w'.m.db := by
  obtain ⟨⟨n, db'⟩, killed⟩ := markAgentKilledForMasterDeathSync_succeeds w.m.db agentId
    "MASTER_EXIT" (call.clock (.worker agentId))
  refine ⟨n, { w with m := { w.m with db := db' } }, ?_, sparedOnly_markAgentKilled killed⟩
  refine bind_eq_ok_iff.mpr ⟨(), w, ?_, zoom_eq_ok_iff.mpr ⟨_, atomic_eq_ok_iff.mpr
    (map_eq_ok.mpr ⟨_, killed, rfl⟩), rfl⟩⟩
  show EStateM.Result.ok () { w with m := call.between _ w.m } = _
  rw [alone]

theorem returns_cleanWorkers_alone (alone : call.Alone) (workerIds : List String) (w : DeathWorld) :
    Returns (cleanWorkersAfterMasterDeath call workerIds) w fun _ w' =>
      SparedOnly w.m.db workerIds w'.m.db := by
  induction workerIds generalizing w with
  | nil => exact .pure fun a agent row _ => ⟨List.not_mem_nil, row⟩
  | cons agentId rest ih =>
    refine (returns_cleanWorker_alone alone agentId w).bind fun _ w₁ first => ?_
    refine (ih w₁).bind fun _ w₂ later => ?_
    refine .pure fun a agent row up => ?_
    obtain ⟨notRest, row₁⟩ := later a agent row up
    obtain ⟨notFirst, row₀⟩ := first a agent row₁ up
    exact ⟨by grind, row₀⟩

def AllDown (sessionId : String) (db : Db) : Prop :=
  ∀ a agent, db.agents.get? a = some agent → agent.sessionId = sessionId → agent.state.isUp = false

/-- The snapshot has all workers of the session, so its reaping leaves none. -/
theorem allDown_of_sparedOnly
    (h : SparedOnly db (snapshotMasterDeathSessionActivity db s).workerIdsToReap db') :
    AllDown s db' := by
  intro a agent row own
  cases up : agent.state.isUp with
  | false => rfl
  | true =>
    obtain ⟨notReaped, before⟩ := h a agent row up
    refine absurd (List.mem_map.mpr ⟨(a, agent), ?_, rfl⟩) notReaped
    exact Table.mem_selectOrderBy.mpr ⟨before, by simpa using own⟩

/-- A generation that cannot be incremented ends the call before its attempt. -/
theorem Stands.ends_reviveMaster_overflow (h : Stands call b call.expectedGeneration log w)
    (alone : call.Alone) (overflow : ¬call.expectedGeneration + 1 < 2 ^ 63) :
    Ends (reviveMaster call) w fun _ w' => w'.log = log := by
  have calm := alone.undisturbed b
  refine (h.returns_markPhase calm .workersReaped).ends_bind fun _ w₁ reaped => ?_
  refine (reaped.returns_waitForRetry calm).ends_bind fun go w₂ waited => ?_
  rw [waited.1, if_pos rfl]
  obtain ⟨-, row, found, current⟩ := awaits_iff.mp waited.2.awaits
  have generation : row.masterGeneration = call.expectedGeneration := by
    simp only [MasterRow.isCurrent, Bool.and_eq_true, decide_eq_true_eq] at current
    exact current.2
  have refused : ∃ e, tryClaimMasterTransition w₂.m.masters call.sessionId call.expectedPid
      call.expectedGeneration = .error e := by
    simp only [tryClaimMasterTransition, advanceMaster, found, Option.filter_some, current,
      if_true, generation, overflow]
    exact ⟨_, rfl⟩
  obtain ⟨e, refused⟩ := refused
  rw [claimMasterReviveGeneration, bind_assoc, ends_bind, ends_transact, alone, refused]
  exact waited.2.log

theorem ends_closeIdle (call : ReviveCall) (w : DeathWorld) :
    Ends (closeIdleMasterDeathWithoutRevive call) w fun _ w' =>
      w'.log = w.log ++ [.closeIdle] := by
  rw [closeIdleMasterDeathWithoutRevive, record, ends_bind, ends_modify]
  refine ends_bind.mpr ((transact_log call _ _ _).mono ?_)
  rintro (_ | _) w₁ logged
  · exact logged
  · exact (markMasterRecoveryPhase_log call _ w₁).mono fun _ _ logged' => logged'.trans logged

/-- What a call that is alone adds to the log, by what it finds. -/
def Outcome (active : Bool) (generation : Int) (log log' : List ReviveEvent) : Prop :=
  if active = true then
    if generation + 1 < 2 ^ 63 then log' = log ++ [.spawn] ∨ log' = log ++ [.fuse]
    else log' = log
  else log' = log ++ [.closeIdle]

/-- Down and with the lasting work that was there. -/
def Settled (sessionId : String) (b : Bool) (db : Db) : Prop :=
  AllDown sessionId db ∧ lastingWork db sessionId = b

theorem Stands.ends_windowed_alone (h : Stands call b call.expectedGeneration log w)
    (alone : call.Alone) (fails : call.spawn = .error e) :
    Ends (reviveMasterAfterExitWindowed call) w fun _ w' =>
      Settled call.sessionId b w'.m.db ∧
        Outcome (sessionHasActiveWork w.m.db call.sessionId) call.expectedGeneration log
          w'.log := by
  have calm := alone.undisturbed b
  -- The snapshot is of the workers that are reaped: nothing comes in between.
  have taken : Returns (takeSnapshot call) w fun snapshot w' =>
      (snapshot = snapshotMasterDeathSessionActivity w'.m.db call.sessionId ∧
        Stands call b call.expectedGeneration log w') ∧ w'.m.db = w.m.db :=
    (h.returns_query calm).and_ends
      (preserves_query (I := fun db => db = w.m.db) (alone.sustains _) w rfl)
  refine taken.ends_bind fun snapshot w₁ read => ?_
  obtain ⟨⟨rfl, stands⟩, same⟩ := read
  rw [← same]
  refine ((stands.returns_beginWindow calm _).and_ends
    (preserves_beginWindow (alone.sustains _) _ w₁ rfl)).ends_bind
    fun _ w₂ begun => ?_
  obtain ⟨stands₂, same₂⟩ := begun
  refine ((stands₂.returns_cleanWorkers calm _).and
    (returns_cleanWorkers_alone alone _ w₂)).ends_bind fun _ w₃ cleaned => ?_
  obtain ⟨stands₃, spared⟩ := cleaned
  rw [same₂] at spared
  have settled : Settled call.sessionId b w₃.m.db := ⟨allDown_of_sparedOnly spared, stands₃.work⟩
  unfold snapshotMasterDeathSessionActivity
  cases active : sessionHasActiveWork w₁.m.db call.sessionId with
  | false =>
    refine (preserves_closeIdle (alone.sustains _) w₃ settled).and ?_
    refine (ends_closeIdle call w₃).mono fun _ w' logged => ?_
    rw [Outcome, if_neg (by simp), logged, stands₃.log]
  | true =>
    refine (preserves_reviveMaster (alone.sustains _) fails w₃ settled).and ?_
    by_cases bound : call.expectedGeneration + 1 < 2 ^ 63
    · refine (stands₃.ends_reviveMaster calm bound).mono fun _ w' done => ?_
      rwa [Outcome, if_pos rfl, if_pos bound]
    · refine (stands₃.ends_reviveMaster_overflow alone bound).mono fun _ w' logged => ?_
      rw [Outcome, if_pos rfl, if_neg bound, logged]

theorem Stands.ends_handle_alone (h : Stands call b call.expectedGeneration log w)
    (alone : call.Alone) (fails : call.spawn = .error e) :
    Ends (handleMasterDeathDetected call) w fun _ w' =>
      Settled call.sessionId b w'.m.db ∧
        Outcome (sessionHasActiveWork w.m.db call.sessionId) call.expectedGeneration log
          w'.log := by
  have calm := alone.undisturbed b
  refine ((h.returns_classifyMasterDeath calm false).and_ends
    (preserves_classifyMasterDeath (I := fun db => db = w.m.db) (alone.sustains _) _ w rfl)).ends_bind
    fun decision w₁ classified => ?_
  obtain ⟨⟨rfl, stands⟩, same⟩ := classified
  rw [← same]
  refine ends_bind.mpr (ends_attempt.mpr ((stands.ends_windowed_alone alone fails).mono ?_))
  rintro (e | -) w₂ done
  · refine ends_bind.mpr (((preserves_markPhase (alone.sustains _) .failed w₂ done.1).and
      (markMasterRecoveryPhase_log call .failed w₂)).mono ?_)
    rintro (_ | _) w₃ ⟨settled, logged⟩
    all_goals exact ⟨settled, by rw [logged]; exact done.2⟩
  · exact done

end Alone

open ReviveCall

/-- After a call for the dead master that cannot spawn, every later call for the dead master asks
for a replacement again or fuses the session, provided the session had lasting work and the
others leave it some. If nobody else does anything, the lasting work is needed. -/
theorem failedRevival_retried {s : String} {first : ReviveCall} {w₀ : DeathWorld} {e : CcbdError}
    (isFor : first.IsFor s w₀) (fails : first.spawn = .error e) :
    (HasLastingWork s w₀.m.db → (DeathAct.death first).Sustains s →
      ∀ (ts : List (Transition DeathWorld DeathAct)) (w : DeathWorld) (next : ReviveCall),
        Run DeathAct.Step (first.result w₀) ts w → (∀ tr ∈ ts, tr.act.Sustains s) →
        next.IsFor s w → next.Undisturbed true → next.expectedGeneration + 1 < 2 ^ 63 →
        next.Retries w) ∧
    (first.Alone → ∀ (next : ReviveCall) (e : CcbdError), next.IsFor s (first.result w₀) →
      next.Alone → next.spawn = .error e →
      (next.Retries (first.result w₀) ↔
        HasLastingWork s w₀.m.db ∧ next.expectedGeneration + 1 < 2 ^ 63)) := by
  constructor
  · intro held sustains ts w next run sustained isForNext calm bound
    have start : HasLastingWork s (first.result w₀).m.db := hasLastingWork_step held sustains rfl
    have lasting : HasLastingWork s w.m.db :=
      run.invariant (I := fun w => HasLastingWork s w.m.db)
        (fun _ _ _ held sustains step => hasLastingWork_step held sustains step) start sustained
    exact next.retries_of_lasting isForNext lasting calm bound
  · intro alone next e' isForNext aloneNext failsNext
    obtain ⟨rfl, dead⟩ := isFor
    obtain ⟨own, deadNext⟩ := isForNext
    have stands : Stands first (lastingWork w₀.m.db first.sessionId) first.expectedGeneration
      w₀.log w₀ := ⟨dead, rfl, rfl⟩
    obtain ⟨⟨down, work⟩, -⟩ := ends_iff_final.mp (stands.ends_handle_alone alone fails)
    change AllDown _ (first.result w₀).m.db at down
    change lastingWork (first.result w₀).m.db _ = _ at work
    generalize first.result w₀ = w₁ at *
    rw [← own] at deadNext down work
    have standsNext : Stands next (lastingWork w₁.m.db next.sessionId) next.expectedGeneration
      w₁.log w₁ := ⟨deadNext, rfl, rfl⟩
    obtain ⟨-, outcome⟩ := ends_iff_final.mp (standsNext.ends_handle_alone aloneNext failsNext)
    rw [sessionHasActiveWork_of_down down, work, own] at outcome
    unfold Retries result HasLastingWork
    unfold Outcome at outcome
    split_ifs at outcome with lasting bound
    · exact iff_of_true outcome ⟨lasting, bound⟩
    · refine iff_of_false (fun retries => ?_) fun h => bound h.2
      rw [outcome] at retries
      simp at retries
    · refine iff_of_false (fun retries => ?_) fun h => lasting h.1
      rw [outcome] at retries
      simp at retries

/-- A call of the patrol, with nobody else there, for which tmux has no space. -/
def ReviveCall.noSpace (generation : Int) : ReviveCall where
  sessionId := "s1"
  expectedPid := 8
  expectedGeneration := generation
  masterCmd := "claude"
  clock _ := 500
  deferSecs := none
  spawn := .error (.tmuxCommandFailed "new-window" "no space for new pane" 1)
  followUp m := (.ok (), m)
  between _ m := m

theorem ReviveCall.noSpace_alone (generation : Int) : (noSpace generation).Alone :=
  fun _ _ => rfl

def waitingJob : Job where
  agentId := "a1"
  requestId := none
  promptText := "next"
  createdAt := 0

/-- A worker is busy, and a second job waits for it. -/
def DeathWorld.withQueue : DeathWorld where
  m := { MasterDb.atWork .empty with
    db := { (MasterDb.atWork .empty).db with jobs := Table.empty.insert "j2" waitingJob } }
  log := []

/-- The second call tries again because of the queue, and so does the third after it. -/
theorem failedRevival_retried_withQueue :
    ∃ w₁ w₂, w₁ = (noSpace 2).result .withQueue ∧ (noSpace 3).Retries w₁ ∧
      w₂ = (noSpace 3).result w₁ ∧ (noSpace 4).Retries w₂ := by
  have isFor : (noSpace 2).IsFor "s1" .withQueue := ⟨rfl, by decide +kernel⟩
  have lasting : HasLastingWork "s1" DeathWorld.withQueue.m.db := by decide +kernel
  have sustains (g : Int) : (DeathAct.death (noSpace g)).Sustains "s1" :=
    ⟨⟨_, rfl⟩, (noSpace_alone g).sustains _⟩
  have next : (noSpace 3).IsFor "s1" ((noSpace 2).result .withQueue) := ⟨rfl, by decide +kernel⟩
  have last : (noSpace 4).IsFor "s1" ((noSpace 3).result ((noSpace 2).result .withQueue)) :=
    ⟨rfl, by decide +kernel⟩
  obtain ⟨later, alone⟩ := failedRevival_retried isFor rfl
  refine ⟨_, _, rfl, ?_, rfl, ?_⟩
  · exact (alone (noSpace_alone 2) _ _ next (noSpace_alone 3) rfl).mpr ⟨lasting, by decide⟩
  · have run : Run DeathAct.Step ((noSpace 2).result .withQueue) [⟨_, .death (noSpace 3), _⟩]
        ((noSpace 3).result ((noSpace 2).result .withQueue)) := .cons rfl (.nil _)
    exact later lasting (sustains 2) _ _ _ run (by simpa using sustains 3) last
      ((noSpace_alone 4).undisturbed true) (by decide)

/-- A worker is busy and nothing waits for it. -/
def DeathWorld.busy : DeathWorld := ⟨.atWork .empty, []⟩

/-- The first call asks for a replacement; the second closes the session as idle. -/
theorem not_failedRevival_retried_busy :
    sessionHasActiveWork DeathWorld.busy.m.db "s1" = true ∧
      (noSpace 2).IsFor "s1" .busy ∧
      ((noSpace 2).result .busy).log = [.spawn] ∧
      (noSpace 3).IsFor "s1" ((noSpace 2).result .busy) ∧
      ¬(noSpace 3).Retries ((noSpace 2).result .busy) ∧
      ((((noSpace 3).result ((noSpace 2).result .busy)).m.masters.get?
        "s1").map fun row => (row.status, row.masterLastExitReason)) =
          some (.closed, some .idleMasterExit) := by
  refine ⟨by decide +kernel, ⟨rfl, by decide +kernel⟩, by decide +kernel, ⟨rfl, by decide +kernel⟩,
    ?_, by decide +kernel⟩
  unfold Retries
  decide +kernel

end Ccbd.Master
