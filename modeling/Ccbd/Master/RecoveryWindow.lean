import Ccbd.Master.Revival

/-!
# Master recovery windows

When a master dies, the session gets a recovery window: until `defer_until` the anchor of
the session does not take the workers down, and whoever revives the master reports its
progress as the window's phase. A window is for one generation of the master. All of its
writers are here; each of them is one transaction.
-/

namespace Ccbd.Master

open Lib

inductive RecoveryPhase where
  | detected
  | workersReaped
  | masterSpawning
  | masterRunning
  | masterVerifying
  | workersReprovisioning
  | completed
  | failed
  | fused
deriving DecidableEq, Repr

/-- `is_terminal_phase`. -/
def RecoveryPhase.isTerminal : RecoveryPhase → Bool
  | completed | failed | fused => true
  | _ => false

structure MasterRecoveryWindow where
  expectedPid : Int
  expectedGeneration : Int
  claimedGeneration : Option Int := none
  phase : RecoveryPhase := .detected
  activeWork : Bool
  deferUntil : Int
  createdAt : Int
  updatedAt : Int
  completedAt : Option Int := none
  readinessMode : Option String := none
  readyAt : Option Int := none
  readyReason : Option String := none
  readinessToken : Option String := none
deriving DecidableEq, Repr

inductive MasterCutoverState where
  | preparing
  | spawning
  | verifying
  | active
  | rolledBack
  | failed
  | released
deriving DecidableEq, Repr

structure MasterCutover where
  sessionId : String
  state : MasterCutoverState
deriving DecidableEq, Repr

/-- The master columns of the sessions with their windows and cutovers, and the workers and
jobs of the sessions. The status of a session is the one in `masters`. -/
structure MasterDb where
  masters : Masters
  windows : Table String MasterRecoveryWindow
  cutovers : Table String MasterCutover
  db : Db

/-! ## Times -/

def masterRecoveryCascadeDeferSecs : Int := 90

def masterRecoveryWindowMaxTotalSecs : Int := 300

def clampSecs (lo hi secs : Int) : Int := max lo (min secs hi)

/-- `configured` is the number in `AH_MASTER_RECOVERY_CASCADE_DEFER_SECS`, if it is one. -/
def resolveMasterRecoveryCascadeDeferSecs (configured : Option Int) : Int :=
  clampSecs 10 masterRecoveryWindowMaxTotalSecs (configured.getD masterRecoveryCascadeDeferSecs)

def effectiveReadinessTimeout (now deferUntil createdAt configuredSecs cleanupMargin : Int) : Int :=
  let hardDeadline := min deferUntil (createdAt + masterRecoveryWindowMaxTotalSecs)
  let remaining := hardDeadline - now
  let timeout := clampSecs 10 60 configuredSecs
  min timeout (remaining - cleanupMargin)

def cappedDeferUntil (now deferSecs createdAt : Int) : Int :=
  min (now + clampSecs 10 masterRecoveryWindowMaxTotalSecs deferSecs)
    (createdAt + masterRecoveryWindowMaxTotalSecs)

theorem cappedDeferUntil_le (now deferSecs createdAt : Int) :
    cappedDeferUntil now deferSecs createdAt ≤ createdAt + masterRecoveryWindowMaxTotalSecs :=
  min_le_right _ _

theorem lt_cappedDeferUntil (now deferSecs : Int) : now < cappedDeferUntil now deferSecs now := by
  unfold cappedDeferUntil clampSecs masterRecoveryWindowMaxTotalSecs
  omega

/-! ## The operations -/

/-- The row of a window that begins. -/
def MasterRecoveryWindow.fresh (pid generation : Int) (activeWork : Bool) (now deferSecs : Int) :
    MasterRecoveryWindow where
  expectedPid := pid
  expectedGeneration := generation
  activeWork := activeWork
  deferUntil := cappedDeferUntil now deferSecs now
  createdAt := now
  updatedAt := now

/-- `INSERT`, of a session that has no window. -/
def insertWindow (context : String) (m : MasterDb) (sessionId : String)
    (window : MasterRecoveryWindow) : Except CcbdError (MasterRecoveryWindow × MasterDb) :=
  if (m.masters.get? sessionId).isNone then
    .error (.dbConstraintViolation (context ++ ": FOREIGN KEY constraint failed"))
  else .ok (window, { m with windows := m.windows.insert sessionId window })

variable (m : MasterDb) (sessionId : String)

/-- `UPDATE master_recovery_windows SET .. WHERE session_id = ?1 AND ..`. -/
def updateWindow (guard : MasterRecoveryWindow → Bool)
    (f : MasterRecoveryWindow → MasterRecoveryWindow) : Bool × MasterDb :=
  if (m.windows.get? sessionId).any guard then
    (true, { m with windows := m.windows.modify sessionId f })
  else (false, m)

/-- The same window with more time. -/
def MasterRecoveryWindow.deferred (window : MasterRecoveryWindow) (now deferSecs : Int) :
    MasterRecoveryWindow :=
  { window with
    deferUntil := max window.deferUntil (cappedDeferUntil now deferSecs window.createdAt)
    updatedAt := now }

def beginMasterRecoveryWindowSync (pid generation : Int) (activeWork : Bool) (now deferSecs : Int) :
    Except CcbdError (MasterRecoveryWindow × MasterDb) :=
  match m.windows.get? sessionId with
  | none => insertWindow "insert master recovery window" m sessionId
      (.fresh pid generation activeWork now deferSecs)
  | some existing =>
    if generation < existing.expectedGeneration then .ok (existing, m)
    else
      let window :=
        if existing.expectedGeneration < generation || existing.phase.isTerminal then
          .fresh pid generation activeWork now deferSecs
        else { existing.deferred now deferSecs with
          expectedPid := pid, activeWork := existing.activeWork || activeWork }
      .ok (window, { m with windows := m.windows.modify sessionId fun _ => window })

/-- The window is for this generation. -/
def MasterRecoveryWindow.isFor (generation : Int) (window : MasterRecoveryWindow) : Bool :=
  window.expectedGeneration = generation

def updateMasterRecoveryPhaseSync (generation : Int)
    (newPhase : RecoveryPhase) (now : Int) (configured : Option Int) : Bool × MasterDb :=
  updateWindow m sessionId (·.isFor generation) fun window =>
    { window.deferred now (resolveMasterRecoveryCascadeDeferSecs configured) with
      phase := newPhase }

def completeMasterRecoveryWindowSync (generation now : Int) : Bool × MasterDb :=
  updateWindow m sessionId (·.isFor generation)
    ({ · with phase := .completed, completedAt := some now, updatedAt := now })

def beginMasterRecoveryReadinessWaitSync (generation : Int)
    (readinessMode readinessToken : String) (now : Int) : Bool × MasterDb :=
  updateWindow m sessionId (fun window => window.isFor generation && !window.phase.isTerminal)
    ({ · with
      phase := .masterVerifying
      readinessMode := some readinessMode
      readinessToken := some readinessToken
      readyAt := none
      readyReason := none
      updatedAt := now })

def markMasterRecoveryReadySync (generation : Int)
    (readyReason : String) (now : Int) : Bool × MasterDb :=
  updateWindow m sessionId
    (fun window => window.isFor generation && window.phase = .masterVerifying)
    ({ · with readyAt := some now, readyReason := some readyReason, updatedAt := now })

def failMasterRecoveryReadinessSync (generation : Int)
    (reason : String) (now : Int) : Bool × MasterDb :=
  updateWindow m sessionId
    (fun window => window.isFor generation && window.phase = .masterVerifying)
    ({ · with phase := .failed, readyReason := some reason, updatedAt := now })

/-- The window is open no more and nobody has closed it. -/
def MasterRecoveryWindow.isOverdue (now : Int) (window : MasterRecoveryWindow) : Bool :=
  !window.phase.isTerminal && decide (window.deferUntil < now)

/-- The session fails with the window. -/
def expireMasterRecoveryWindowSync (now : Int) : Bool × MasterDb :=
  let (expired, m) := updateWindow m sessionId (·.isOverdue now)
    ({ · with phase := .failed, updatedAt := now })
  if expired then
    (true, { m with masters := (expireMasterRecoverySession m.masters sessionId).2 })
  else (false, m)

/-! ## The decision of the anchor -/

inductive AnchorCascadeDecision where
  | defer (until_ : Int) (phase : RecoveryPhase)
  | cascadeNow (reason : String)
deriving DecidableEq, Repr

def AnchorCascadeDecision.isDefer : AnchorCascadeDecision → Bool
  | defer .. => true
  | cascadeNow _ => false

/-- The states of a worker that is at work or about to be. -/
def isActiveWorkState : AgentState → Bool
  | .spawning | .waitingForAck | .busy | .promptPending => true
  | _ => false

def sessionHasActiveWork (db : Db) (sessionId : String) : Bool :=
  db.agents.rows.any (fun r => r.2.sessionId = sessionId && isActiveWorkState r.2.state) ||
    db.jobs.rows.any fun r => (r.2.status = .queued || r.2.status = .dispatched) &&
      (db.agents.get? r.2.agentId).any (·.sessionId = sessionId)

def masterCutoverInflight : Bool :=
  m.cutovers.rows.any fun r => r.2.sessionId = sessionId &&
    (r.2.state = .preparing || r.2.state = .spawning || r.2.state = .verifying)

def decisionForExistingWindow (window : MasterRecoveryWindow)
    (now : Int) : AnchorCascadeDecision × MasterDb :=
  match window.phase with
  | .completed => (.cascadeNow "MASTER_RECOVERY_COMPLETED", m)
  | .failed | .fused => (.cascadeNow "MASTER_RECOVERY_TERMINAL", m)
  | _ =>
    if window.deferUntil < now then
      (.cascadeNow "MASTER_REVIVE_WINDOW_EXPIRED",
        (expireMasterRecoveryWindowSync m sessionId now).2)
    else if window.activeWork then (.defer window.deferUntil window.phase, m)
    else (.cascadeNow "NO_ACTIVE_WORK_WINDOW", m)

def decideAnchorCascadeSync (now : Int)
    (configured : Option Int) : Except CcbdError (AnchorCascadeDecision × MasterDb) :=
  match m.masters.get? sessionId with
  | none => .ok (.cascadeNow "SESSION_NOT_ACTIVE", m)
  | some session =>
    if session.status ≠ .active then .ok (.cascadeNow "SESSION_NOT_ACTIVE", m)
    else match m.windows.get? sessionId with
    | some window => .ok (decisionForExistingWindow m sessionId window now)
    | none =>
      if masterCutoverInflight m sessionId then
        .ok (.cascadeNow "MASTER_CUTOVER_IN_FLIGHT", m)
      else if sessionHasActiveWork m.db sessionId then do
        let (window, m) ← insertWindow "insert detected master recovery window" m sessionId
          (.fresh session.masterPid session.masterGeneration true now
            (resolveMasterRecoveryCascadeDeferSecs configured))
        return (.defer window.deferUntil window.phase, m)
      else .ok (.cascadeNow "NO_MASTER_RECOVERY_WINDOW", m)

variable {m sessionId}

/-! ## The system -/

inductive WindowOp where
  | begin (sessionId : String) (pid generation : Int) (activeWork : Bool) (now deferSecs : Int)
  | updatePhase (sessionId : String) (generation : Int) (newPhase : RecoveryPhase) (now : Int)
      (configured : Option Int)
  | complete (sessionId : String) (generation now : Int)
  | beginReadiness (sessionId : String) (generation : Int) (mode token : String) (now : Int)
  | markReady (sessionId : String) (generation : Int) (reason : String) (now : Int)
  | failReadiness (sessionId : String) (generation : Int) (reason : String) (now : Int)
  | expire (sessionId : String) (now : Int)
  | decideAnchor (sessionId : String) (now : Int) (configured : Option Int)

/-- What a transaction leaves; an error leaves what was there. -/
def settled {α : Type} (r : Except CcbdError (α × MasterDb)) (m : MasterDb) : MasterDb :=
  match r with
  | .ok (_, m') => m'
  | .error _ => m

namespace WindowOp

def apply (m : MasterDb) : WindowOp → MasterDb
  | begin sessionId pid generation activeWork now deferSecs =>
    settled (beginMasterRecoveryWindowSync m sessionId pid generation activeWork now deferSecs) m
  | updatePhase sessionId generation newPhase now configured =>
    (updateMasterRecoveryPhaseSync m sessionId generation newPhase now configured).2
  | complete sessionId generation now =>
    (completeMasterRecoveryWindowSync m sessionId generation now).2
  | beginReadiness sessionId generation mode token now =>
    (beginMasterRecoveryReadinessWaitSync m sessionId generation mode token now).2
  | markReady sessionId generation reason now =>
    (markMasterRecoveryReadySync m sessionId generation reason now).2
  | failReadiness sessionId generation reason now =>
    (failMasterRecoveryReadinessSync m sessionId generation reason now).2
  | expire sessionId now => (expireMasterRecoveryWindowSync m sessionId now).2
  | decideAnchor sessionId now configured =>
    settled (decideAnchorCascadeSync m sessionId now configured) m

def Step (m : MasterDb) (op : WindowOp) (m' : MasterDb) : Prop := m' = op.apply m

def clock : WindowOp → Int
  | begin _ _ _ _ now _ | updatePhase _ _ _ now _ | complete _ _ now | beginReadiness _ _ _ _ now
  | markReady _ _ _ now | failReadiness _ _ _ now | expire _ now | decideAnchor _ now _ => now

/-- The session and the generation a call names. -/
def carries : WindowOp → Option (String × Int)
  | begin s _ g _ _ _ | updatePhase s g _ _ _ | complete s g _ | beginReadiness s g _ _ _
  | markReady s g _ _ | failReadiness s g _ _ => some (s, g)
  | expire .. | decideAnchor .. => none

/-- The call begins a window of the session. -/
def begins (sessionId : String) : WindowOp → Bool
  | begin s .. => s = sessionId
  | _ => false

end WindowOp

/-! ## What an operation can make of a window -/

/-- The window `w` of the session after the operation. -/
inductive Becomes (sessionId : String) (op : WindowOp) (w : MasterRecoveryWindow) :
    MasterRecoveryWindow → Prop
  | same : Becomes sessionId op w w
  | replaced {pid generation : Int} {activeWork : Bool} {now deferSecs : Int}
      (act : op = .begin sessionId pid generation activeWork now deferSecs)
      (ended : w.expectedGeneration < generation ∨
        w.expectedGeneration = generation ∧ w.phase.isTerminal = true) :
      Becomes sessionId op w (.fresh pid generation activeWork now deferSecs)
  | extended {pid : Int} {activeWork : Bool} {now deferSecs : Int}
      (act : op = .begin sessionId pid w.expectedGeneration activeWork now deferSecs)
      (live : w.phase.isTerminal = false) :
      Becomes sessionId op w { w.deferred now deferSecs with
        expectedPid := pid, activeWork := w.activeWork || activeWork }
  | phased {newPhase : RecoveryPhase} {now : Int} {configured : Option Int}
      (act : op = .updatePhase sessionId w.expectedGeneration newPhase now configured) :
      Becomes sessionId op w
        { w.deferred now (resolveMasterRecoveryCascadeDeferSecs configured) with
          phase := newPhase }
  | completed {now : Int} (act : op = .complete sessionId w.expectedGeneration now) :
      Becomes sessionId op w
        { w with phase := .completed, completedAt := some now, updatedAt := now }
  | verifying {mode token : String} {now : Int}
      (act : op = .beginReadiness sessionId w.expectedGeneration mode token now)
      (live : w.phase.isTerminal = false) :
      Becomes sessionId op w { w with
        phase := .masterVerifying, readinessMode := some mode, readinessToken := some token,
        readyAt := none, readyReason := none, updatedAt := now }
  | ready {reason : String} {now : Int}
      (act : op = .markReady sessionId w.expectedGeneration reason now) :
      Becomes sessionId op w
        { w with readyAt := some now, readyReason := some reason, updatedAt := now }
  | unready {reason : String} {now : Int}
      (act : op = .failReadiness sessionId w.expectedGeneration reason now)
      (live : w.phase = .masterVerifying) :
      Becomes sessionId op w
        { w with phase := .failed, readyReason := some reason, updatedAt := now }
  | expired {now : Int} (live : w.phase.isTerminal = false)
      (act : op.carries = none) : Becomes sessionId op w { w with phase := .failed, updatedAt := now }

/-- A window that an operation has made. -/
def IsFresh (w : MasterRecoveryWindow) : Prop :=
  ∃ pid generation activeWork now deferSecs, w = .fresh pid generation activeWork now deferSecs

/-- What an operation does to the window of a session: it may make one, and it never removes
one. -/
def Windowed (sessionId : String) (op : WindowOp) (m m' : MasterDb) : Prop :=
  match m.windows.get? sessionId with
  | none => ∀ w', m'.windows.get? sessionId = some w' → IsFresh w'
  | some w => ∃ w', m'.windows.get? sessionId = some w' ∧ Becomes sessionId op w w'

variable {generation : Int} {w w' : MasterRecoveryWindow}

theorem Windowed.refl (s : String) (op : WindowOp) (m : MasterDb) : Windowed s op m m := by
  unfold Windowed
  split
  · rename_i absent
    intro w' held
    rw [absent] at held
    cases held
  · exact ⟨_, ‹_›, .same⟩

theorem Windowed.of_windows (same : m'.windows.get? s = m.windows.get? s) : Windowed s op m m' := by
  have refl := Windowed.refl s op m
  unfold Windowed at *
  rwa [same]

theorem get?_updateWindow (m : MasterDb) (sessionId : String) (guard : MasterRecoveryWindow → Bool)
    (f : MasterRecoveryWindow → MasterRecoveryWindow) (s : String) :
    (updateWindow m sessionId guard f).2.windows.get? s =
      if s = sessionId then (m.windows.get? s).map fun w => if guard w then f w else w
      else m.windows.get? s := by
  unfold updateWindow
  by_cases own : s = sessionId
  · subst own
    cases held : m.windows.get? s with
    | none => simp [held]
    | some w => cases passes : guard w <;> simp [passes, held]
  · split_ifs
    · exact Table.get?_modify_of_ne _ f own
    · rfl

theorem windowed_updateWindow {guard : MasterRecoveryWindow → Bool}
    (becomes : ∀ w, guard w = true → Becomes sessionId op w (f w)) (m : MasterDb) (s : String) :
    Windowed s op m (updateWindow m sessionId guard f).2 := by
  have after := get?_updateWindow m sessionId guard f s
  by_cases own : s = sessionId
  · subst own
    unfold Windowed
    rw [if_pos rfl] at after
    cases held : m.windows.get? s with
    | none => simp [after, held]
    | some w =>
      refine ⟨if guard w then f w else w, by rw [after, held]; rfl, ?_⟩
      split_ifs with passes
      · exact becomes w passes
      · exact .same
  · rw [if_neg own] at after
    exact .of_windows after

theorem windowed_insertWindow (absent : m.windows.get? sessionId = none) (fresh : IsFresh w)
    (h : insertWindow context m sessionId w = .ok (w', m')) (s : String) : Windowed s op m m' := by
  unfold insertWindow at h
  split_ifs at h
  cases h
  have after := Table.get?_insert absent w s
  by_cases own : s = sessionId
  · subst own
    rw [if_pos rfl] at after
    unfold Windowed
    rw [absent]
    intro w' held
    rw [after] at held
    cases held
    exact fresh
  · rw [if_neg own] at after
    exact .of_windows after

theorem windowed_settled {α : Type} {r : Except CcbdError (α × MasterDb)}
    (done : ∀ a m', r = .ok (a, m') → Windowed s op m m') : Windowed s op m (settled r m) := by
  cases e : r with
  | error => exact .refl s op m
  | ok x => exact done x.1 x.2 e

theorem windowed_begin
    (h : beginMasterRecoveryWindowSync m sessionId pid generation activeWork now deferSecs =
      .ok (w, m')) (s : String) :
    Windowed s (.begin sessionId pid generation activeWork now deferSecs) m m' := by
  unfold beginMasterRecoveryWindowSync at h
  split at h
  · exact windowed_insertWindow ‹_› ⟨_, _, _, _, _, rfl⟩ h s
  rename_i existing found
  split_ifs at h with older ended
  · cases h
    exact .refl s _ _
  all_goals
    cases h
    by_cases own : s = sessionId
    · subst own
      unfold Windowed
      rw [found]
      refine ⟨_, by rw [Table.get?_modify_self, found]; rfl, ?_⟩
      first
      | refine .replaced rfl ?_
        grind
      | have same : existing.expectedGeneration = generation := by grind
        subst same
        refine .extended rfl ?_
        grind
    · exact .of_windows (Table.get?_modify_of_ne _ _ own)

open MasterRecoveryWindow

theorem windowed_expire (act : op.carries = none) (m : MasterDb) (sessionId : String) (now : Int)
    (s : String) : Windowed s op m (expireMasterRecoveryWindowSync m sessionId now).2 := by
  have updated : Windowed s op m (updateWindow m sessionId (·.isOverdue now)
      ({ · with phase := .failed, updatedAt := now })).2 := by
    refine windowed_updateWindow (fun w overdue => .expired ?_ act) m s
    simp only [isOverdue, Bool.and_eq_true, Bool.not_eq_true'] at overdue
    exact overdue.1
  unfold expireMasterRecoveryWindowSync
  dsimp only
  split_ifs <;> exact updated

theorem windowed_decisionForExistingWindow (act : op.carries = none) (m : MasterDb)
    (sessionId : String) (window : MasterRecoveryWindow) (now : Int) (s : String) :
    Windowed s op m (decisionForExistingWindow m sessionId window now).2 := by
  unfold decisionForExistingWindow
  split
  case h_4 =>
    split_ifs
    · exact windowed_expire act m sessionId now s
    all_goals exact .refl s op m
  all_goals exact .refl s op m

theorem windowed_decideAnchor (h : decideAnchorCascadeSync m sessionId now configured = .ok (d, m'))
    (s : String) : Windowed s (.decideAnchor sessionId now configured) m m' := by
  unfold decideAnchorCascadeSync at h
  split at h
  · cases h
    exact .refl s _ _
  split at h
  · cases h
    exact .refl s _ _
  split at h
  · rename_i window _
    have existing : Windowed s (.decideAnchor sessionId now configured) m
        (decisionForExistingWindow m sessionId window now).2 :=
      windowed_decisionForExistingWindow rfl m sessionId window now s
    rwa [Except.ok.inj h] at existing
  rename_i absent
  split at h
  · cases h
    exact .refl s _ _
  split at h
  · obtain ⟨⟨w, m₁⟩, inserted, h⟩ := bind_eq_ok.mp h
    cases h
    exact windowed_insertWindow absent ⟨_, _, _, _, _, rfl⟩ inserted s
  · cases h
    exact .refl s _ _

theorem windowed_apply (op : WindowOp) (m : MasterDb) (s : String) :
    Windowed s op m (op.apply m) := by
  cases op with
  | begin => exact windowed_settled fun _ _ h => windowed_begin h s
  | updatePhase sessionId generation newPhase now configured =>
    refine windowed_updateWindow (fun w own => ?_) m s
    obtain rfl : w.expectedGeneration = generation := of_decide_eq_true own
    exact .phased rfl
  | complete sessionId generation now =>
    refine windowed_updateWindow (fun w own => ?_) m s
    obtain rfl : w.expectedGeneration = generation := of_decide_eq_true own
    exact .completed rfl
  | beginReadiness sessionId generation mode token now =>
    refine windowed_updateWindow (fun w own => ?_) m s
    rw [Bool.and_eq_true, Bool.not_eq_true'] at own
    obtain rfl : w.expectedGeneration = generation := of_decide_eq_true own.1
    exact .verifying rfl own.2
  | markReady sessionId generation reason now =>
    refine windowed_updateWindow (fun w own => ?_) m s
    rw [Bool.and_eq_true] at own
    obtain rfl : w.expectedGeneration = generation := of_decide_eq_true own.1
    exact .ready rfl
  | failReadiness sessionId generation reason now =>
    refine windowed_updateWindow (fun w own => ?_) m s
    rw [Bool.and_eq_true] at own
    obtain rfl : w.expectedGeneration = generation := of_decide_eq_true own.1
    exact .unready rfl (of_decide_eq_true own.2)
  | expire sessionId now => exact windowed_expire rfl m sessionId now s
  | decideAnchor => exact windowed_settled fun _ _ h => windowed_decideAnchor h s

theorem apply_becomes (op : WindowOp) (held : m.windows.get? s = some w) :
    ∃ w', (op.apply m).windows.get? s = some w' ∧ Becomes s op w w' := by
  have windowed := windowed_apply op m s
  rwa [Windowed, held] at windowed

/-! ## Finished windows -/

/-- A finished window keeps its phase, unless it begins anew. -/
def KeepsFinished (tr : Transition MasterDb WindowOp) : Prop :=
  ∀ s w, tr.act.begins s = false → tr.pre.windows.get? s = some w → w.phase.isTerminal = true →
    (tr.post.windows.get? s).map (·.phase) = some w.phase

/-- A report of a phase for a window that is finished repeats its phase. -/
def SparesFinished (m : MasterDb) : WindowOp → Prop
  | .updatePhase s generation newPhase _ _ => ∀ w, m.windows.get? s = some w →
      w.expectedGeneration = generation → w.phase.isTerminal = true → newPhase = w.phase
  | .complete s generation _ => ∀ w, m.windows.get? s = some w →
      w.expectedGeneration = generation → w.phase.isTerminal = true → w.phase = .completed
  | _ => True

theorem map_phase_updateWindow (held : m.windows.get? s = some w) :
    ((updateWindow m s (·.isFor w.expectedGeneration) f).2.windows.get? s).map (·.phase) =
      some (f w).phase := by
  rw [get?_updateWindow, if_pos rfl, held]
  simp [isFor]

open WindowOp

theorem keepsFinished_step_iff (m : MasterDb) (op : WindowOp) :
    KeepsFinished ⟨m, op, op.apply m⟩ ↔ SparesFinished m op := by
  constructor
  · intro keeps
    cases op with
    | updatePhase s generation newPhase now configured =>
      rintro w held rfl finished
      have kept := keeps s w rfl held finished
      exact Option.some.inj ((map_phase_updateWindow held).symm.trans kept)
    | complete s generation now =>
      rintro w held rfl finished
      have kept := keeps s w rfl held finished
      exact (Option.some.inj ((map_phase_updateWindow held).symm.trans kept)).symm
    | _ => trivial
  · intro spares s w open_ held finished
    obtain ⟨w', held', becomes⟩ := apply_becomes op held
    rw [held', Option.map_some, Option.some.injEq]
    -- Only the two reports write a phase over a finished one.
    cases becomes with
    | same | ready => rfl
    | replaced act | extended act => simp [act, begins] at open_
    | phased act =>
      subst act
      exact spares w held rfl finished
    | completed act =>
      subst act
      exact (spares w held rfl finished).symm
    | verifying _ live | expired live => simp [live] at finished
    | unready _ live => simp [live, RecoveryPhase.isTerminal] at finished

theorem finishedWindows_iff {m m' : MasterDb} {ts : List (Transition MasterDb WindowOp)}
    (run : Run Step m ts m') :
    (∀ tr ∈ ts, KeepsFinished tr) ↔ ∀ tr ∈ ts, SparesFinished tr.pre tr.act := by
  refine run.forall_transition_iff (fun _ _ _ _ _ => trivial) ?_ trivial
  rintro m op m' - rfl
  exact keepsFinished_step_iff m op

/-- One active session. -/
def MasterDb.oneSession : MasterDb where
  masters := Table.empty.insert "s1" { masterPid := 7, masterGeneration := 1 }
  windows := .empty
  cutovers := .empty
  db := .oneSession

/-- The master is revived and the window completed. -/
def revivedMaster : List WindowOp :=
  [.begin "s1" 7 1 true 100 90, .updatePhase "s1" 1 .workersReaped 101 none,
    .updatePhase "s1" 1 .masterSpawning 102 none, .beginReadiness "s1" 1 "probe" "s1:2" 104,
    .markReady "s1" 1 "probe" 110, .complete "s1" 1 111]

open MasterDb

/-- The completed window is completed again, and the patrol looks at it. -/
theorem finishedWindows_revivedMaster :
    ∃ m m', (m.windows.get? "s1").map (·.phase) = some .completed ∧
      Run Step m (trace apply m [.complete "s1" 1 112, .expire "s1" 500]) m' ∧
      ∀ tr ∈ trace apply m [.complete "s1" 1 112, .expire "s1" 500], KeepsFinished tr := by
  obtain ⟨m, completed⟩ : ∃ m, (m.windows.get? "s1").map (·.phase) = some .completed :=
    ⟨revivedMaster.foldl apply oneSession, by decide +kernel⟩
  have run := Run.of_list (f := apply) m [.complete "s1" 1 112, .expire "s1" 500]
  refine ⟨m, _, completed, run, (finishedWindows_iff run).mpr ?_⟩
  simp only [trace, List.forall_mem_cons]
  refine ⟨fun w held _ _ => ?_, trivial, by simp⟩
  simpa [held] using completed

theorem KeepsFinished.map_phase (keeps : KeepsFinished tr) (open_ : tr.act.begins s = false)
    (finished : p.isTerminal = true) (held : (tr.pre.windows.get? s).map (·.phase) = some p) :
    (tr.post.windows.get? s).map (·.phase) = some p := by
  obtain ⟨w, found, rfl⟩ := Option.map_eq_some_iff.mp held
  exact keeps s w open_ found finished

/-- A watcher of the old master comes late and reports its window as failed. -/
def lateWatcher : List WindowOp := [.updatePhase "s1" 1 .failed 112 none]

theorem not_finishedWindows_lateWatcher :
    ∃ m, Run Step (revivedMaster.foldl apply .oneSession)
        (trace apply (revivedMaster.foldl apply .oneSession) lateWatcher) m ∧
      ¬∀ tr ∈ trace apply (revivedMaster.foldl apply .oneSession) lateWatcher,
        KeepsFinished tr := by
  refine ⟨_, Run.of_list _ _, fun keeps => ?_⟩
  have late := (keeps _ List.mem_cons_self).map_phase (s := "s1") (p := .completed) rfl rfl
    (by decide +kernel)
  revert late
  decide +kernel

/-! ## Fencing and bounds -/

/-- No generation of a window decreases. -/
def KeepsGeneration (tr : Transition MasterDb WindowOp) : Prop :=
  ∀ s w, tr.pre.windows.get? s = some w →
    ∃ w', tr.post.windows.get? s = some w' ∧ w.expectedGeneration ≤ w'.expectedGeneration

/-- A call for an older generation leaves the row as it is. -/
def RefusesOlder (tr : Transition MasterDb WindowOp) : Prop :=
  ∀ s generation w, tr.act.carries = some (s, generation) → tr.pre.windows.get? s = some w →
    generation < w.expectedGeneration → tr.post.windows.get? s = some w

/-- The time of a window does not become shorter. -/
def KeepsTime (tr : Transition MasterDb WindowOp) (s : String) : Prop :=
  ∀ w w', tr.pre.windows.get? s = some w → tr.post.windows.get? s = some w' →
    w'.expectedGeneration = w.expectedGeneration → w'.createdAt = w.createdAt →
      w.deferUntil ≤ w'.deferUntil

/-- No window is open for longer than five minutes. -/
def MasterDb.Capped (m : MasterDb) : Prop :=
  ∀ s w, m.windows.get? s = some w → w.deferUntil ≤ w.createdAt + masterRecoveryWindowMaxTotalSecs

/-- A timeout that is computed from a window leaves the margin before it ends, and before its
five minutes are over. -/
def MasterDb.Timely (m : MasterDb) : Prop :=
  ∀ s w, m.windows.get? s = some w → ∀ now configuredSecs cleanupMargin,
    effectiveReadinessTimeout now w.deferUntil w.createdAt configuredSecs cleanupMargin ≤
      w.deferUntil - now - cleanupMargin ∧
    effectiveReadinessTimeout now w.deferUntil w.createdAt configuredSecs cleanupMargin ≤
      w.createdAt + masterRecoveryWindowMaxTotalSecs - now - cleanupMargin

/-- The clock of the calls never goes back. -/
def ClockAdvances (ts : List (Transition MasterDb WindowOp)) : Prop :=
  ts.Pairwise fun tr tr' => tr.act.clock ≤ tr'.act.clock

/-- The operation begins the window of a session anew after it was finished. -/
def Restarts (m : MasterDb) (op : WindowOp) (s : String) : Prop :=
  op.begins s = true ∧ ∃ w, m.windows.get? s = some w ∧ w.phase.isTerminal = true

theorem Becomes.generation_le (h : Becomes s op w w') :
    w.expectedGeneration ≤ w'.expectedGeneration := by
  cases h with
  | replaced act ended =>
    rcases ended with older | ⟨same, -⟩
    · exact older.le
    · exact same.le
  | _ => exact le_rfl

theorem Becomes.eq_of_older (h : Becomes s op w w') (carries : op.carries = some (s, generation))
    (older : generation < w.expectedGeneration) : w' = w := by
  cases h with
  | same => rfl
  | replaced act ended =>
    subst act
    cases carries
    omega
  | expired _ act =>
    rw [act] at carries
    cases carries
  | extended act | phased act | completed act | verifying act | ready act | unready act =>
    subst act
    cases carries
    exact absurd older (lt_irrefl _)

theorem Becomes.deferUntil_le (h : Becomes s op w w')
    (continues : op.begins s = true → w.phase.isTerminal = false)
    (same : w'.expectedGeneration = w.expectedGeneration) : w.deferUntil ≤ w'.deferUntil := by
  cases h with
  | replaced act ended =>
    subst act
    rcases ended with older | ⟨-, finished⟩
    · exact absurd same older.ne'
    · simp [continues, begins] at finished
  | extended | phased => exact le_max_left _ _
  | _ => exact le_rfl

theorem deferred_capped (capped : w.deferUntil ≤ w.createdAt + masterRecoveryWindowMaxTotalSecs)
    (now deferSecs : Int) :
    (w.deferred now deferSecs).deferUntil ≤ w.createdAt + masterRecoveryWindowMaxTotalSecs :=
  max_le capped (cappedDeferUntil_le now deferSecs w.createdAt)

theorem Becomes.capped (h : Becomes s op w w')
    (capped : w.deferUntil ≤ w.createdAt + masterRecoveryWindowMaxTotalSecs) :
    w'.deferUntil ≤ w'.createdAt + masterRecoveryWindowMaxTotalSecs := by
  cases h with
  | replaced => exact cappedDeferUntil_le ..
  | extended | phased => exact deferred_capped capped ..
  | _ => exact capped

theorem apply_capped (capped : m.Capped) (op : WindowOp) : (op.apply m).Capped := by
  intro s w' held'
  cases held : m.windows.get? s with
  | none =>
    have windowed := windowed_apply op m s
    rw [Windowed, held] at windowed
    obtain ⟨pid, generation, activeWork, now, deferSecs, rfl⟩ := windowed w' held'
    exact cappedDeferUntil_le ..
  | some w =>
    obtain ⟨w₁, held₁, becomes⟩ := apply_becomes op held
    obtain rfl : w₁ = w' := Option.some.inj (held₁.symm.trans held')
    exact becomes.capped (capped s w held)

theorem timely (m : MasterDb) : m.Timely := by
  intro s w _ now configuredSecs cleanupMargin
  simp only [effectiveReadinessTimeout]
  constructor <;> omega

/-- The windows are fenced and bounded, and the time of a window that is not begun anew does
not become shorter. -/
theorem windows_fenced {m m' : MasterDb} {ts : List (Transition MasterDb WindowOp)}
    (capped : m.Capped) (run : Run Step m ts m') :
    ∀ tr ∈ ts, KeepsGeneration tr ∧ RefusesOlder tr ∧
      (∀ s, ¬Restarts tr.pre tr.act s → KeepsTime tr s) ∧ tr.post.Capped ∧ tr.post.Timely := by
  refine run.forall_transition (I := Capped) (C := fun _ _ => True) ?_ ?_ capped fun _ _ => trivial
  · rintro m op m' capped - rfl
    exact apply_capped capped op
  rintro m op m' capped - rfl
  refine ⟨?_, ?_, ?_, apply_capped capped op, timely _⟩
  · intro s w held
    obtain ⟨w', held', becomes⟩ := apply_becomes op held
    exact ⟨w', held', becomes.generation_le⟩
  · intro s generation w carries held older
    obtain ⟨w', held', becomes⟩ := apply_becomes op held
    rwa [becomes.eq_of_older carries older] at held'
  · intro s continues w w' held held' same _
    obtain ⟨w₁, held₁, becomes⟩ := apply_becomes op held
    obtain rfl : w₁ = w' := Option.some.inj (held₁.symm.trans held')
    refine becomes.deferUntil_le (fun begins => ?_) same
    cases finished : w.phase.isTerminal with
    | false => rfl
    | true => exact absurd ⟨begins, w, held, finished⟩ continues

theorem windows_fenced_revivedMaster :
    ∃ m, Run Step .oneSession (trace apply .oneSession revivedMaster) m ∧
      oneSession.Capped ∧
      ∀ tr ∈ trace apply .oneSession revivedMaster, KeepsGeneration tr ∧
        RefusesOlder tr ∧ (∀ s, ¬Restarts tr.pre tr.act s → KeepsTime tr s) ∧
        tr.post.Capped ∧ tr.post.Timely := by
  have capped : oneSession.Capped := by
    intro s w held
    cases held
  have run := Run.of_list (f := apply) oneSession revivedMaster
  exact ⟨_, run, capped, windows_fenced capped run⟩

/-- A window that failed at once and begins anew within the same second, with less time. -/
def begunAnew : List WindowOp :=
  [.begin "s1" 7 1 true 100 300, .updatePhase "s1" 1 .failed 100 none, .begin "s1" 7 1 true 100 10]

theorem KeepsTime.le (keeps : KeepsTime tr s) (before : (tr.pre.windows.get? s).map
      (fun w => (w.expectedGeneration, w.createdAt, w.deferUntil)) = some (g, c, d))
    (after : (tr.post.windows.get? s).map
      (fun w => (w.expectedGeneration, w.createdAt, w.deferUntil)) = some (g, c, d')) : d ≤ d' := by
  obtain ⟨w, held, same⟩ := Option.map_eq_some_iff.mp before
  obtain ⟨w', held', same'⟩ := Option.map_eq_some_iff.mp after
  cases same
  simp only [Prod.mk.injEq] at same'
  obtain ⟨generation, created, rfl⟩ := same'
  exact keeps w w' held held' generation created

theorem not_keepsTime_begunAnew :
    ∃ m, Run Step .oneSession (trace apply .oneSession begunAnew) m ∧
      ClockAdvances (trace apply .oneSession begunAnew) ∧
      ¬∀ tr ∈ trace apply .oneSession begunAnew, ∀ s, KeepsTime tr s := by
  refine ⟨_, Run.of_list _ _, by unfold ClockAdvances; decide +kernel, fun keeps => ?_⟩
  have last := keeps _ (List.mem_cons_of_mem _ (List.mem_cons_of_mem _ List.mem_cons_self)) "s1"
  have shorter : (400 : Int) ≤ 110 :=
    last.le (g := 1) (c := 100) (by decide +kernel) (by decide +kernel)
  exact absurd shorter (by decide)

/-! ## Who notices the death first -/

/-- The window is one of the generation, and open. -/
def MasterRecoveryWindow.IsLive (generation now : Int) (window : MasterRecoveryWindow) : Prop :=
  window.expectedGeneration = generation ∧ window.phase.isTerminal = false ∧ now ≤ window.deferUntil

/-- The anchor defers to a window. -/
def MasterRecoveryWindow.Defers (now : Int) (window : MasterRecoveryWindow) : Prop :=
  window.phase.isTerminal = false ∧ now ≤ window.deferUntil ∧ window.activeWork = true

/-- The anchor that decides now does not take the workers down. -/
def anchorDefers (m : MasterDb) (sessionId : String) (now : Int) (configured : Option Int) : Bool :=
  match decideAnchorCascadeSync m sessionId now configured with
  | .ok (decision, _) => decision.isDefer
  | .error _ => false

section Anchor

variable {m : MasterDb} {sessionId : String} {session : MasterRow} {now : Int}
  {configured : Option Int}

theorem isDefer_decisionForExistingWindow (m : MasterDb) (sessionId : String)
    (window : MasterRecoveryWindow) (now : Int) :
    (decisionForExistingWindow m sessionId window now).1.isDefer = true ↔ window.Defers now := by
  unfold decisionForExistingWindow Defers
  cases phase : window.phase <;> grind [AnchorCascadeDecision.isDefer, RecoveryPhase.isTerminal]

theorem anchorDefers_existing (held : m.masters.get? sessionId = some session)
    (active : session.status = .active) (found : m.windows.get? sessionId = some window) :
    anchorDefers m sessionId now configured = true ↔ window.Defers now := by
  rw [← isDefer_decisionForExistingWindow m sessionId window now]
  simp [anchorDefers, decideAnchorCascadeSync, held, active, found]

theorem insertWindow_held (held : m.masters.get? sessionId = some session) (context : String)
    (window : MasterRecoveryWindow) : insertWindow context m sessionId window =
      .ok (window, { m with windows := m.windows.insert sessionId window }) := by
  simp [insertWindow, held]

theorem anchorDefers_absent (held : m.masters.get? sessionId = some session)
    (active : session.status = .active) (absent : m.windows.get? sessionId = none)
    (noCutover : masterCutoverInflight m sessionId = false)
    (work : sessionHasActiveWork m.db sessionId = true) :
    anchorDefers m sessionId now configured = true := by
  simp only [anchorDefers, decideAnchorCascadeSync, held, active, absent, noCutover, work,
    insertWindow_held held]
  rfl

theorem fresh_defers (pid generation now deferSecs : Int) :
    (fresh pid generation true now deferSecs).Defers now :=
  ⟨rfl, (lt_cappedDeferUntil now deferSecs).le, rfl⟩

/-- The watcher's window is deferred to, unless one of the generation was there. -/
theorem begin_fresh (held : m.masters.get? sessionId = some session)
    (older : ∀ w, m.windows.get? sessionId = some w → w.expectedGeneration < generation)
    (now pid deferSecs : Int) :
    ((begin sessionId pid generation true now deferSecs).apply m).windows.get? sessionId =
      some (.fresh pid generation true now deferSecs) := by
  simp only [apply, beginMasterRecoveryWindowSync]
  cases found : m.windows.get? sessionId with
  | none =>
    rw [insertWindow_held held]
    exact (Table.get?_insert found _ _).trans (if_pos rfl)
  | some w =>
    have less := older w found
    have notLess : ¬generation < w.expectedGeneration := by omega
    simp [notLess, less, settled, Table.get?_modify_self, found]

theorem begin_masters (m : MasterDb) (sessionId : String) (pid generation : Int)
    (activeWork : Bool) (now deferSecs : Int) :
    ((begin sessionId pid generation activeWork now deferSecs).apply m).masters = m.masters := by
  simp only [apply, beginMasterRecoveryWindowSync, insertWindow]
  split <;> split_ifs <;> rfl

/-- With work to do, the anchor defers before and after the watcher has begun its window
exactly if it defers to the window that was there. -/
theorem anchorDefers_iff (held : m.masters.get? sessionId = some session)
    (active : session.status = .active) (work : sessionHasActiveWork m.db sessionId = true)
    (noCutover : masterCutoverInflight m sessionId = false)
    (leftover : ∀ w, m.windows.get? sessionId = some w →
      w.expectedGeneration ≤ session.masterGeneration ∧ ¬w.IsLive session.masterGeneration now)
    (pid deferSecs : Int) (configured : Option Int) :
    (anchorDefers m sessionId now configured = true ∧
      anchorDefers ((begin sessionId pid session.masterGeneration true now deferSecs).apply
        m) sessionId now configured = true) ↔
      ∀ w, m.windows.get? sessionId = some w → w.Defers now := by
  constructor
  · intro defers w found
    exact (anchorDefers_existing held active found).mp defers.1
  · intro defers
    have first : anchorDefers m sessionId now configured = true := by
      cases found : m.windows.get? sessionId with
      | none => exact anchorDefers_absent held active found noCutover work
      | some w => exact (anchorDefers_existing held active found).mpr (defers w found)
    have older : ∀ w, m.windows.get? sessionId = some w →
        w.expectedGeneration < session.masterGeneration := by
      intro w found
      obtain ⟨open_, inTime, -⟩ := defers w found
      obtain ⟨le, notLive⟩ := leftover w found
      exact lt_of_le_of_ne le fun same => notLive ⟨same, open_, inTime⟩
    have begun := begin_fresh held older now pid deferSecs
    rw [← begin_masters m sessionId pid session.masterGeneration true now deferSecs] at held
    exact ⟨first, (anchorDefers_existing held active begun).mpr (fresh_defers ..)⟩

end Anchor

def busyWorker : Agent where
  sessionId := "s1"
  provider := "codex"
  state := .busy
  createdAt := 0
  updatedAt := 0

/-- The session of a master that was revived once, with a worker at work. -/
def MasterDb.atWork (windows : Table String MasterRecoveryWindow) : MasterDb where
  masters := Table.empty.insert "s1" { masterPid := 8, masterGeneration := 2 }
  windows := windows
  cutovers := .empty
  db := { Db.oneSession with agents := Table.empty.insert "a1" busyWorker }

/-- The window of the first recovery, which nobody has completed. -/
def openWindows : Table String MasterRecoveryWindow :=
  Table.empty.insert "s1" (fresh 7 1 true 450 90)

theorem anchorDefers_atWork :
    anchorDefers (.atWork openWindows) "s1" 500 none = true ∧
      anchorDefers ((begin "s1" 8 2 true 500 90).apply (.atWork openWindows)) "s1" 500 none =
        true := by
  have held : (atWork openWindows).masters.get? "s1" =
      some { masterPid := 8, masterGeneration := 2 } := rfl
  have only : ∀ w, (atWork openWindows).windows.get? "s1" = some w → w = fresh 7 1 true 450 90 := by
    rintro w ⟨⟩
    rfl
  refine (anchorDefers_iff held rfl (by decide +kernel) (by decide +kernel) ?_ 8 90 none).mpr ?_
  · intro w found
    rw [only w found]
    exact ⟨by decide, fun live => absurd live.1 (by decide)⟩
  · intro w found
    rw [only w found]
    exact ⟨rfl, by decide, rfl⟩

/-- The windows after the master was revived for the first time. -/
def completedWindows : Table String MasterRecoveryWindow :=
  (revivedMaster.foldl apply .oneSession).windows

/-- The master dies again and the anchor is first to see it. -/
theorem not_anchorDefers_revivedMaster :
    (∃ session, (atWork completedWindows).masters.get? "s1" = some session ∧
      session.status = .active ∧ session.masterGeneration = 2 ∧
      ∀ w, completedWindows.get? "s1" = some w →
        w.expectedGeneration ≤ session.masterGeneration ∧
          ¬w.IsLive session.masterGeneration 500) ∧
    sessionHasActiveWork (atWork completedWindows).db "s1" = true ∧
    masterCutoverInflight (.atWork completedWindows) "s1" = false ∧
    ¬(anchorDefers (.atWork completedWindows) "s1" 500 none = true ∧
      anchorDefers ((begin "s1" 8 2 true 500 90).apply (.atWork completedWindows))
        "s1" 500 none = true) := by
  refine ⟨⟨_, rfl, rfl, rfl, ?_⟩, by decide +kernel, by decide +kernel, by decide +kernel⟩
  have found : (completedWindows.get? "s1").map (·.expectedGeneration) = some 1 := by
    decide +kernel
  intro w held
  rw [held, Option.map_some, Option.some.injEq] at found
  refine ⟨by rw [found]; decide, fun live => ?_⟩
  rw [IsLive, found] at live
  exact absurd live.1 (by decide)

end Ccbd.Master
