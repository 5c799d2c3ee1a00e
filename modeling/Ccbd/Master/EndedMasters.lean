import Ccbd.Master.RecoveryWindow

/-!
# Ended sessions and their masters

A session that the user has killed, or that was closed because its master had nothing to do,
has ended. What is still under way for its master may come later: an attempt to revive it
counts and fuses in two transactions, and a recovery window expires whether or not somebody
waits for it.
-/

namespace Ccbd.Master

open Lib

/-- The database, and the sessions whose fuse follows an attempt that was counted. -/
structure RevivalWorld where
  m : MasterDb
  pending : List String

inductive RevivalAct where
  /-- The count of `record_master_revive_attempt`. -/
  | attempt (sessionId : String) (currentPid claimedGeneration now : Int)
  /-- The fuse at its end. -/
  | fuseAfterAttempt (sessionId : String)
  | master (op : MasterOp)
  | window (op : WindowOp)

def masterReviveFuseThreshold : Int := 5

/-- The attempt is the last one: the count it leaves reaches the threshold. -/
def attemptFuses (t : Masters) (sessionId : String) (currentPid claimedGeneration : Int) : Bool :=
  (t.get? sessionId).any fun row => row.isCurrent currentPid claimedGeneration &&
    decide (masterReviveFuseThreshold ≤ row.masterRetryCount + 1)

namespace RevivalAct

def apply (w : RevivalWorld) : RevivalAct → RevivalWorld
  | attempt sessionId pid generation now =>
    { m := { w.m with
        masters := (recordMasterReviveAttempt w.m.masters sessionId pid generation now).2 }
      pending := if attemptFuses w.m.masters sessionId pid generation then sessionId :: w.pending
        else w.pending }
  | fuseAfterAttempt sessionId =>
    if sessionId ∈ w.pending then
      { m := { w.m with
          masters := (fuseSessionAfterMasterReviveExhausted w.m.masters sessionId).2 }
        pending := w.pending.erase sessionId }
    else w
  | master op => { w with m := { w.m with masters := op.apply w.m.masters } }
  | window op => { w with m := op.apply w.m }

def Step (w : RevivalWorld) (a : RevivalAct) (w' : RevivalWorld) : Prop := w' = a.apply w

/-- The operations of a revival and of a recovery; the others only happen in between. -/
def ofRevival : RevivalAct → Bool
  | attempt .. | fuseAfterAttempt _ => true
  | master (.fuse _) | master (.intentionalKill _) | master (.closeAfterIdleMasterDeath _) => true
  | window (.expire ..) | window (.decideAnchor ..) => true
  | _ => false

end RevivalAct

def MasterRow.hasEnded (row : MasterRow) : Prop := row.status = .killed ∨ row.status = .closed

/-- The session is there and has ended. -/
def Ended (t : Masters) (sessionId : String) : Prop :=
  ∃ row, t.get? sessionId = some row ∧ row.hasEnded

/-- Every session that has ended stays so, for the same reason. -/
def KeepsEnds (t t' : Masters) : Prop :=
  ∀ s row, t.get? s = some row → row.hasEnded →
    ∃ row', t'.get? s = some row' ∧ row'.status = row.status ∧
      row'.masterLastExitReason = row.masterLastExitReason

def KeepsEnded (tr : Transition RevivalWorld RevivalAct) : Prop :=
  tr.act.ofRevival = true → KeepsEnds tr.pre.m.masters tr.post.m.masters

/-- A fuse, and the expiry of a window that is overdue, do not meet a session that has
ended. -/
def SparesEnded (w : RevivalWorld) : RevivalAct → Prop
  | .fuseAfterAttempt s => s ∈ w.pending → ¬Ended w.m.masters s
  | .master (.fuse s) => ¬Ended w.m.masters s
  | .window (.expire s now) =>
    (w.m.windows.get? s).any (·.isOverdue now) = true → ¬Ended w.m.masters s
  | _ => True

/-! ## What one operation does -/

theorem KeepsEnds.refl (t : Masters) : KeepsEnds t t := fun _ row held _ => ⟨row, held, rfl, rfl⟩

theorem keepsEnds_updateMaster {guard : MasterRow → Bool}
    (spares : ∀ row, t.get? sessionId = some row → guard row = true → ¬row.hasEnded) :
    KeepsEnds t (updateMaster t sessionId guard f).2 := by
  intro s row held ended
  rw [get?_updateMaster, held]
  split_ifs with own
  · subst own
    have blocked : guard row = false := by
      cases passes : guard row with
      | false => rfl
      | true => exact absurd ended (spares row held passes)
    exact ⟨row, by simp [blocked], rfl, rfl⟩
  · exact ⟨row, rfl, rfl, rfl⟩

theorem MasterRow.not_hasEnded_of_isActive {row : MasterRow} (active : row.isActive = true) :
    ¬row.hasEnded := by
  intro ended
  simp only [MasterRow.isActive, decide_eq_true_eq] at active
  simp [MasterRow.hasEnded, active] at ended

theorem MasterRow.isActive_of_isCurrent {row : MasterRow}
    (current : row.isCurrent pid generation = true) : row.isActive = true := by
  simp only [MasterRow.isCurrent, Bool.and_eq_true] at current
  exact current.1.1

theorem keepsEnds_of_active {guard : MasterRow → Bool}
    (active : ∀ row, guard row = true → row.isActive = true) (f : MasterRow → MasterRow) :
    KeepsEnds t (updateMaster t sessionId guard f).2 :=
  keepsEnds_updateMaster fun _ _ passes => MasterRow.not_hasEnded_of_isActive (active _ passes)

/-- A statement without a condition that makes sessions fail keeps the ends of all sessions
exactly if the one it names has not ended. -/
theorem keepsEnds_failed_iff (fails : ∀ row, (f row).status = .failed) :
    KeepsEnds t (updateMaster t sessionId (fun _ => true) f).2 ↔ ¬Ended t sessionId := by
  constructor
  · rintro keeps ⟨row, held, ended⟩
    obtain ⟨row', held', same, -⟩ := keeps sessionId row held ended
    rw [get?_updateMaster, if_pos rfl, held] at held'
    cases held'
    have failed : row.status = .failed := same.symm.trans (fails row)
    simp [MasterRow.hasEnded, failed] at ended
  · intro spared
    exact keepsEnds_updateMaster fun row held _ ended => spared ⟨row, held, ended⟩

theorem keepsEnds_fuse_iff (t : Masters) (sessionId : String) :
    KeepsEnds t (fuseSessionAfterMasterReviveExhausted t sessionId).2 ↔ ¬Ended t sessionId :=
  keepsEnds_failed_iff fun _ => rfl

theorem masters_expire (m : MasterDb) (sessionId : String) (now : Int) :
    (expireMasterRecoveryWindowSync m sessionId now).2.masters =
      if (m.windows.get? sessionId).any (·.isOverdue now) = true then
        (expireMasterRecoverySession m.masters sessionId).2
      else m.masters := by
  unfold expireMasterRecoveryWindowSync updateWindow
  split_ifs <;> rfl

theorem keepsEnds_expire_iff (m : MasterDb) (sessionId : String) (now : Int) :
    KeepsEnds m.masters (expireMasterRecoveryWindowSync m sessionId now).2.masters ↔
      ((m.windows.get? sessionId).any (·.isOverdue now) = true → ¬Ended m.masters sessionId) := by
  rw [masters_expire]
  split_ifs with overdue
  · rw [expireMasterRecoverySession, keepsEnds_failed_iff fun _ => rfl]
    exact ⟨fun spared _ => spared, fun spared => spared overdue⟩
  · exact ⟨fun _ h => absurd h overdue, fun _ => .refl _⟩

theorem keepsEnds_decideAnchor (m : MasterDb) (sessionId : String) (now : Int)
    (configured : Option Int) :
    KeepsEnds m.masters ((WindowOp.decideAnchor sessionId now configured).apply m).masters := by
  simp only [WindowOp.apply, decideAnchorCascadeSync]
  split
  · exact .refl _
  rename_i session held
  split
  · exact .refl _
  rename_i inactive
  have spared : ¬Ended m.masters sessionId := by
    rintro ⟨row, held', ended⟩
    obtain rfl : session = row := Option.some.inj (held.symm.trans held')
    exact MasterRow.not_hasEnded_of_isActive (by simpa [MasterRow.isActive] using inactive) ended
  split
  · simp only [decisionForExistingWindow]
    split
    · exact .refl _
    · exact .refl _
    · exact .refl _
    · split_ifs
      · exact (keepsEnds_expire_iff m sessionId now).mpr fun _ => spared
      · exact .refl _
      · exact .refl _
  · split
    · exact .refl _
    · split
      · rw [insertWindow_held held]
        exact .refl _
      · exact .refl _

open RevivalAct

theorem keepsEnded_step_iff (w : RevivalWorld) (a : RevivalAct) :
    KeepsEnded ⟨w, a, a.apply w⟩ ↔ SparesEnded w a := by
  have unlisted : a.ofRevival = false → KeepsEnded ⟨w, a, a.apply w⟩ := by
    intro other listed
    rw [other] at listed
    cases listed
  have listed : a.ofRevival = true →
      (KeepsEnded ⟨w, a, a.apply w⟩ ↔ KeepsEnds w.m.masters (a.apply w).m.masters) :=
    fun own => ⟨fun keeps => keeps own, fun keeps _ => keeps⟩
  cases a with
  | attempt =>
    refine (listed rfl).trans (iff_of_true ?_ trivial)
    exact keepsEnds_of_active (fun _ => MasterRow.isActive_of_isCurrent) _
  | fuseAfterAttempt s =>
    refine (listed rfl).trans ?_
    simp only [apply]
    split_ifs with waiting
    · exact (keepsEnds_fuse_iff _ s).trans ⟨fun h _ => h, fun h => h waiting⟩
    · exact iff_of_true (.refl _) fun h => absurd h waiting
  | master op =>
    cases op with
    | fuse s => exact (listed rfl).trans (keepsEnds_fuse_iff _ s)
    | intentionalKill | closeAfterIdleMasterDeath =>
      refine (listed rfl).trans (iff_of_true ?_ trivial)
      exact keepsEnds_of_active (fun _ active => active) _
    | _ => exact iff_of_true (unlisted rfl) trivial
  | window op =>
    cases op with
    | expire s now => exact (listed rfl).trans (keepsEnds_expire_iff _ s now)
    | decideAnchor s now configured =>
      exact (listed rfl).trans (iff_of_true (keepsEnds_decideAnchor _ s now configured) trivial)
    | _ => exact iff_of_true (unlisted rfl) trivial

/-- In an interleaving of all of them, the operations of a revival and of a recovery keep the
sessions that have ended exactly if no fuse and no expiry meets one. -/
theorem endedMasters_iff {w w' : RevivalWorld} {ts : List (Transition RevivalWorld RevivalAct)}
    (run : Run Step w ts w') :
    (∀ tr ∈ ts, KeepsEnded tr) ↔ ∀ tr ∈ ts, SparesEnded tr.pre tr.act := by
  refine run.forall_transition_iff (fun _ _ _ _ _ => trivial) ?_ trivial
  rintro w a w' - rfl
  exact keepsEnded_step_iff w a

def RevivalWorld.oneSession : RevivalWorld := ⟨.oneSession, []⟩

/-- The master is claimed and the attempt counted before the user kills the session. -/
def killedInRevival : List RevivalAct :=
  [.window (.begin "s1" 7 1 true 100 90), .master (.tryClaim "s1" 7 1), .attempt "s1" 7 2 101,
    .master (.intentionalKill "s1"), .attempt "s1" 7 2 103, .window (.decideAnchor "s1" 195 none)]

theorem endedMasters_killedInRevival :
    ∃ w, Run Step .oneSession (trace apply .oneSession killedInRevival) w ∧
      (w.m.masters.get? "s1").map (·.status) = some .killed ∧
      ((∀ tr ∈ trace apply .oneSession killedInRevival, KeepsEnded tr) ↔
        ∀ tr ∈ trace apply .oneSession killedInRevival, SparesEnded tr.pre tr.act) := by
  have run := Run.of_list (f := apply) RevivalWorld.oneSession killedInRevival
  exact ⟨_, run, by decide +kernel, endedMasters_iff run⟩

/-- The user kills a session whose master is being revived; the window stays open and expires
when the daemon starts the next time. -/
def killedInWindow : List RevivalAct :=
  [.window (.begin "s1" 7 1 true 100 90), .master (.intentionalKill "s1"),
    .window (.expire "s1" 200)]

theorem not_endedMasters_killedInWindow :
    ∃ w, Run Step .oneSession (trace apply .oneSession killedInWindow) w ∧
      ¬∀ tr ∈ trace apply .oneSession killedInWindow, KeepsEnded tr := by
  have run := Run.of_list (f := apply) RevivalWorld.oneSession killedInWindow
  refine ⟨_, run, fun keeps => ?_⟩
  have spared := (keepsEnded_step_iff _ _).mp
    (keeps _ (List.mem_cons_of_mem _ (List.mem_cons_of_mem _ List.mem_cons_self)))
  exact spared (by decide +kernel) ⟨_, rfl, .inl rfl⟩

end Ccbd.Master
