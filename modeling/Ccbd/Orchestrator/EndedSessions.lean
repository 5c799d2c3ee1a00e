import Ccbd.Orchestrator.RecoveryBound

/-!
# Workers of sessions that have ended

The loop asks for an ACTIVE session only where it restores an idle worker, and it asks for
the session of the intent. A worker that was busy when it crashed is respawned whatever became of
its session. Where every candidate the loop does not ask about has an ACTIVE session, and none
ends between the checks and the claim, only workers of ACTIVE sessions are brought back.
-/

namespace Ccbd

open Lib

/-- The session of the agent is ACTIVE, if the agent is there. -/
def Db.sessionActive (db : Db) (a : String) : Bool :=
  (db.agents.get? a).all fun row => sessionIsActive db row.sessionId

/-- The agent the transition calls the respawn function for. -/
def respawnOf (t : Transition RecoveryWorld RecoveryAct) : Option String :=
  match t.act, t.pre.stage with
  | .proceed .., .respawning x => some x.agentId
  | _, _ => none

/-- Wherever an agent is respawned, its session was ACTIVE when it was last claimed. -/
def RevivesOnlyActive (ts : List (Transition RecoveryWorld RecoveryAct)) : Prop :=
  ∀ a (i j : Nat) t u, ts[i]? = some t → ts[j]? = some u → i < j → claimsOf a t = 1 →
    respawnOf u = some a → (∀ k v, i < k → k < j → ts[k]? = some v → claimsOf a v = 0) →
      t.pre.db.sessionActive a = true

/-- The candidate whose session has been found ACTIVE, or that has passed the checks. -/
def RecoveryStage.waiting? : RecoveryStage → Option RecoveryClaim
  | scanning _ (.spec claim) _ => if claim.intent.action = .reviveIdle then some claim else none
  | claiming _ claim _ _ => some claim
  | _ => none

/-- The step does not let a candidate through whose session has ended, and does not end the
session of one that waits for its claim or move it to a session that has ended. -/
def RecoveryWorld.guards (w : RecoveryWorld) (act : RecoveryAct) : Bool :=
  match act with
  | .consider _ => match w.stage with
    | .scanning _ (.session claim) _ => w.db.sessionActive claim.agentId ||
        (w.db.agents.get? claim.agentId).all (·.sessionId = claim.intent.sessionId)
    | .scanning _ (.spec claim) _ => claim.intent.action = .reviveIdle ||
        w.db.sessionActive claim.agentId || (queryAgentSpawnSpecSync w.db claim.agentId).isNone
    | _ => true
  | .daemon (.shutdown _) =>
    w.stage.waiting?.all fun claim => (w.db.agents.get? claim.agentId).isNone
  | .daemon (.writeSession s session) => session.status = "ACTIVE" ||
      w.stage.waiting?.all fun claim => (w.db.agents.get? claim.agentId).all (·.sessionId ≠ s)
  | .daemon (.insertAgent a s ..) =>
    sessionIsActive w.db s || w.stage.waiting?.all (·.agentId ≠ a)
  | .daemon (.replaceKilledAgent s spec ..) =>
    sessionIsActive w.db s || w.stage.waiting?.all (·.agentId ≠ spec.agentId)
  | .restoreKilledWorker s stored _ =>
    sessionIsActive w.db s || w.stage.waiting?.all (·.agentId ≠ stored.spec.agentId)
  | _ => true

/-! ## Sessions that stay as they are -/

section Kept

variable {db db' : Db} {a : String}

theorem sessionActive_of_origin
    (origin : (db'.agents.get? a).map Agent.origin = (db.agents.get? a).map Agent.origin)
    (sessions : db'.sessions = db.sessions) : db'.sessionActive a = db.sessionActive a := by
  have all (d : Db) : d.sessionActive a =
      ((d.agents.get? a).map Agent.origin).all fun o => sessionIsActive d o.1 := by
    rw [Db.sessionActive]
    cases d.agents.get? a <;> rfl
  rw [all, all, origin]
  simp [sessionIsActive, sessions]

theorem sessionActive_of_absent (absent : db.agents.get? a = none) : db.sessionActive a = true := by
  rw [Db.sessionActive, absent]
  rfl

theorem sessionActive_of_apart (h : db'.apart c = db.apart c) (other : a ≠ c) :
    db'.sessionActive a = db.sessionActive a :=
  let steady := Steady.of_apart h other
  sessionActive_of_origin steady.origin steady.sessions

theorem sessionActive_of_new (found : db'.agents.get? a = some row)
    (session : row.sessionId = s) (sessions : db'.sessions = db.sessions)
    (active : sessionIsActive db s = true) : db'.sessionActive a = true := by
  rw [Db.sessionActive, found, Option.all_some, session, sessionIsActive, sessions]
  exact active

theorem sessionActive_insertAgentSync (active : db.sessionActive a = true)
    (ready : sessionIsActive db s = true) :
    (insertAgentSync db a s p state pid now).2.sessionActive a = true := by
  have sessions : (insertAgentSync db a s p state pid now).2.sessions = db.sessions :=
    congrArg Prod.fst (Db.apart_insertAgentSync db a s p state pid now)
  rcases insertAgentSync_cases db a s p state pid now with same | ⟨db₁, deleted, freed | new⟩
  · rwa [same]
  · rw [freed]
    exact sessionActive_of_absent (Db.absent_of_deleteAgent deleted)
  · obtain ⟨row, found, -, session, -⟩ := new.row
    exact sessionActive_of_new found session sessions ready

theorem sessionActive_replaceKilledAgent {s hash : String} (ready : sessionIsActive db s = true)
    (h : replaceKilledAgentAndRequeueJobSync db s spec hash pid intent now = .ok (n, db')) :
    db'.sessionActive spec.agentId = true := by
  have sessions : db'.sessions = db.sessions := congrArg Prod.fst (Db.apart_replaceKilledAgent h)
  obtain ⟨db₁, db₂, -, -, new, requeued⟩ := replaceKilledAgentAndRequeueJobSync_ok h
  obtain ⟨row, found, -, session, -⟩ := new.row
  have agents : db'.agents = db₂.agents :=
    congrArg Prod.fst (requeueCapturedIntent_agentTables requeued)
  exact sessionActive_of_new (agents ▸ found) session sessions ready

theorem sessionActive_restoreKilledWorker
    (active : db.sessionActive stored.spec.agentId = true) (ready : sessionIsActive db s = true) :
    (restoreKilledWorkerSpawnSpec db s stored now).2.sessionActive stored.spec.agentId = true := by
  obtain ⟨db₁, row, spec⟩ := Db.restoreKilledWorker_cases db s stored now
  have inserted : db₁.sessionActive stored.spec.agentId = true := by
    rcases row with rfl | ⟨absent, rfl⟩
    · exact active
    · obtain ⟨row, found, -, session, -⟩ :=
        (newRow_insertAgentRow absent s stored.spec.provider .killed none now).row
      exact sessionActive_of_new found session rfl ready
  rcases spec with same | persisted
  · rwa [same]
  · obtain ⟨specs, same⟩ := persistAgentSpawnSpecSync_ok persisted
    rw [same]
    exact inserted

theorem sessionActive_writeSession
    (kept : session.status = "ACTIVE" ∨ (db.agents.get? a).all (·.sessionId ≠ s) = true)
    (active : db.sessionActive a = true) :
    ((DaemonOp.writeSession s session).apply db).sessionActive a = true := by
  unfold Db.sessionActive at active ⊢
  simp only [DaemonOp.apply]
  cases found : db.agents.get? a with
  | none => rfl
  | some row =>
    simp only [found, Option.all_some, sessionIsActive, Table.get?_upsert,
      decide_eq_true_eq] at active kept ⊢
    split_ifs with own
    · exact decide_eq_true (kept.resolve_right fun other => other own)
    · exact active

end Kept

/-! ## A candidate that waits for its claim -/

open RecoveryWorld

section Waiting

variable {db : Db} {claim : RecoveryClaim} {stage : RecoveryStage}

theorem DaemonOp.sessionActive_apply (loop : op.ofRecovery = false)
    (at_ : stage.waiting? = some claim)
    (guards : RecoveryWorld.guards ⟨db, stage⟩ (.daemon op) = true)
    (active : db.sessionActive claim.agentId = true) :
    (op.apply db).sessionActive claim.agentId = true := by
  cases row : op.rowOf with
  | none =>
    rcases op.leaves loop row db claim.agentId with ⟨probe, now, rfl⟩ | ⟨leaves, sessions⟩
    · have crashes := (reconcileStartup_crashes probe now db claim.agentId).1
      rwa [sessionActive_of_origin crashes.origin crashes.sessions]
    cases writes : op.writesSessions with
    | false => rwa [sessionActive_of_origin leaves.origin (sessions writes)]
    | true =>
      cases op with
      | shutdown now =>
        have absent : db.agents.get? claim.agentId = none := by
          simpa [RecoveryWorld.guards, at_] using guards
        have origin := leaves.origin
        rw [absent] at origin
        exact sessionActive_of_absent (Option.map_eq_none_iff.mp origin)
      | writeSession s session =>
        exact sessionActive_writeSession (by simpa [RecoveryWorld.guards, at_] using guards) active
      | _ => cases writes
  | some c =>
    by_cases own : claim.agentId = c
    swap
    · rwa [sessionActive_of_apart (op.apart_apply row db) own]
    subst own
    cases op with
    | insertAgent a s =>
      cases row
      have ready : sessionIsActive db s = true := by simpa [RecoveryWorld.guards, at_] using guards
      exact sessionActive_insertAgentSync active ready
    | deleteAgent =>
      cases row
      exact commit_unit_induction active
        fun _ deleted => sessionActive_of_absent (Db.absent_of_deleteAgent deleted)
    | replaceKilledAgent s spec hash pid intent now =>
      have own : spec.agentId = claim.agentId := Option.some.inj row
      have ready : sessionIsActive db s = true := by simpa [RecoveryWorld.guards, at_, own] using guards
      refine commit_induction (P := fun d => d.sessionActive claim.agentId = true) active
        fun n d' h => ?_
      exact own ▸ sessionActive_replaceKilledAgent ready h
    | _ => cases row

end Waiting

namespace RecoveryWorld

/-- The session of a candidate that waits for its claim is ACTIVE. -/
def Waits (w : RecoveryWorld) : Prop :=
  ∀ claim, w.stage.waiting? = some claim → w.db.sessionActive claim.agentId = true

variable {w w' : RecoveryWorld} {act : RecoveryAct} {db db' : Db}

theorem waits_of_stage (none : w.stage.waiting? = none) : w.Waits :=
  fun _ stage => nomatch none.symm.trans stage

theorem waits_after {α : Type} {m : EStateM CcbdError Db α} {next : α → RecoveryStage}
    (none : ∀ a, (next a).waiting? = none) : (after m next db).Waits := by
  refine after_of_ends ((ends_const.mpr trivial).mono fun r db' _ => ?_)
  cases r with
  | ok a => exact waits_of_stage (none a)
  | error => exact waits_of_stage rfl

/-- An idle worker waits once the session of its intent has been found ACTIVE. -/
theorem waits_next {check next : CandidateCheck}
    (guards : guards ⟨db, .scanning tick check rest⟩ (.consider now) = true)
    (effect : CandidateEffect db c check (.next next) db') :
    Waits ⟨db', .scanning tick next candidates⟩ := by
  cases effect with | next atWork => ?_
  cases next with
  | spec claim =>
    intro claim' at_
    obtain ⟨idle, ⟨⟩⟩ := Option.ite_none_right_eq_some.mp at_
    rcases atWork claim rfl with revive | ⟨rfl, ready⟩
    · rw [idle] at revive
      cases revive
    simp only [RecoveryWorld.guards, Bool.or_eq_true] at guards
    rcases guards with active | same
    · exact active
    · refine Option.all_eq_true .. |>.mpr fun row found => ?_
      rw [found] at same
      exact of_decide_eq_true same ▸ ready
  | _ => exact waits_of_stage rfl

/-- The checks let a candidate through only if its session is ACTIVE. -/
theorem waits_passed {check : CandidateCheck}
    (waits : Waits ⟨db, .scanning tick check rest⟩)
    (guards : guards ⟨db, .scanning tick check rest⟩ (.consider now) = true)
    (effect : CandidateEffect db c check (.passed claim) db') :
    Waits ⟨db', .claiming tick claim version candidates⟩ := by
  intro claim' at_
  cases at_
  cases effect with | passed spec => ?_
  simp only [RecoveryWorld.guards, spec, Bool.or_eq_true, decide_eq_true_eq, Bool.false_eq_true,
    or_false] at guards
  rcases guards with idle | active
  · exact waits claim (if_pos idle)
  · exact active

theorem Step.waits (waits : w.Waits) (guards : w.guards act = true) (step : Step w act w') :
    w'.Waits := by
  obtain ⟨apart, rfl⟩ := step
  obtain ⟨db, stage⟩ := w
  -- an operation next to the loop leaves it where it is
  have beside {db' : Db} (active : ∀ claim, stage.waiting? = some claim →
      db.sessionActive claim.agentId = true → db'.sessionActive claim.agentId = true) :
      Waits ⟨db', stage⟩ := fun claim at_ => active claim at_ (waits claim at_)
  have steady {db' : Db} (h : ∀ a, Steady a db db') : Waits ⟨db', stage⟩ :=
    beside fun claim _ active => by
      rwa [sessionActive_of_origin (h claim.agentId).origin (h claim.agentId).sessions]
  cases act with
  | start now =>
    cases stage with
    | idle => exact waits_of_stage rfl
    | _ => exact waits
  | consider now =>
    cases stage with
    | confirmed => exact waits_of_stage rfl
    | scanning tick check candidates =>
      cases candidates with
      | nil => exact waits_of_stage rfl
      | cons head rest =>
        obtain ⟨c, listed⟩ := head
        refine after_of_ends (ends_atomic.mpr ?_)
        cases done : considerCandidate db c listed tick now check with
        | error => exact waits_of_stage rfl
        | ok r =>
          obtain ⟨outcome, db'⟩ := r
          have effect := considerCandidate_effect done
          cases outcome with
          | next => exact waits_next guards effect
          | skipped | reaped => exact waits_of_stage rfl
          | passed => exact waits_passed waits guards effect
    | _ => exact waits
  | proceed respawn now =>
    cases stage with
    | claiming tick claim version rest =>
      refine waits_of_stage ?_
      show RecoveryStage.waiting? (if _ then _ else _) = _
      split_ifs <;> rfl
    | claimed | deleting | respawning => exact waits_after fun _ => rfl
    | finishing x result steps rest =>
      cases steps with
      | nil => exact waits_of_stage rfl
      | cons => exact waits_after fun _ => rfl
    | _ => exact waits
  | restart => exact waits_of_stage rfl
  | daemon op =>
    have loop : op.ofRecovery = false := by simpa [RecoveryAct.apart] using apart
    exact beside fun claim at_ active => DaemonOp.sessionActive_apply loop at_ guards active
  | updateConfigHash c hash now => exact steady fun a => .updateAgentConfigHashSync a db c hash now
  | persistSpawnSpec =>
    refine beside fun claim at_ active => ?_
    refine commit_unit_induction (P := fun d => d.sessionActive claim.agentId = true) active
      fun d persisted => ?_
    obtain ⟨specs, rfl⟩ := persistAgentSpawnSpecSync_ok persisted
    exact active
  | clearBackoff c now =>
    refine beside fun claim at_ active => ?_
    by_cases own : claim.agentId = c
    · subst own
      rwa [sessionActive_of_origin (kept_clearRecoveryBackoffSync db claim.agentId now).origin rfl]
    · rwa [sessionActive_of_apart (Db.apart_clearRecoveryBackoffSync db c now) own]
  | restoreKilledWorker s stored now =>
    refine beside fun claim at_ active => ?_
    by_cases own : stored.spec.agentId = claim.agentId
    · have ready : sessionIsActive db s = true := by
        simpa [RecoveryWorld.guards, at_, own] using guards
      exact own ▸ sessionActive_restoreKilledWorker (own ▸ active) ready
    · rwa [sessionActive_of_apart (Db.apart_restoreKilledWorker db s stored now) (Ne.symm own)]
  | learnRule =>
    exact commit_unit_induction waits
      fun _ learned => steady fun _ => .of_tables (insertLearnedRuleSync_agentTables learned)

end RecoveryWorld

/-! ## Whole runs -/

theorem sessionActive_of_claimsOf
    (waits : w.Waits) (claims : claimsOf a ⟨w, act, w'⟩ = 1) : w.db.sessionActive a = true := by
  unfold claimsOf at claims
  split at claims
  · rename_i tick claim version rest stage
    split_ifs at claims with own
    exact own.1 ▸ waits claim (by rw [stage]; rfl)
  · cases claims

/-- Where the loop asks for the session of each candidate it may claim, and sessions do not
end before the claim, it brings back workers of ACTIVE sessions only. -/
theorem revivesOnlyActive_of_guards {db : Db} {w : RecoveryWorld}
    {ts : List (Transition RecoveryWorld RecoveryAct)}
    (run : Run Step ⟨db, .idle⟩ ts w)
    (guards : ∀ t ∈ ts, t.pre.guards t.act = true) : RevivesOnlyActive ts := by
  have active : ∀ t ∈ ts, ∀ a, claimsOf a t = 1 → t.pre.db.sessionActive a = true :=
    run.forall_transition (I := Waits) (fun _ _ _ waits guards step => step.waits waits guards)
      (fun _ _ _ waits _ _ a claims => sessionActive_of_claimsOf waits claims)
      (waits_of_stage rfl) guards
  intro a i j t u at_ _ _ claims _ _
  exact active t (List.mem_of_getElem? at_) a claims

namespace RecoveryAct

/-- The worker crashes at work. -/
def crashAtWork : List RecoveryAct :=
  spawnWorker ++ [.daemon (.db (.insertJob "j1" "a1" none "task" 1)),
    .daemon (.db (.dispatchQueuedJob "a1" 1)), crashWorker]

/-- The session is killed; the cascade passes over CRASHED agents. -/
def killSession : RecoveryAct := .daemon (.writeSession "s1"
  { projectId := "p1", absolutePath := "/p1", status := "KILLED", configHash := none })

end RecoveryAct

/-- A tick that finds the worker and takes four parts of its recovery: the claim, the
snapshot, the deletion and the respawn. -/
def respawnedAtWork (session : List RecoveryAct) : List (Transition RecoveryWorld RecoveryAct) :=
  trace apply ⟨Db.oneSession, .idle⟩ (RecoveryAct.crashAtWork ++ session ++ RecoveryAct.tick 10 4)

theorem revivesOnlyActive_respawnedAtWork :
    (∃ t ∈ respawnedAtWork [], respawnOf t = some "a1") ∧ RevivesOnlyActive (respawnedAtWork []) :=
  ⟨by decide +kernel, revivesOnlyActive_of_guards (run_of_list _ _ (by decide +kernel))
    (by decide +kernel)⟩

theorem not_revivesOnlyActive_killSession :
    ∃ w, Run Step ⟨Db.oneSession, .idle⟩ (respawnedAtWork [.killSession]) w ∧
      ¬RevivesOnlyActive (respawnedAtWork [.killSession]) := by
  refine ⟨_, run_of_list _ _ (by decide +kernel), fun only => ?_⟩
  have between : ∀ k < 16, 13 < k → ((respawnedAtWork [.killSession])[k]?).all
      (claimsOf "a1" · = 0) = true := by decide +kernel
  have claim : ((respawnedAtWork [.killSession])[13]?).any
      (fun t => claimsOf "a1" t = 1 && !t.pre.db.sessionActive "a1") = true := by decide +kernel
  have respawn : ((respawnedAtWork [.killSession])[16]?).any (respawnOf · = some "a1") = true := by
    decide +kernel
  obtain ⟨t, at_, claims⟩ := (Option.any_eq_true ..).mp claim
  obtain ⟨u, at_', respawns⟩ := (Option.any_eq_true ..).mp respawn
  simp only [Bool.and_eq_true, decide_eq_true_eq, Bool.not_eq_true'] at claims respawns
  have active := only "a1" 13 16 t u at_ at_' (by decide) claims.1 respawns fun k v lo hi found => by
    simpa [found] using between k hi lo
  rw [claims.2] at active
  cases active

end Ccbd
