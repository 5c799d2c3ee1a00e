import Ccbd.Orchestrator.RecoveryFrame

/-!
# The parts of a tick

What the checks of a candidate and its claim can do, and what each part of an attempt after
the respawn leaves of its agent. A part fails only if the row is gone, but for the requeue of
the interrupted job.
-/

namespace Ccbd

open Lib

theorem RecoveryWorld.after_of_ends {α : Type} {m : EStateM CcbdError Db α}
    {next : α → RecoveryStage} {db : Db} {P : RecoveryWorld → Prop} (h : Ends m db fun r db' =>
      match r with
      | .ok a => P ⟨db', next a⟩
      | .error _ => P ⟨db', .idle⟩) : P (after m next db) := by
  unfold Ends at h
  unfold after
  cases hm : m db <;> rw [hm] at h <;> exact h

/-! ## Candidates -/

/-- What a check of the candidate `c` can do. -/
inductive CandidateEffect (db : Db) (c : String) : CandidateCheck → CandidateOutcome → Db → Prop
  | next {check next : CandidateCheck} (atWork : ∀ claim, next = .spec claim →
      claim.intent.action = .revive ∨ check = .session claim ∧
        sessionIsActive db claim.intent.sessionId = true) : CandidateEffect db c check (.next next) db
  | skipped {check : CandidateCheck} {db' : Db} (tables : db'.agentTables = db.agentTables) :
      CandidateEffect db c check .skipped db'
  | reaped {check : CandidateCheck} {db' : Db} (deleted : deleteAgentSync db c = .ok db') :
      CandidateEffect db c check .reaped db'
  | passed {claim : RecoveryClaim}
      (spec : (queryAgentSpawnSpecSync db claim.agentId).isNone = false) :
      CandidateEffect db c (.spec claim) (.passed claim) db

theorem considerCandidate_effect
    (h : considerCandidate db c listed now sqlNow check = .ok (outcome, db')) :
    CandidateEffect db c check outcome db' := by
  cases check with
  | retry =>
    simp only [considerCandidate] at h
    split_ifs at h
    · cases h
      exact .skipped rfl
    · split at h
      · cases h
      · split_ifs at h <;> cases h
        · exact .skipped rfl
        · exact .next fun _ e => nomatch e
  | intent =>
    simp only [considerCandidate] at h
    split at h
    · cases h
      exact .next fun _ e => nomatch e
    · split at h <;> cases h
      · exact .next fun _ e => nomatch e
      · exact .next fun _ e => nomatch e
      · rename_i atWork
        refine .next fun claim e => .inl ?_
        cases e
        exact atWork
  | session claim =>
    simp only [considerCandidate] at h
    split_ifs at h with active <;> cases h
    · refine .next fun claim' e => .inr ?_
      cases e
      exact ⟨rfl, active⟩
    · exact .next fun _ e => nomatch e
  | spec claim =>
    simp only [considerCandidate] at h
    split_ifs at h with spec <;> cases h
    · exact .next fun _ e => nomatch e
    · exact .passed (Bool.eq_false_of_not_eq_true spec)
  | reap =>
    obtain ⟨db₁, deleted, same⟩ := map_eq_ok.mp h
    cases same
    exact .reaped deleted
  | emitted reason =>
    simp only [considerCandidate] at h
    split_ifs at h <;> cases h
    · exact .skipped rfl
    · exact .next fun _ e => nomatch e
  | emit reason =>
    obtain ⟨⟨n, db₁⟩, inserted, same⟩ := map_eq_ok.mp h
    cases same
    obtain ⟨events, rfl⟩ := insertEventSync_ok inserted
    exact .skipped rfl

theorem tryClaimAgentRecoverySync_cases (db : Db) (c : String) (version now sqlNow : Int) :
    (∃ row, db.agents.get? c = some row ∧ row.retryExhausted = false ∧
      (∀ at_, row.nextRetryAt = some at_ → at_ ≤ now) ∧
      tryClaimAgentRecoverySync db c version now sqlNow =
        (true, db.modifyAgent c (·.claim sqlNow))) ∨
      tryClaimAgentRecoverySync db c version now sqlNow = (false, db) := by
  unfold tryClaimAgentRecoverySync
  dsimp only
  split_ifs with claimable
  · obtain ⟨row, found, good⟩ := (Option.any_eq_true ..).mp claimable
    simp only [Bool.and_eq_true, decide_eq_true_eq, Bool.not_eq_true'] at good
    obtain ⟨⟨-, left⟩, due⟩ := good
    refine .inl ⟨row, found, left, fun at_ next => ?_, rfl⟩
    rw [next] at due
    simpa using due
  · exact .inr rfl

theorem Agent.calm_claim (now : Int) : Calm (·.claim now) :=
  ⟨fun _ => rfl, fun _ => id, fun _ => rfl⟩

/-! ## After the respawn -/

/-- The backoff columns of the row, if there is one. -/
def Db.backoffOf (db : Db) (a : String) : Option RecoveryBackoff :=
  (db.agents.get? a).map Agent.backoff

theorem setRecoveryBackoff_backoffOf (db : Db) (a : String) (b : RecoveryBackoff) :
    (setRecoveryBackoff db a b).backoffOf a = (db.backoffOf a).map fun _ => b := by
  simp [Db.backoffOf, setRecoveryBackoff, Function.comp_def, Agent.backoff]

theorem kept_setRecoveryBackoff (db : Db) (a : String) (b : RecoveryBackoff) :
    Kept a db (setRecoveryBackoff db a b) := by
  have row : (setRecoveryBackoff db a b).agents.get? a = (db.agents.get? a).map ({ · with
      retryCount := b.retryCount, nextRetryAt := b.nextRetryAt
      retryExhausted := b.retryExhausted }) := Table.get?_modify_self ..
  refine ⟨by rw [row, Option.map_map]; rfl, ?_, rfl, rfl⟩
  rw [Db.stateOf, Db.stateOf, row, Option.map_map]
  exact id

theorem kept_writeBackoff (db : Db) (a : String) (b : RecoveryBackoff) (now : Int) :
    let db' := (setRecoveryBackoff db a b).modifyAgent a ({ · with updatedAt := now })
    Kept a db db' ∧ db'.backoffOf a = (db.backoffOf a).map fun _ => b := by
  have touched : Agent.Calm ({ · with updatedAt := now } : Agent → Agent) :=
    ⟨fun _ => rfl, fun _ => id, fun _ => rfl⟩
  have later := Steady.modifyAgent touched a a (setRecoveryBackoff db a b)
  have first := kept_setRecoveryBackoff db a b
  exact ⟨⟨later.origin.trans first.origin, first.crashed ∘ later.crashed,
    later.spec.trans first.spec, later.intent.trans first.intent⟩,
    later.backoff.trans (setRecoveryBackoff_backoffOf ..)⟩

theorem kept_clearRecoveryBackoffSync (db : Db) (a : String) (now : Int) :
    Kept a db (clearRecoveryBackoffSync db a now) :=
  (kept_writeBackoff db a ⟨0, none, false⟩ now).1

theorem apart_restoreCrashedRow (a : String) (agent : Agent) (hash : String) (now : Int) (db : Db) :
    (restoreCrashedRow a agent hash now db).2.apart a = db.apart a := by
  have inserted := Db.apart_insertAgentSync db a agent.sessionId agent.provider .crashed none now
  unfold restoreCrashedRow
  split_ifs
  · split
    · rename_i failed
      rwa [failed] at inserted
    · rename_i done
      rw [done] at inserted
      exact (Db.apart_modifyAgent ..).trans inserted
  · rfl

theorem restoreCrashedRow_error (a : String) (agent : Agent) (hash : String) (now : Int) (db : Db)
    (failed : (restoreCrashedRow a agent hash now db).1.isOk = false) :
    (restoreCrashedRow a agent hash now db).2.agents.get? a = none := by
  unfold restoreCrashedRow at failed ⊢
  split_ifs at failed ⊢ with absent
  · have absent := Option.isNone_iff_eq_none.mp absent
    rcases insertAgentSync_of_absent absent agent.sessionId agent.provider .crashed none now
      with ⟨e, refused⟩ | done
    · rw [refused]
      exact absent
    · rw [done] at failed
      cases failed
  · cases failed

theorem persistAgentRecoveryIntentSync_error
    (h : persistAgentRecoveryIntentSync db intent now = .error e) :
    db.agents.get? intent.agentId = none := by
  unfold persistAgentRecoveryIntentSync at h
  split_ifs at h with absent
  simpa using absent

theorem persistAgentSpawnSpecSync_error {hash : String}
    (h : persistAgentSpawnSpecSync db spec hash now = .error e) :
    db.agents.get? spec.agentId = none := by
  unfold persistAgentSpawnSpecSync at h
  split_ifs at h with absent
  simpa using absent

theorem apart_persistAgentRecoveryIntentSync
    (h : persistAgentRecoveryIntentSync db intent now = .ok db') :
    db'.apart intent.agentId = db.apart intent.agentId := by
  have stored := persistAgentRecoveryIntentSync_stores h
  exact Db.apart_eq stored.sessions (fun b _ => by rw [stored.agents])
    (fun b _ => by rw [stored.specs]) stored.others

theorem recordRecoveryFailureBackoffSync_cases (db : Db) (a : String) (now : Int) :
    (db.agents.get? a = none ∧ ∃ e, recordRecoveryFailureBackoffSync db a now = .error e) ∨
      ∃ b db', recordRecoveryFailureBackoffSync db a now = .ok (b, db') ∧
        db'.apart a = db.apart a ∧ Kept a db db' ∧
        db'.backoffOf a = (db.backoffOf a).map (nextRecoveryBackoff ·.retryCount now) := by
  unfold recordRecoveryFailureBackoffSync
  cases found : db.agents.get? a with
  | none => exact .inl ⟨rfl, _, rfl⟩
  | some agent =>
    obtain ⟨kept, counted⟩ := kept_writeBackoff db a (nextRecoveryBackoff agent.retryCount now) now
    refine .inr ⟨_, _, rfl, (Db.apart_modifyAgent ..).trans (Db.apart_modifyAgent ..), kept, ?_⟩
    refine counted.trans ?_
    rw [Db.backoffOf, found]
    rfl

theorem ends_emitSelfRecoveryAttemptEvent (a action : String) (error : Option String)
    (context : Option CrashContext) (recovery : Option RecoveryIntentAction) (now : Int) (db : Db) :
    Ends (emitSelfRecoveryAttemptEvent a action error context recovery now) db fun r db' =>
      db'.agentTables = db.agentTables ∧ (r.isOk = false → db.agents.get? a = none) := by
  unfold emitSelfRecoveryAttemptEvent
  rw [ends_bind, ends_atomic, recoveryEventState]
  cases found : db.agents.get? a with
  | none => exact ⟨rfl, fun _ => rfl⟩
  | some agent =>
    refine ends_bind.mpr (ends_atomic.mpr ?_)
    have row : (db.agents.get? a).isSome := by simp [found]
    obtain ⟨⟨n, db'⟩, done⟩ := insertEventSync_succeeds "self_recovery_attempt"
      (selfRecoveryPayload a action agent error context recovery) now row
    obtain ⟨events, rfl⟩ := insertEventSync_ok done
    simp only [done]
    exact ⟨rfl, nofun⟩

namespace FinishStep

variable (x : RecoveryAttempt) (result : Except CcbdError Unit) (now : Int)

theorem keeps_requeueJob : Keeps Db.agentTables (requeueJob.run x result now) :=
  .bind (.atomic fun _ _ _ => requeueCapturedIntent_agentTables) fun _ => .pure _

theorem ends_emit (db : Db) : Ends (emit.run x result now) db fun r db' =>
    db'.agentTables = db.agentTables ∧ (r.isOk = false → db.agents.get? x.agentId = none) := by
  cases result <;> exact ends_emitSelfRecoveryAttemptEvent ..

theorem ends_countRetry (db : Db) : Ends (countRetry.run x result now) db fun r db' =>
    (r.isOk = false → db'.agents.get? x.agentId = none) ∧
      db'.apart x.agentId = db.apart x.agentId ∧ Kept x.agentId db db' ∧
      db'.backoffOf x.agentId =
        (db.backoffOf x.agentId).map (nextRecoveryBackoff ·.retryCount now) := by
  refine ends_bind.mpr (ends_atomic.mpr ?_)
  rcases recordRecoveryFailureBackoffSync_cases db x.agentId now with
    ⟨absent, e, failed⟩ | ⟨b, db', done, others, kept, counted⟩
  · rw [failed]
    exact ⟨fun _ => absent, rfl, (Steady.refl _ _).toKept, by rw [Db.backoffOf, absent]; rfl⟩
  · rw [done]
    exact ⟨nofun, others, kept, counted⟩

theorem ends_storeIntent (db : Db) : Ends (storeIntent.run x result now) db fun r db' =>
    (r.isOk = false → db'.agents.get? x.agentId = none) ∧
      db'.apart x.agentId = db.apart x.agentId ∧ db'.agents = db.agents ∧
      db'.Recoverable x.agentId := by
  refine ends_atomically.mpr ?_
  rw [← x.own]
  cases done : persistAgentRecoveryIntentSync db x.intent now with
  | error =>
    have absent := persistAgentRecoveryIntentSync_error done
    refine ⟨fun _ => absent, rfl, rfl, fun agent found => ?_⟩
    rw [absent] at found
    cases found
  | ok db' =>
    have stored := persistAgentRecoveryIntentSync_stores done
    exact ⟨nofun, apart_persistAgentRecoveryIntentSync done,
      stored.agents, Db.recoverable_of fun _ => stored.own⟩

theorem ends_renewSpec (db : Db) : Ends (renewSpec.run x result now) db fun r db' =>
    (r.isOk = false → db'.agents.get? x.agentId = none) ∧
      db'.apart x.agentId = db.apart x.agentId ∧ db'.agents = db.agents ∧
      (db.Recoverable x.agentId → db'.Recoverable x.agentId) := by
  refine ends_atomically.mpr ?_
  unfold renewAgentSpawnSpec
  cases read : queryAgentSpawnSpecSync db x.agentId with
  | none => exact ⟨nofun, rfl, rfl, id⟩
  | some stored =>
    have own : stored.spec.agentId = x.agentId := by
      obtain ⟨row, -, rfl⟩ := Option.map_eq_some_iff.mp read
      rfl
    dsimp only
    cases done : persistAgentSpawnSpecSync db stored.spec stored.configHash now with
    | error => exact ⟨fun _ => own ▸ persistAgentSpawnSpecSync_error done, rfl, rfl, id⟩
    | ok db' =>
      refine ⟨nofun, own ▸ Db.apart_persistAgentSpawnSpecSync done, ?_⟩
      obtain ⟨specs, rfl⟩ := persistAgentSpawnSpecSync_ok done
      refine ⟨rfl, fun recoverable agent found crashed eligible _ => ?_⟩
      exact recoverable agent found crashed eligible (by rw [read]; rfl)

/-- A part writes nothing of other agents. -/
theorem apart_run (step : FinishStep) : Keeps (Db.apart x.agentId) (step.run x result now) := by
  intro db
  cases step with
  | restoreRow => exact ends_ofStep.mpr (apart_restoreCrashedRow ..)
  | restoreSpec =>
    rw [← x.spec]
    exact keeps_atomically (fun _ _ => Db.apart_persistAgentSpawnSpecSync) db
  | restoreBackoff | enterCrashed => exact Db.apart_modifyAgent ..
  | storeIntent => exact (ends_storeIntent x result now db).mono fun _ _ h => h.2.1
  | requeueJob =>
    exact (keeps_requeueJob x result now db).mono fun _ _ => Db.apart_of_agentTables
  | renewSpec => exact (ends_renewSpec x result now db).mono fun _ _ h => h.2.1
  | countRetry => exact (ends_countRetry x result now db).mono fun _ _ h => h.2.1
  | emit => exact (ends_emit x result now db).mono fun _ _ h => Db.apart_of_agentTables h.1

/-- A part that fails finds no row, or it is the requeue. -/
theorem ends_run_error {step : FinishStep} (other : step ≠ .requeueJob) (db : Db) :
    Ends (step.run x result now) db fun r db' =>
      r.isOk = false → db'.agents.get? x.agentId = none := by
  cases step with
  | restoreRow => exact ends_ofStep.mpr fun failed => restoreCrashedRow_error _ _ _ _ _ failed
  | restoreSpec =>
    refine ends_atomically.mpr ?_
    split
    · exact nofun
    · rename_i failed
      exact fun _ => x.spec ▸ persistAgentSpawnSpecSync_error failed
  | restoreBackoff | enterCrashed => exact nofun
  | storeIntent => exact (ends_storeIntent x result now db).mono fun _ _ h => h.1
  | requeueJob => exact absurd rfl other
  | renewSpec => exact (ends_renewSpec x result now db).mono fun _ _ h => h.1
  | countRetry => exact (ends_countRetry x result now db).mono fun _ _ h => h.1
  | emit =>
    refine (ends_emit x result now db).mono fun r db' h failed => ?_
    have agents : db'.agents = db.agents := congrArg Prod.fst h.1
    rw [agents]
    exact h.2 failed

/-- What a part makes of the backoff of a row. -/
def onBackoff : FinishStep → RecoveryBackoff → RecoveryBackoff
  | restoreBackoff => fun _ => x.agent.backoff
  | countRetry => fun b => nextRecoveryBackoff b.retryCount now
  | _ => id

theorem ends_run_backoff {step : FinishStep} (other : step ≠ .restoreRow) (db : Db) :
    Ends (step.run x result now) db fun _ db' =>
      db'.backoffOf x.agentId = (db.backoffOf x.agentId).map (step.onBackoff x now) := by
  have same {db' : Db} (h : db'.agents = db.agents) :
      db'.backoffOf x.agentId = (db.backoffOf x.agentId).map id := by
    rw [Db.backoffOf, h, Option.map_id_fun]
    rfl
  cases step with
  | restoreRow => exact absurd rfl other
  | restoreSpec =>
    refine ends_atomically.mpr ?_
    split
    · rename_i done
      obtain ⟨specs, rfl⟩ := persistAgentSpawnSpecSync_ok done
      exact same rfl
    · exact same rfl
  | restoreBackoff => exact setRecoveryBackoff_backoffOf ..
  | storeIntent => exact (ends_storeIntent x result now db).mono fun _ _ h => same h.2.2.1
  | requeueJob =>
    exact (keeps_requeueJob x result now db).mono fun _ _ h => same (congrArg Prod.fst h)
  | enterCrashed =>
    have row : (db.modifyAgent x.agentId (·.enter .crashed now)).backoffOf x.agentId =
        (db.backoffOf x.agentId).map id := by
      rw [Db.backoffOf, Db.modifyAgent_agents, Table.get?_modify_self, Option.map_map,
        Option.map_id]
      rfl
    exact row
  | renewSpec => exact (ends_renewSpec x result now db).mono fun _ _ h => same h.2.2.1
  | countRetry => exact (ends_countRetry x result now db).mono fun _ _ h => h.2.2.2
  | emit => exact (ends_emit x result now db).mono fun _ _ h => same (congrArg Prod.fst h.1)

end FinishStep

end Ccbd
