import Ccbd.Db.Schema
import Ccbd.Outbox.Record

/-!
# The consume boundary

`consume_record` enters the `event_id` of a record into the ledger and applies the effect
of the record in the same transaction. An `event_id` that is in the ledger already is
dropped. Besides the tables, SQLite may reject a transaction for reasons of its own; such
an error comes as the argument `fault`.
-/

namespace Ccbd.Outbox

open Lib

structure DeclarationRow where
  jobId : String
  kind : OutboxKind
  attemptCookie : Option String
  replyText : Option String
  reason : Option String
deriving DecidableEq, Repr

structure ApplyFailure where
  attempts : Int
  lastError : String
  updatedAt : Int
deriving DecidableEq, Repr

/-- The daemon's tables and those of the outbox. -/
structure OutboxTables where
  db : Db
  consumed : Table String OutboxKind := .empty
  declarations : Table String DeclarationRow := .empty
  applyFailures : Table String ApplyFailure := .empty

inductive ConsumeOutcome where
  | firstSeen
  | duplicate
deriving DecidableEq, Repr

inductive ConsumeError where
  | db (err : String)
  | malformed (reason : String)
deriving DecidableEq, Repr

def hookEventPayload (r : OutboxRecord) : Json :=
  .obj [("attempt_cookie", .ofOptStr r.attemptCookie), ("event_id", .str r.eventId),
    ("hook_event", .ofOptStr r.event), ("provider", .ofOptStr r.provider),
    ("schema_version", .num 1), ("source", .str "outbox")]

def applyHookEvent (t : OutboxTables) (r : OutboxRecord) (now : Int) :
    Except ConsumeError OutboxTables :=
  if (t.db.agents.get? r.agentId).isNone then .error (.db "FOREIGN KEY constraint failed")
  else .ok { t with db := t.db.appendEvent r.agentId "hook_event" (hookEventPayload r) now }

def applyJobDeclarationStub (t : OutboxTables) (r : OutboxRecord) :
    Except ConsumeError OutboxTables :=
  match r.jobId with
  | none => .error (.malformed "job declaration missing job_id")
  | some jobId =>
    if (t.declarations.get? r.eventId).isSome then
      .error (.db "UNIQUE constraint failed: outbox_job_declaration_stub.event_id")
    else .ok { t with
      declarations := t.declarations.insert r.eventId
        { jobId := jobId, kind := r.kind, attemptCookie := r.attemptCookie
          replyText := r.replyText, reason := r.reason } }

def applyEffect (t : OutboxTables) (r : OutboxRecord) (now : Int) :
    Except ConsumeError OutboxTables :=
  match r.kind with
  | .hookEvent => applyHookEvent t r now
  | .jobDone | .jobFail => applyJobDeclarationStub t r
  | .selfcheck => .ok t

/-- A job declaration that names no job. -/
def OutboxRecord.isMalformed (r : OutboxRecord) : Bool :=
  (r.kind = .jobDone || r.kind = .jobFail) && r.jobId.isNone

/-- The transaction is open from the ledger on; its errors leave nothing. -/
def consumeRecord (fault : Option String) (t : OutboxTables) (r : OutboxRecord) (now : Int) :
    Except ConsumeError (ConsumeOutcome × OutboxTables) :=
  if r.isMalformed then
    .error (.malformed (r.kind.asStr ++ " record " ++ r.eventId ++ " has no job_id"))
  else match fault with
  | some err => .error (.db err)
  | none =>
    if (t.consumed.get? r.eventId).isSome then .ok (.duplicate, t)
    else do
      let t := { t with consumed := t.consumed.insert r.eventId r.kind }
      let t ← applyEffect t r now
      return (.firstSeen, t)

/-- The rows that the effects of `eventId` have left. -/
def OutboxTables.effectRows (t : OutboxTables) (eventId : String) : Nat :=
  (t.db.events.rows.countP fun row =>
    row.2.eventType = "hook_event" && row.2.payload.strField? "event_id" = some eventId) +
    (t.declarations.get? eventId).isSome.toNat

/-! ## What it does -/

/-- The effect of a record is one row, unless it is a self-check. -/
def OutboxRecord.rowsFor (r : OutboxRecord) (eventId : String) : Nat :=
  if r.kind ≠ .selfcheck ∧ r.eventId = eventId then 1 else 0

variable {r : OutboxRecord} {t t' : OutboxTables}

theorem applyEffect_ok (h : applyEffect t r now = .ok t') :
    (r.kind = .selfcheck ∧ t' = t) ∨
      (r.kind = .hookEvent ∧
        t' = { t with db := t.db.appendEvent r.agentId "hook_event" (hookEventPayload r) now }) ∨
      (r.kind ≠ .selfcheck ∧ ∃ row, t.declarations.get? r.eventId = none ∧
        t' = { t with declarations := t.declarations.insert r.eventId row }) := by
  unfold applyEffect applyHookEvent applyJobDeclarationStub at h
  split at h
  case h_1 kind =>
    split_ifs at h
    cases h
    exact .inr (.inl ⟨kind, rfl⟩)
  case h_4 kind =>
    cases h
    exact .inl ⟨kind, rfl⟩
  all_goals
    rename_i kind
    split at h
    · cases h
    · split_ifs at h with free
      cases h
      exact .inr (.inr ⟨by simp [kind], _, by simpa using free, rfl⟩)

theorem strField?_hookEventPayload (r : OutboxRecord) :
    (hookEventPayload r).strField? "event_id" = some r.eventId := by
  simp [hookEventPayload, Json.strField?, Json.get?, Json.asStr?, List.lookup_cons]

theorem applyEffect_effectRows (h : applyEffect t r now = .ok t') (e : String) :
    t'.effectRows e = t.effectRows e + r.rowsFor e := by
  rcases applyEffect_ok h with ⟨kind, rfl⟩ | ⟨kind, rfl⟩ | ⟨kind, row, absent, rfl⟩
  · simp [OutboxRecord.rowsFor, kind]
  · by_cases same : r.eventId = e <;> simp [OutboxTables.effectRows, OutboxRecord.rowsFor, kind,
      Db.appendEvent, AutoTable.append, strField?_hookEventPayload, same]
    omega
  · simp only [OutboxTables.effectRows, Table.get?_insert absent]
    by_cases same : r.eventId = e
    · subst same
      simp [OutboxRecord.rowsFor, absent, kind]
    · simp [OutboxRecord.rowsFor, same, Ne.symm same]

/-- What a first-seen record changes. -/
structure Applied (t : OutboxTables) (r : OutboxRecord) (t' : OutboxTables) : Prop where
  fresh : t.consumed.get? r.eventId = none
  consumed : t'.consumed = t.consumed.insert r.eventId r.kind
  applyFailures : t'.applyFailures = t.applyFailures
  effectRows : ∀ e, t'.effectRows e = t.effectRows e + r.rowsFor e

theorem applyEffect_frame (h : applyEffect t r now = .ok t') :
    t'.consumed = t.consumed ∧ t'.applyFailures = t.applyFailures := by
  rcases applyEffect_ok h with ⟨-, rfl⟩ | ⟨-, rfl⟩ | ⟨-, row, -, rfl⟩ <;> exact ⟨rfl, rfl⟩

theorem consumeRecord_cases (h : consumeRecord fault t r now = .ok (outcome, t')) :
    (t' = t ∧ (t.consumed.get? r.eventId).isSome) ∨ t.consumed.get? r.eventId = none ∧
      applyEffect { t with consumed := t.consumed.insert r.eventId r.kind } r now = .ok t' := by
  unfold consumeRecord at h
  split at h
  · cases h
  split at h
  · cases h
  split at h
  · rename_i seen
    cases h
    exact .inl ⟨rfl, seen⟩
  · rename_i fresh
    obtain ⟨t₁, applied, h⟩ := bind_eq_ok.mp h
    cases h
    exact .inr ⟨by simpa using fresh, applied⟩

theorem consumeRecord_ok (h : consumeRecord fault t r now = .ok (outcome, t')) :
    (t' = t ∧ (t.consumed.get? r.eventId).isSome) ∨ Applied t r t' := by
  rcases consumeRecord_cases h with seen | ⟨fresh, applied⟩
  · exact .inl seen
  · obtain ⟨consumed, failures⟩ := applyEffect_frame applied
    have rows := applyEffect_effectRows applied
    exact .inr ⟨fresh, consumed, failures, rows⟩

theorem Applied.isSome (h : Applied t r t') : (t'.consumed.get? r.eventId).isSome := by
  rw [h.consumed, Table.get?_insert h.fresh, if_pos rfl]
  rfl

theorem Applied.get?_of_ne (h : Applied t r t') (other : e ≠ r.eventId) :
    t'.consumed.get? e = t.consumed.get? e := by
  rw [h.consumed, Table.get?_insert h.fresh, if_neg other]

end Ccbd.Outbox
