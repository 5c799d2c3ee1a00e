import Ccbd.Outbox.Scan
import Mathlib.Data.String.Basic

/-!
# What a pass guarantees

The report of a pass accounts for every file it scanned, and the ledger grows in the order
of the ids. What becomes of a record is told by the tables alone, as far as they are about
its `event_id`; so records of other ids do not matter to it. The counter of rejections is
kept under the `event_id` too, and there a second file with the same id does matter: each
of them is counted.
-/

namespace Ccbd.Outbox

open Lib

/-! ## The order of the ledger -/

/-- The tables grew by the effects of the records with the given ids, in that order. -/
structure Appended (t t' : OutboxTables) (ids : List String) : Prop where
  ledger : ∃ new, t'.consumed.rows = t.consumed.rows ++ new ∧ new.map Prod.fst = ids
  events : ∃ new, t'.db.events.rows = t.db.events.rows ++ new ∧
    (new.map (·.2.payload.strField? "event_id")).Sublist (ids.map some)
  declared : ∃ new, t'.declarations.rows = t.declarations.rows ++ new ∧
    (new.map Prod.fst).Sublist ids

theorem Appended.of_counters (t : OutboxTables) (f : Table String ApplyFailure) :
    Appended t { t with applyFailures := f } [] :=
  ⟨⟨[], by simp, rfl⟩, ⟨[], by simp, List.Sublist.refl _⟩, ⟨[], by simp, List.Sublist.refl _⟩⟩

theorem Appended.refl (t : OutboxTables) : Appended t t [] := .of_counters t t.applyFailures

theorem Appended.trans
    (h : Appended t₁ t₂ ids) (h' : Appended t₂ t₃ ids') : Appended t₁ t₃ (ids ++ ids') := by
  obtain ⟨l₁, ledger₁, keys₁⟩ := h.ledger
  obtain ⟨l₂, ledger₂, keys₂⟩ := h'.ledger
  obtain ⟨v₁, events₁, sub₁⟩ := h.events
  obtain ⟨v₂, events₂, sub₂⟩ := h'.events
  obtain ⟨d₁, declared₁, subd₁⟩ := h.declared
  obtain ⟨d₂, declared₂, subd₂⟩ := h'.declared
  refine ⟨⟨l₁ ++ l₂, ?_, ?_⟩, ⟨v₁ ++ v₂, ?_, ?_⟩, ⟨d₁ ++ d₂, ?_, ?_⟩⟩
  · rw [ledger₂, ledger₁, List.append_assoc]
  · rw [List.map_append, keys₁, keys₂]
  · rw [events₂, events₁, List.append_assoc]
  · simpa only [List.map_append] using sub₁.append sub₂
  · rw [declared₂, declared₁, List.append_assoc]
  · simpa only [List.map_append] using subd₁.append subd₂

variable {now : Int} {o : OutboxDir} {r : OutboxRecord}
    {t t' : OutboxTables} {env : ScanEnv} {e name : String}

theorem applyEffect_appended (h : applyEffect t r now = .ok t') :
    t'.consumed = t.consumed ∧
      (∃ new, t'.db.events.rows = t.db.events.rows ++ new ∧
        (new.map (·.2.payload.strField? "event_id")).Sublist [some r.eventId]) ∧
      ∃ new, t'.declarations.rows = t.declarations.rows ++ new ∧
        (new.map Prod.fst).Sublist [r.eventId] := by
  refine ⟨(applyEffect_frame h).1, ?_⟩
  rcases applyEffect_ok h with ⟨-, rfl⟩ | ⟨-, rfl⟩ | ⟨-, row, absent, rfl⟩
  · exact ⟨⟨[], by simp, by simp⟩, [], by simp, by simp⟩
  · exact ⟨⟨_, rfl, by simp [strField?_hookEventPayload]⟩, [], by simp, by simp⟩
  · exact ⟨⟨[], by simp, by simp⟩, _, Table.rows_insert absent _, by simp⟩

theorem consumeRecord_appended (h : consumeRecord fault t r now = .ok (outcome, t')) :
    ∃ ids, Appended t t' ids ∧ ids.Sublist [r.eventId] := by
  rcases consumeRecord_cases h with ⟨rfl, -⟩ | ⟨absent, applied⟩
  · exact ⟨[], Appended.refl t', by simp⟩
  · obtain ⟨consumed, events, declared⟩ := applyEffect_appended applied
    refine ⟨[r.eventId], ⟨⟨[(r.eventId, r.kind)], ?_, rfl⟩, events, declared⟩, List.Sublist.refl _⟩
    rw [consumed]
    exact Table.rows_insert absent _

def OutboxTables.withFailures (t : OutboxTables) (f : Table String ApplyFailure) : OutboxTables :=
  { t with applyFailures := f }

theorem clearApplyFailure_eq (env : ScanEnv) (t : OutboxTables) (r : OutboxRecord) :
    ∃ f, clearApplyFailure env t r = t.withFailures f ∧
      ∀ e, e ≠ r.eventId → f.get? e = t.applyFailures.get? e := by
  unfold clearApplyFailure
  split
  · exact ⟨t.applyFailures, rfl, fun _ _ => rfl⟩
  · exact ⟨_, rfl, fun e other => by simp [Table.get?_delete, other]⟩

theorem bumpApplyFailure_eq (env : ScanEnv) (t : OutboxTables) (r : OutboxRecord) (err : String) :
    ∃ f, (bumpApplyFailure env t r err).2 = t.withFailures f ∧
      ∀ e, e ≠ r.eventId → f.get? e = t.applyFailures.get? e := by
  unfold bumpApplyFailure
  split
  · exact ⟨t.applyFailures, rfl, fun _ _ => rfl⟩
  · exact ⟨_, rfl, fun e other => by simp [Table.get?_upsert, other]⟩

theorem judge_snd (env : ScanEnv) (t : OutboxTables) (r : OutboxRecord) :
    ∃ t₁ f, (t₁ = t ∨ ∃ outcome, consumeRecord (env.fault r) t r env.now = .ok (outcome, t₁)) ∧
      (judge env t r).2 = t₁.withFailures f ∧
      ∀ e, e ≠ r.eventId → f.get? e = t₁.applyFailures.get? e := by
  unfold judge
  cases consumeRecord (env.fault r) t r env.now with
  | ok x =>
    obtain ⟨outcome, t₁⟩ := x
    obtain ⟨f, cleared, same⟩ := clearApplyFailure_eq env t₁ r
    refine ⟨t₁, f, .inr ⟨outcome, rfl⟩, ?_, same⟩
    cases outcome <;> exact cleared
  | error err =>
    cases err with
    | malformed reason => exact ⟨t, t.applyFailures, .inl rfl, rfl, fun _ _ => rfl⟩
    | db err =>
      obtain ⟨f, bumped, same⟩ := bumpApplyFailure_eq env t r err
      obtain ⟨f', cleared, same'⟩ := clearApplyFailure_eq env (bumpApplyFailure env t r err).2 r
      rw [bumped] at cleared same'
      dsimp only
      split
      · rw [bumped]
        exact ⟨t, f', .inl rfl, cleared, fun e other => (same' e other).trans (same e other)⟩
      · exact ⟨t, f, .inl rfl, bumped, same⟩

theorem judge_appended (env : ScanEnv) (t : OutboxTables) (r : OutboxRecord) :
    ∃ ids, Appended t (judge env t r).2 ids ∧ ids.Sublist [r.eventId] := by
  obtain ⟨t₁, f, rfl | ⟨outcome, consumed⟩, after, -⟩ := judge_snd env t r
  · rw [after]
    exact ⟨[], .of_counters t₁ f, by simp⟩
  · obtain ⟨ids, added, sub⟩ := consumeRecord_appended consumed
    rw [after]
    exact ⟨_, added.trans (.of_counters t₁ f), by simpa using sub⟩

theorem judgeAll_appended (env : ScanEnv) (queue : List (String × OutboxRecord))
    (t : OutboxTables) :
    ∃ ids, Appended t (judgeAll env t queue) ids ∧ ids.Sublist (queue.map (·.2.eventId)) := by
  induction queue generalizing t with
  | nil => exact ⟨[], Appended.refl t, List.Sublist.refl _⟩
  | cons x queue ih =>
    obtain ⟨ids, added, sub⟩ := judge_appended env t x.2
    obtain ⟨ids', added', sub'⟩ := ih (judge env t x.2).2
    exact ⟨ids ++ ids', added.trans added', sub.append sub'⟩

instance : Std.Total byEventId := ⟨fun x y => le_total x.2.eventId y.2.eventId⟩

instance : IsTrans (String × OutboxRecord) byEventId :=
  ⟨fun x y _ (h : x.2.eventId ≤ y.2.eventId) h' => h.trans h'⟩

theorem coldScanDir_ordered (env : ScanEnv) (o : OutboxDir) :
    ∃ ids, Appended o.tables (coldScanDir env o).2.tables ids ∧ ids.Pairwise (· < ·) := by
  obtain ⟨ids, added, sub⟩ := judgeAll_appended env (replayQueue o) o.tables
  have whole : Appended o.tables (coldScanDir env o).2.tables ids := by
    rw [coldScanDir_eq]
    exact added
  refine ⟨ids, whole, ?_⟩
  have sorted : ids.Pairwise (· ≤ ·) := by
    refine List.Pairwise.sublist sub ?_
    rw [List.pairwise_map]
    exact List.pairwise_insertionSort byEventId _
  have distinct : ids.Nodup := by
    obtain ⟨new, ledger, keys⟩ := whole.ledger
    have unique := (coldScanDir env o).2.tables.consumed.nodup
    rw [ledger, List.map_append, keys] at unique
    exact (List.nodup_append.mp unique).2.1
  exact (sorted.and distinct).imp fun h => lt_of_le_of_ne h.1 h.2

/-! ## What the tables say of an id -/

/-- What a pass can see of an id, besides the agents. -/
structure IdView where
  agents : Table String Agent
  consumed : Option OutboxKind
  declared : Option DeclarationRow
  failure : Option ApplyFailure

def OutboxTables.view (t : OutboxTables) (e : String) : IdView where
  agents := t.db.agents
  consumed := t.consumed.get? e
  declared := t.declarations.get? e
  failure := t.applyFailures.get? e

open OutboxTables

theorem applyEffect_view (h : applyEffect t r now = .ok t') (other : e ≠ r.eventId) :
    t'.view e = t.view e := by
  rcases applyEffect_ok h with ⟨-, rfl⟩ | ⟨-, rfl⟩ | ⟨-, row, absent, rfl⟩
  · rfl
  · rfl
  · simp [view, Table.get?_insert absent, other]

theorem consumeRecord_view (h : consumeRecord fault t r now = .ok (outcome, t'))
    (other : e ≠ r.eventId) : t'.view e = t.view e := by
  rcases consumeRecord_cases h with ⟨rfl, -⟩ | ⟨absent, applied⟩
  · rfl
  · rw [applyEffect_view applied other]
    simp [view, Table.get?_insert absent, other]

/-- The transaction of a record reads nothing but what its id sees. -/
theorem consumeRecord_error_congr (same : t'.view r.eventId = t.view r.eventId)
    (h : consumeRecord fault t r now = .error err) : consumeRecord fault t' r now = .error err := by
  simp only [view, IdView.mk.injEq] at same
  obtain ⟨agents, consumed, declared, -⟩ := same
  revert h
  unfold consumeRecord applyEffect applyHookEvent applyJobDeclarationStub
  simp only [agents, consumed, declared]
  cases fault <;> cases r.kind <;> cases r.jobId <;> dsimp only <;> split_ifs <;> intro h <;>
    first | exact h | cases h

theorem judge_malformed (env : ScanEnv) (t : OutboxTables) (h : r.isMalformed = true) :
    judge env t r = (.quarantined, t) := by
  simp [judge, consumeRecord, h]

/-- The record cannot touch what the id sees. -/
def Apart (r : OutboxRecord) (e : String) : Prop := r.isMalformed = true ∨ r.eventId ≠ e

theorem judge_view (env : ScanEnv) (t : OutboxTables) (apart : Apart r e) :
    (judge env t r).2.view e = t.view e := by
  rcases apart with malformed | other
  · rw [judge_malformed env t malformed]
  obtain ⟨t₁, f, changed, after, same⟩ := judge_snd env t r
  have counted : (t₁.withFailures f).view e = t₁.view e := by
    simp [view, withFailures, same e other.symm]
  rw [after, counted]
  rcases changed with rfl | ⟨outcome, consumed⟩
  · rfl
  · exact consumeRecord_view consumed other.symm

theorem judgeAll_view (env : ScanEnv) (queue : List (String × OutboxRecord)) (t : OutboxTables)
    (apart : ∀ x ∈ queue, Apart x.2 e) : (judgeAll env t queue).view e = t.view e := by
  induction queue generalizing t with
  | nil => rfl
  | cons x queue ih =>
    rw [List.forall_mem_cons] at apart
    exact (ih _ apart.2).trans (judge_view env t apart.1)

/-! ## Rejected records -/

/-- The database turns the record down: the transaction is rolled back. -/
def Rejected (env : ScanEnv) (t : OutboxTables) (r : OutboxRecord) : Prop :=
  ∃ err, consumeRecord (env.fault r) t r env.now = .error (.db err)

theorem Rejected.congr (h : Rejected env t r) (same : t'.view r.eventId = t.view r.eventId) :
    Rejected env t' r := by
  obtain ⟨err, h⟩ := h
  exact ⟨err, consumeRecord_error_congr same h⟩

theorem Rejected.judge_eq (h : Rejected env t r) (written : env.writeFails r = false)
    (read : env.readFails r = false) :
    (judge env t r).1 =
        (if 3 ≤ t.attempts r.eventId + 1 then .quarantined else .retryDeferred) ∧
      (judge env t r).2.attempts r.eventId =
        if 3 ≤ t.attempts r.eventId + 1 then 0 else t.attempts r.eventId + 1 := by
  obtain ⟨err, h⟩ := h
  simp only [judge, h, bumpApplyFailure, written, read, maxApplyAttempts]
  have counted : ∀ f : ApplyFailure,
      ({ t with applyFailures := t.applyFailures.upsert r.eventId f }).attempts r.eventId
        = f.attempts := by
    simp [attempts, Table.get?_upsert]
  simp only [Bool.false_eq_true, if_false, counted]
  split_ifs
  · simp [clearApplyFailure, written, attempts, Table.get?_delete]
  · exact ⟨rfl, counted _⟩

/-! ## Where the files go -/

/-- The file of a name, in the directory and in `dead/`. -/
def OutboxDir.place (o : OutboxDir) (name : String) : Option FileContent × Option FileContent :=
  (o.files.get? name, o.dead.get? name)

def Disposition.move (p : Option FileContent × Option FileContent) :
    Disposition → Option FileContent × Option FileContent
  | .consumed | .duplicate => (none, p.2)
  | .quarantined => (none, p.1.or p.2)
  | .retryDeferred => p

theorem place_settleFile (o : OutboxDir) (n : String) (d : Disposition) (name : String) :
    (settleFile o n d).place name = if name = n then d.move (o.place name) else o.place name := by
  by_cases same : name = n
  · subst same
    cases d <;> simp [settleFile, reap, quarantine, OutboxDir.place, Disposition.move,
      Table.get?_delete]
    cases held : o.files.get? name <;> simp [held, Table.get?_delete, Table.get?_upsert]
  · cases d <;> simp [settleFile, reap, quarantine, OutboxDir.place, same, Table.get?_delete]
    cases o.files.get? n <;> simp [same, Table.get?_delete, Table.get?_upsert]

theorem place_settleFiles (o : OutboxDir) (name : String)
    (distinct : (results.map Prod.fst).Nodup) :
    (settleFiles o results).place name =
      (results.lookup name).elim (o.place name) (Disposition.move (o.place name)) := by
  induction results generalizing o with
  | nil => rfl
  | cons x results ih =>
    obtain ⟨n, d⟩ := x
    rw [List.map_cons, List.nodup_cons] at distinct
    show (settleFiles (settleFile o n d) results).place name = _
    rw [ih _ distinct.2, place_settleFile]
    by_cases same : name = n
    · subst same
      have absent : results.lookup name = none := Table.lookup_eq_none.mpr distinct.1
      simp [absent]
    · have other : (name == n) = false := by simpa using same
      simp [same, List.lookup_cons, other]

/-- What becomes of each file of a pass. -/
def fates (env : ScanEnv) (o : OutboxDir) : List (String × Disposition) :=
  (unparsableNames o.files.rows).map (·, .quarantined) ++ outcomes env o.tables (replayQueue o)

theorem coldScanDir_snd (env : ScanEnv) (o : OutboxDir) :
    (coldScanDir env o).2 =
      (settleFiles o (fates env o)).withTables (judgeAll env o.tables (replayQueue o)) := by
  rw [coldScanDir_eq, fates, settleFiles, settleFiles, List.foldl_append, List.foldl_map]
  rfl

theorem map_fst_outcomes (env : ScanEnv) (queue : List (String × OutboxRecord))
    (t : OutboxTables) : (outcomes env t queue).map Prod.fst = queue.map Prod.fst := by
  induction queue generalizing t with
  | nil => rfl
  | cons x queue ih => simp [outcomes, ih]

theorem mem_parsedRecords :
    x ∈ parsedRecords rows ↔ (x.1, .record x.2) ∈ rows ∧ isScannableJson x.1 = true := by
  unfold parsedRecords
  rw [List.mem_filterMap]
  constructor
  · rintro ⟨⟨name, content⟩, mem, h⟩
    cases content with
    | record r =>
      split_ifs at h with scannable
      cases h
      exact ⟨mem, scannable⟩
    | unparsable err => cases h
  · rintro ⟨mem, scannable⟩
    exact ⟨_, mem, by simp [scannable]⟩

theorem mem_unparsableNames :
    name ∈ unparsableNames rows ↔
      ∃ err, (name, .unparsable err) ∈ rows ∧ isScannableJson name = true := by
  unfold unparsableNames
  rw [List.mem_filterMap]
  constructor
  · rintro ⟨⟨n, content⟩, mem, h⟩
    cases content with
    | record r => cases h
    | unparsable err =>
      split_ifs at h with scannable
      cases h
      exact ⟨err, mem, scannable⟩
  · rintro ⟨err, mem, scannable⟩
    exact ⟨_, mem, by simp [scannable]⟩

section FilterMap

variable {α β : Type} {f : α → Option β} {key : α → String} {key' : β → String}

theorem map_filterMap_sublist (keeps : ∀ a b, f a = some b → key' b = key a) (rows : List α) :
    ((rows.filterMap f).map key').Sublist (rows.map key) := by
  induction rows with
  | nil => exact List.Sublist.refl _
  | cons a rows ih =>
    cases out : f a with
    | none => simpa [out] using ih.cons (key a)
    | some b => simpa [out, keeps a b out] using ih.cons_cons (key a)

theorem filterMap_filter_key (keeps : ∀ a b, f a = some b → key' b = key a) (p : String → Bool)
    (rows : List α) :
    (rows.filter fun a => p (key a)).filterMap f = (rows.filterMap f).filter fun b => p (key' b) := by
  induction rows with
  | nil => rfl
  | cons a rows ih =>
    cases out : f a with
    | none => by_cases kept : p (key a) <;> simp [out, kept, ih]
    | some b =>
      have same := keeps a b out
      by_cases kept : p (key a) <;> simp [out, same, kept, ih]

end FilterMap

theorem map_fst_parsedRecords (rows : List (String × FileContent)) :
    ((parsedRecords rows).map Prod.fst).Sublist (rows.map Prod.fst) := by
  refine map_filterMap_sublist (fun row x out => ?_) rows
  split at out <;> grind

theorem unparsableNames_sublist (rows : List (String × FileContent)) :
    (unparsableNames rows).Sublist (rows.map Prod.fst) := by
  rw [← List.map_id (unparsableNames rows)]
  refine map_filterMap_sublist (fun row x out => ?_) rows
  split at out <;> grind

theorem nodup_replayQueue (o : OutboxDir) : ((replayQueue o).map Prod.fst).Nodup := by
  have perm := (List.perm_insertionSort byEventId (parsedRecords o.files.rows)).map Prod.fst
  exact perm.nodup_iff.mpr (o.files.nodup.sublist (map_fst_parsedRecords _))

theorem nodup_fates (env : ScanEnv) (o : OutboxDir) : ((fates env o).map Prod.fst).Nodup := by
  rw [fates, List.map_append, map_fst_outcomes, List.map_map, List.nodup_append]
  refine ⟨?_, nodup_replayQueue o, ?_⟩
  · simpa [Function.comp_def] using o.files.nodup.sublist (unparsableNames_sublist _)
  · intro name bad name' good same
    subst same
    have bad : name ∈ unparsableNames o.files.rows := by simpa [Function.comp_def] using bad
    obtain ⟨err, unparsable, -⟩ := mem_unparsableNames.mp bad
    obtain ⟨⟨n, r⟩, queued, rfl⟩ := List.mem_map.mp good
    have parsed : (n, r) ∈ parsedRecords o.files.rows :=
      (List.mem_insertionSort byEventId).mp queued
    have held := Table.get?_eq_some_iff.mpr (mem_parsedRecords.mp parsed).1
    rw [Table.get?_eq_some_iff.mpr unparsable] at held
    cases held

/-- A file goes where its fate sends it, and no other file moves. -/
theorem place_coldScanDir (env : ScanEnv) (o : OutboxDir) (name : String) :
    (coldScanDir env o).2.place name =
      ((fates env o).lookup name).elim (o.place name) (Disposition.move (o.place name)) := by
  rw [coldScanDir_snd]
  exact place_settleFiles o name (nodup_fates env o)

/-! ## The retries -/

/-- The directory holds the record under a name that a pass looks at. -/
def OutboxDir.Holds (o : OutboxDir) (name : String) (r : OutboxRecord) : Prop :=
  o.files.get? name = some (.record r) ∧ isScannableJson name = true

theorem mem_replayQueue : x ∈ replayQueue o ↔ o.Holds x.1 x.2 := by
  rw [replayQueue, List.mem_insertionSort, mem_parsedRecords, OutboxDir.Holds,
    Table.get?_eq_some_iff]

/-- A rejected record has its `event_id` for itself among the records a pass asks the
database about, and its rejections are counted. -/
structure Unshared (env : ScanEnv) (o : OutboxDir) : Prop where
  alone : ∀ name r, o.Holds name r → Rejected env o.tables r →
    ∀ name' r', o.Holds name' r' → name' ≠ name → Apart r' r.eventId
  counted : ∀ name r, o.Holds name r → Rejected env o.tables r →
    env.writeFails r = false ∧ env.readFails r = false

theorem outcomes_append (env : ScanEnv) (queue queue' : List (String × OutboxRecord))
    (t : OutboxTables) :
    outcomes env t (queue ++ queue') =
      outcomes env t queue ++ outcomes env (judgeAll env t queue) queue' := by
  induction queue generalizing t with
  | nil => rfl
  | cons x queue ih => simp [outcomes, ih, judgeAll]

theorem OutboxTables.attempts_eq (h : t'.view e = t.view e) : t'.attempts e = t.attempts e := by
  simp only [view, IdView.mk.injEq] at h
  rw [attempts, h.2.2.2, ← attempts]

/-- A failing pass of a record: it is counted, and the third rejection moves the file. -/
theorem coldScanDir_rejected (unshared : Unshared env o) (held : o.Holds name r)
    (rejected : Rejected env o.tables r) :
    (coldScanDir env o).2.place name =
        (if 3 ≤ o.tables.attempts r.eventId + 1 then (none, some (.record r)) else o.place name) ∧
      (coldScanDir env o).2.tables.attempts r.eventId =
        if 3 ≤ o.tables.attempts r.eventId + 1 then 0 else o.tables.attempts r.eventId + 1 := by
  have member : (name, r) ∈ replayQueue o := mem_replayQueue.mpr held
  obtain ⟨before, after, queue⟩ := List.append_of_mem member
  have distinct := nodup_replayQueue o
  rw [queue, List.map_append, List.map_cons, List.nodup_middle, List.nodup_cons] at distinct
  -- The other records of the queue cannot touch what the id sees.
  have apart : ∀ x ∈ before ++ after, Apart x.2 r.eventId := by
    intro x mem
    have queued : x ∈ replayQueue o := by
      rw [queue]
      simp only [List.mem_append] at mem ⊢
      tauto
    refine unshared.alone name r held rejected x.1 x.2 (mem_replayQueue.mp queued) ?_
    intro same
    have repeated := List.mem_map_of_mem (f := Prod.fst) mem
    rw [same, List.map_append] at repeated
    exact distinct.1 repeated
  rw [List.forall_mem_append] at apart
  have turn := judgeAll_view env before o.tables apart.1
  obtain ⟨written, read⟩ := unshared.counted name r held rejected
  obtain ⟨fate, counted⟩ := (rejected.congr turn).judge_eq written read
  rw [attempts_eq turn] at fate counted
  constructor
  · have mem : (name, (judge env (judgeAll env o.tables before) r).1) ∈ fates env o := by
      rw [fates, queue, outcomes_append]
      simp [outcomes]
    rw [place_coldScanDir, (Table.lookup_eq_some_iff (nodup_fates env o)).mpr mem, fate]
    split_ifs
    · simp [Disposition.move, OutboxDir.place, held.1]
    · rfl
  · rw [coldScanDir_snd, queue]
    have last := judgeAll_view env after (judge env (judgeAll env o.tables before) r).2 apart.2
    rw [← counted, ← attempts_eq last]
    simp [OutboxDir.withTables, judgeAll]

/-! ## The siblings -/

theorem consumeRecord_withFailures (fault : Option String) (t : OutboxTables)
    (f : Table String ApplyFailure) (r : OutboxRecord) (now : Int) :
    consumeRecord fault (t.withFailures f) r now =
      (consumeRecord fault t r now).map fun x => (x.1, x.2.withFailures f) := by
  unfold consumeRecord applyEffect applyHookEvent applyJobDeclarationStub withFailures
  cases fault <;> cases r.kind <;> cases r.jobId <;> dsimp only <;> split_ifs <;> rfl

/-- The tables differ in counters at most, and not in those of the ids in `P`. -/
structure Agree (P : String → Prop) (t t' : OutboxTables) : Prop where
  tables : t' = t.withFailures t'.applyFailures
  counters : ∀ e, P e → t'.applyFailures.get? e = t.applyFailures.get? e

theorem Agree.refl (P : String → Prop) (t : OutboxTables) : Agree P t t := ⟨rfl, fun _ _ => rfl⟩

theorem clearApplyFailure_agree {P : String → Prop} (env : ScanEnv) (r : OutboxRecord)
    (h : Agree P t t') : Agree P (clearApplyFailure env t r) (clearApplyFailure env t' r) := by
  obtain ⟨tables, counters⟩ := h
  rw [tables]
  unfold clearApplyFailure
  cases env.writeFails r
  · refine ⟨rfl, fun e mem => ?_⟩
    simp [withFailures, Table.get?_delete, counters e mem]
  · exact ⟨rfl, counters⟩

theorem bumpApplyFailure_agree {P : String → Prop} (env : ScanEnv) (err : String)
    (mem : P r.eventId) (h : Agree P t t') :
    (bumpApplyFailure env t' r err).1 = (bumpApplyFailure env t r err).1 ∧
      Agree P (bumpApplyFailure env t r err).2 (bumpApplyFailure env t' r err).2 := by
  obtain ⟨tables, counters⟩ := h
  have attempts : t'.attempts r.eventId = t.attempts r.eventId := by
    rw [OutboxTables.attempts, counters _ mem, ← OutboxTables.attempts]
  unfold bumpApplyFailure
  rw [attempts]
  cases env.writeFails r
  · refine ⟨?_, ?_, fun e mem => ?_⟩
    · simp [OutboxTables.attempts, Table.get?_upsert]
    · rw [tables]
      rfl
    · simp [Table.get?_upsert, counters e mem]
  · exact ⟨by simp [attempts], tables, counters⟩

theorem judge_agree {P : String → Prop} (env : ScanEnv) (mem : r.isMalformed = true ∨ P r.eventId)
    (h : Agree P t t') :
    (judge env t' r).1 = (judge env t r).1 ∧ Agree P (judge env t r).2 (judge env t' r).2 := by
  rcases mem with malformed | mem
  · rw [judge_malformed env t malformed, judge_malformed env t' malformed]
    exact ⟨rfl, h⟩
  have same := consumeRecord_withFailures (env.fault r) t t'.applyFailures r env.now
  rw [← h.tables] at same
  unfold judge
  rw [same]
  cases consumed : consumeRecord (env.fault r) t r env.now with
  | ok x =>
    obtain ⟨outcome, t₁⟩ := x
    have kept : t₁.applyFailures = t.applyFailures := by
      rcases consumeRecord_ok consumed with ⟨rfl, -⟩ | applied
      · rfl
      · exact applied.applyFailures
    have agree : Agree P t₁ (t₁.withFailures t'.applyFailures) :=
      ⟨rfl, fun e mem => by rw [kept]; exact h.counters e mem⟩
    cases outcome <;> exact ⟨rfl, clearApplyFailure_agree env r agree⟩
  | error err =>
    cases err with
    | malformed reason => exact ⟨rfl, h⟩
    | db err =>
      obtain ⟨attempts, agree⟩ := bumpApplyFailure_agree env err mem h
      simp only [Except.map, attempts]
      split_ifs
      · exact ⟨rfl, clearApplyFailure_agree env r agree⟩
      · exact ⟨rfl, agree⟩

theorem agree_judge {P : String → Prop} (env : ScanEnv)
    (turned : r.isMalformed = true ∨ Rejected env t r ∧ ¬ P r.eventId) (h : Agree P t t') :
    Agree P (judge env t r).2 t' := by
  rcases turned with malformed | ⟨⟨err, rejected⟩, other⟩
  · rw [judge_malformed env t malformed]
    exact h
  obtain ⟨t₁, f, rfl | ⟨outcome, consumed⟩, after, same⟩ := judge_snd env t r
  · rw [after]
    refine ⟨h.tables, fun e mem => (h.counters e mem).trans (same e ?_).symm⟩
    rintro rfl
    exact other mem
  · rw [rejected] at consumed
    cases consumed

/-- Without some files whose records are turned away, a queue ends alike for the others. -/
theorem outcomes_filter {P : String → Prop} (env : ScanEnv) (S : String → Bool)
    (queue : List (String × OutboxRecord)) (turned : ∀ x ∈ queue, S x.1 = true →
      x.2.isMalformed = true ∨ Rejected env t x.2 ∧ ¬ P x.2.eventId)
    (kept : ∀ x ∈ queue, S x.1 = false → x.2.isMalformed = true ∨ P x.2.eventId)
    (apart : queue.Pairwise fun x y => S y.1 = true → y.2.isMalformed = true ∨ Apart x.2 y.2.eventId)
    (agree : Agree P t t') :
    outcomes env t' (queue.filter fun x => !S x.1) =
        (outcomes env t queue).filter (fun x => !S x.1) ∧
      Agree P (judgeAll env t queue) (judgeAll env t' (queue.filter fun x => !S x.1)) := by
  induction queue generalizing t t' with
  | nil => exact ⟨rfl, agree⟩
  | cons x queue ih =>
    rw [List.forall_mem_cons] at turned kept
    rw [List.pairwise_cons] at apart
    -- The records that are turned away still are after the turn of `x`.
    have still : ∀ y ∈ queue, S y.1 = true → y.2.isMalformed = true ∨
        Rejected env (judge env t x.2).2 y.2 ∧ ¬ P y.2.eventId := by
      intro y mem out
      rcases turned.2 y mem out with malformed | ⟨rejected, other⟩
      · exact .inl malformed
      rcases apart.1 y mem out with malformed | apart
      · exact .inl malformed
      · exact .inr ⟨rejected.congr (judge_view env t apart), other⟩
    cases out : S x.1 with
    | true =>
      have after := agree_judge env (turned.1 out) agree
      obtain ⟨same, agree'⟩ := ih still kept.2 apart.2 after
      simp only [List.filter_cons, out, outcomes]
      exact ⟨same, agree'⟩
    | false =>
      obtain ⟨judged, after⟩ := judge_agree env (kept.1 out) agree
      obtain ⟨same, agree'⟩ := ih still kept.2 apart.2 after
      simp only [List.filter_cons, out, Bool.not_false, if_true, outcomes, judged, same]
      exact ⟨trivial, agree'⟩

/-- The directory without the files that `S` names. -/
def OutboxDir.without (o : OutboxDir) (S : String → Bool) : OutboxDir :=
  { o with files := o.files.deleteWhere fun name _ => S name }

theorem parsedRecords_filter (S : String → Bool) (rows : List (String × FileContent)) :
    parsedRecords (rows.filter fun row => !S row.1) =
      (parsedRecords rows).filter fun x => !S x.1 := by
  refine filterMap_filter_key (fun row x out => ?_) (fun name => !S name) rows
  split at out <;> grind

theorem unparsableNames_filter (S : String → Bool) (rows : List (String × FileContent)) :
    unparsableNames (rows.filter fun row => !S row.1) =
      (unparsableNames rows).filter fun name => !S name := by
  refine filterMap_filter_key (fun row x out => ?_) (fun name => !S name) rows
  split at out <;> grind

theorem replayQueue_without (o : OutboxDir) (S : String → Bool) :
    replayQueue (o.without S) = (replayQueue o).filter fun x => !S x.1 := by
  rw [replayQueue, replayQueue, Table.filter_insertionSort, ← parsedRecords_filter]
  rfl

/-- The files that `S` names fail, are malformed or are no records. -/
def Failing (env : ScanEnv) (o : OutboxDir) (S : String → Bool) : Prop :=
  ∀ name r, S name = true → o.Holds name r → r.isMalformed = true ∨ Rejected env o.tables r

/-- What a pass does for the other files does not depend on failing ones. -/
theorem fates_without (unshared : Unshared env o) (failing : Failing env o S) :
    fates env (o.without S) = (fates env o).filter (fun x => !S x.1) ∧
      Agree (fun e => ∃ name r, o.Holds name r ∧ S name = false ∧ ¬ Apart r e)
        (coldScanDir env o).2.tables (coldScanDir env (o.without S)).2.tables := by
  have alike := outcomes_filter env S (replayQueue o) (t := o.tables)
    (P := fun e => ∃ name r, o.Holds name r ∧ S name = false ∧ ¬ Apart r e) ?_ ?_ ?_ (.refl _ _)
  · obtain ⟨same, agree⟩ := alike
    rw [← replayQueue_without] at same agree
    refine ⟨?_, ?_⟩
    · rw [fates, fates, List.filter_append, ← same, List.filter_map]
      have names := unparsableNames_filter S o.files.rows
      exact congrArg₂ _ (congrArg _ names) rfl
    · rw [coldScanDir_snd, coldScanDir_snd]
      exact agree
  · intro x mem out
    have held := mem_replayQueue.mp mem
    rcases failing x.1 x.2 out held with malformed | rejected
    · exact .inl malformed
    · refine .inr ⟨rejected, ?_⟩
      rintro ⟨name, r, held', kept, near⟩
      refine near (unshared.alone x.1 x.2 held rejected name r held' ?_)
      rintro rfl
      rw [out] at kept
      cases kept
  · intro x mem kept
    cases malformed : x.2.isMalformed with
    | true => exact .inl rfl
    | false => exact .inr ⟨x.1, x.2, mem_replayQueue.mp mem, kept, by simp [Apart, malformed]⟩
  · have distinct := List.pairwise_map.mp (nodup_replayQueue o)
    refine distinct.imp_of_mem fun {x y} memX memY other out => ?_
    have held := mem_replayQueue.mp memY
    rcases failing y.1 y.2 out held with malformed | rejected
    · exact .inl malformed
    · exact .inr (unshared.alone y.1 y.2 held rejected x.1 x.2 (mem_replayQueue.mp memX) other)

/-! ## The contract -/

/-- A pass: what the database answers, and the directory before it. -/
abbrev Pass := ScanEnv × OutboxDir

def Pass.after (p : Pass) : OutboxDir := (coldScanDir p.1 p.2).2

/-- The pass finds the record under the name, and the database rejects it. -/
def Pass.Fails (p : Pass) (name : String) (r : OutboxRecord) : Prop :=
  p.2.Holds name r ∧ Rejected p.1 p.2.tables r

/-- The `k`-th failing pass of a record: between two passes nothing touches the file or the
row that counts. -/
inductive FailingPass (run : List Pass) (name : String) (r : OutboxRecord) : Nat → Pass → Prop
  | first {p : Pass} : p ∈ run → p.2.tables.applyFailures.get? r.eventId = none →
      p.Fails name r → FailingPass run name r 1 p
  | next {k : Nat} {p q : Pass} : FailingPass run name r k p → q ∈ run →
      q.2.place name = p.after.place name →
      q.2.tables.applyFailures.get? r.eventId = p.after.tables.applyFailures.get? r.eventId →
      q.Fails name r → FailingPass run name r (k + 1) q

/-- What the passes of a run guarantee. -/
structure ScanContract (run : List Pass) : Prop where
  accounts : ∀ p ∈ run, (coldScanDir p.1 p.2).1.scanned = (coldScanDir p.1 p.2).1.handled
  ordered : ∀ p ∈ run, ∃ ids, Appended p.2.tables p.after.tables ids ∧ ids.Pairwise (· < ·)
  retries : ∀ name r k p, FailingPass run name r k p →
    (k ≤ 2 → p.after.files.get? name = some (.record r)) ∧
      (k = 3 → p.after.files.get? name = none ∧ p.after.dead.get? name = some (.record r))
  isolates : ∀ p ∈ run, ∀ S, Failing p.1 p.2 S →
    (∀ name, S name = false →
      (fates p.1 (p.2.without S)).lookup name = (fates p.1 p.2).lookup name ∧
        (Pass.after (p.1, p.2.without S)).place name = p.after.place name) ∧
    (Pass.after (p.1, p.2.without S)).tables.withFailures .empty =
      p.after.tables.withFailures .empty

theorem FailingPass.fails (h : FailingPass run name r k p) : p ∈ run ∧ p.Fails name r := by
  cases h with
  | first mem _ fails => exact ⟨mem, fails⟩
  | next _ mem _ _ fails => exact ⟨mem, fails⟩

/-- Before the `k`-th failing pass the counter stands at `k - 1`, up to the third. -/
theorem FailingPass.attempts (unshared : ∀ p ∈ run, Unshared p.1 p.2)
    (h : FailingPass run name r k p) (early : k ≤ 3) :
    p.2.tables.attempts r.eventId = k - 1 := by
  induction h with
  | first _ absent _ => simp [OutboxTables.attempts, absent]
  | next earlier _ _ same _ ih =>
    obtain ⟨mem, held, rejected⟩ := earlier.fails
    have counted := (coldScanDir_rejected (unshared _ mem) held rejected).2
    have before := ih (by omega)
    rw [OutboxTables.attempts, same, ← OutboxTables.attempts]
    rw [Pass.after, counted, before, if_neg (by omega)]
    omega

theorem lookup_filter (results : List (String × Disposition)) {S : String → Bool}
    (kept : S name = false) :
    (results.filter fun x => !S x.1).lookup name = results.lookup name := by
  induction results with
  | nil => rfl
  | cons x results ih =>
    obtain ⟨n, d⟩ := x
    by_cases same : name = n
    · subst same
      simp [kept]
    · have other : (name == n) = false := by simpa using same
      cases out : S n <;> simp [out, List.lookup_cons, other, ih]

/-- The contract holds as long as no rejected record shares its `event_id`. -/
theorem scanContract_of_unshared (run : List Pass) (unshared : ∀ p ∈ run, Unshared p.1 p.2) :
    ScanContract run where
  accounts p _ := coldScanDir_accounts p.1 p.2
  ordered p _ := coldScanDir_ordered p.1 p.2
  retries name r k p failing := by
    obtain ⟨mem, held, rejected⟩ := failing.fails
    have place := (coldScanDir_rejected (unshared p mem) held rejected).1
    constructor
    · intro early
      rw [failing.attempts unshared (by omega), if_neg (by omega)] at place
      exact (congrArg Prod.fst place).trans held.1
    · intro third
      rw [failing.attempts unshared (by omega), if_pos (by omega)] at place
      exact ⟨congrArg Prod.fst place, congrArg Prod.snd place⟩
  isolates p mem S failing := by
    obtain ⟨fates, agree⟩ := fates_without (unshared p mem) failing
    refine ⟨fun name kept => ?_, ?_⟩
    · have fate := lookup_filter (Outbox.fates p.1 p.2) kept
      rw [← fates] at fate
      have place : (p.2.without S).place name = p.2.place name := by
        simp only [OutboxDir.place, OutboxDir.without, Table.get?_deleteWhere]
        cases p.2.files.get? name <;> simp [kept]
      refine ⟨fate, ?_⟩
      rw [Pass.after, Pass.after, place_coldScanDir, place_coldScanDir, fate, place]
    · exact congrArg (·.withFailures .empty) agree.tables

/-- A hook event of an agent that is gone. -/
def orphan (eventId : String) : OutboxRecord :=
  { eventId := eventId, kind := .hookEvent, agentId := "gone" }

/-- A directory with the given records and empty tables. -/
def dirOf (files : List (String × OutboxRecord)) : OutboxDir :=
  { tables := { db := Db.empty }
    files := files.foldl (fun t x => t.insert x.1 (.record x.2)) .empty }

def orphanBesideProbe : Pass :=
  ({ now := 7 }, dirOf [("a.json", orphan "a"),
    ("b.json", { eventId := "b", kind := .selfcheck, agentId := "gone" })])

/-- Three passes with nothing between them. -/
def orphanPasses : List Pass :=
  let second : Pass := ({ now := 8 }, orphanBesideProbe.after)
  [orphanBesideProbe, second, ({ now := 9 }, second.after)]

/-- The probe goes through in the first pass, and the orphan is moved to `dead/` in the third. -/
theorem scanContract_orphanBesideProbe :
    ScanContract orphanPasses ∧ ∃ p, FailingPass orphanPasses "a.json" (orphan "a") 3 p ∧
      p.after.dead.get? "a.json" = some (.record (orphan "a")) := by
  have rows : ∀ p ∈ orphanPasses, ∀ row ∈ p.2.files.rows, row = ("a.json", .record (orphan "a")) ∨
      row = ("b.json", .record { eventId := "b", kind := .selfcheck, agentId := "gone" }) := by
    decide +kernel
  have counted : ∀ p ∈ orphanPasses, ∀ r, p.1.writeFails r = false ∧ p.1.readFails r = false := by
    simp [orphanPasses, orphanBesideProbe]
  have contract : ScanContract orphanPasses := by
    refine scanContract_of_unshared _ fun p mem => ⟨?_, fun _ r _ _ => counted p mem r⟩
    intro name r held _ name' r' held' other
    have member := rows p mem _ (Table.get?_eq_some_iff.mp held.1)
    have member' := rows p mem _ (Table.get?_eq_some_iff.mp held'.1)
    simp only [Prod.mk.injEq, FileContent.record.injEq] at member member'
    rcases member with ⟨rfl, rfl⟩ | ⟨rfl, rfl⟩ <;> rcases member' with ⟨rfl, rfl⟩ | ⟨rfl, rfl⟩
    · exact absurd rfl other
    · exact .inr (by decide)
    · exact .inr (by decide)
    · exact absurd rfl other
  obtain ⟨p, third⟩ : ∃ p, FailingPass orphanPasses "a.json" (orphan "a") 3 p := by
    have fails : ∀ p ∈ orphanPasses, p.Fails "a.json" (orphan "a") := by
      simp only [orphanPasses, List.forall_mem_cons]
      refine ⟨⟨⟨?_, ?_⟩, _, rfl⟩, ⟨⟨?_, ?_⟩, _, rfl⟩, ⟨⟨?_, ?_⟩, _, rfl⟩, by simp⟩ <;> decide +kernel
    simp only [orphanPasses, List.forall_mem_cons] at fails
    obtain ⟨first, second, third, -⟩ := fails
    exact ⟨_, .next (.next (.first (.head _) rfl first) (.tail _ (.head _)) rfl rfl second)
      (.tail _ (.tail _ (.head _))) rfl rfl third⟩
  exact ⟨contract, p, third, ((contract.retries _ _ _ _ third).2 rfl).2⟩

/-- Two files with one `event_id`. -/
def twins : Pass := ({ now := 7 }, dirOf [("a.json", orphan "e"), ("b.json", orphan "e")])

def twinsAgain : Pass := ({ now := 8 }, twins.after)

/-- Both files are counted in each pass, so the first of them is moved to `dead/` in the
second pass. -/
theorem not_scanContract_twins : ¬ ScanContract [twins, twinsAgain] := by
  intro contract
  have rejected : twins.Fails "a.json" (orphan "e") :=
    ⟨⟨by decide +kernel, by decide +kernel⟩, _, rfl⟩
  have again : twinsAgain.Fails "a.json" (orphan "e") :=
    ⟨⟨by decide +kernel, by decide +kernel⟩, _, rfl⟩
  have second : FailingPass [twins, twinsAgain] "a.json" (orphan "e") 2 twinsAgain :=
    .next (.first (by simp) rfl rejected) (by simp) rfl rfl again
  have kept := (contract.retries _ _ _ _ second).1 (by omega)
  revert kept
  decide +kernel

end Ccbd.Outbox
