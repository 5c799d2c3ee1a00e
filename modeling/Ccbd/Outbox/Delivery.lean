import Ccbd.Lib.Run
import Ccbd.Outbox.ScanContract

/-!
# Delivery across crashes

Writers journal their records, the daemon consumes records and passes over the directory,
and a crash may come between any two steps that leave something on disk. What a pass has in
memory is its place in `ScanPc`, which a crash loses. The answers of the file system and of
SQLite come with the step. Renames and unlinks are atomic, and a transaction that commits stays.
-/

namespace Ccbd.Outbox

open Lib

/-! ## A pass step by step -/

inductive ScanPc where
  | idle
  | listing (parsed : List (String × OutboxRecord))
  | discarding (name : String) (parsed : List (String × OutboxRecord))
  | replaying (queue : List (String × OutboxRecord))
  | reaping (name : String) (r : OutboxRecord) (queue : List (String × OutboxRecord))
  | bumping (name : String) (r : OutboxRecord) (err : String) (queue : List (String × OutboxRecord))
  | counting (name : String) (r : OutboxRecord) (queue : List (String × OutboxRecord))
  | burying (name : String) (r : OutboxRecord) (counted : Bool)
      (queue : List (String × OutboxRecord))
  | clearing (r : OutboxRecord) (queue : List (String × OutboxRecord))

/-- The next step of a pass, with what it is answered. -/
inductive ScanMove where
  | start
  | entry (name : String) (readable : Bool)
  | sort
  | consume (fault : Option String) (now : Int)
  | unlink (fails : Bool)
  | bump (fails : Bool) (now : Int)
  | count (fails : Bool)
  | bury (fails : Bool)
  | clear (fails : Bool) (now : Int)
  | finish

/-- The rename into `dead/`; a pass that cannot make it ends with the error. -/
def buryStep (fails : Bool) (o : OutboxDir) (name : String) (next : ScanPc) : ScanPc × OutboxDir :=
  if fails || (o.files.get? name).isNone then (.idle, o) else (next, quarantine o name)

/-- A look at one entry of the directory. -/
def entryStep (o : OutboxDir) (parsed : List (String × OutboxRecord)) (name : String)
    (readable : Bool) : ScanPc :=
  if isScannableJson name then
    match o.files.get? name, readable with
    | none, _ => .listing parsed
    | some (.record r), true => .listing (parsed ++ [(name, r)])
    | some _, _ => .discarding name parsed
  else .listing parsed

def consumeStep (fault : Option String) (now : Int) (o : OutboxDir) (name : String)
    (r : OutboxRecord) (queue : List (String × OutboxRecord)) : ScanPc × OutboxDir :=
  match consumeRecord fault o.tables r now with
  | .ok (_, tables) => (.reaping name r queue, o.withTables tables)
  | .error (.malformed _) => (.burying name r false queue, o)
  | .error (.db err) => (.bumping name r err queue, o)

def countStep (fails : Bool) (o : OutboxDir) (name : String) (r : OutboxRecord)
    (queue : List (String × OutboxRecord)) : ScanPc :=
  let attempts := if fails then 0 else o.tables.attempts r.eventId
  if maxApplyAttempts ≤ attempts then .burying name r true queue else .replaying queue

/-- A move that is not the next one of the pass does nothing. -/
def scanStep (move : ScanMove) (pc : ScanPc) (o : OutboxDir) : ScanPc × OutboxDir :=
  match pc with
  | .idle => match move with
    | .start => (.listing [], o)
    | _ => (pc, o)
  | .listing parsed => match move with
    | .entry name readable => (entryStep o parsed name readable, o)
    | .sort => (.replaying (parsed.insertionSort byEventId), o)
    | _ => (pc, o)
  | .discarding name parsed => match move with
    | .bury fails => buryStep fails o name (.listing parsed)
    | _ => (pc, o)
  | .replaying [] => match move with
    | .finish => (.idle, o)
    | _ => (pc, o)
  | .replaying ((name, r) :: queue) => match move with
    | .consume fault now => consumeStep fault now o name r queue
    | _ => (pc, o)
  | .reaping name r queue => match move with
    | .unlink fails => (.clearing r queue, if fails then o else reap o name)
    | _ => (pc, o)
  | .bumping name r err queue => match move with
    | .bump fails now =>
      let env : ScanEnv := { writeFails := fun _ => fails, now := now }
      (.counting name r queue, o.withTables (bumpApplyFailure env o.tables r err).2)
    | _ => (pc, o)
  | .counting name r queue => match move with
    | .count fails => (countStep fails o name r queue, o)
    | _ => (pc, o)
  | .burying name r counted queue => match move with
    | .bury fails =>
      buryStep fails o name (if counted then .clearing r queue else .replaying queue)
    | _ => (pc, o)
  | .clearing r queue => match move with
    | .clear fails now =>
      let env : ScanEnv := { writeFails := fun _ => fails, now := now }
      (.replaying queue, o.withTables (clearApplyFailure env o.tables r))
    | _ => (pc, o)

/-! ### An undisturbed pass -/

/-- Some moves lead from the one place to the other. -/
def Reaches (s s' : ScanPc × OutboxDir) : Prop :=
  ∃ moves : List ScanMove, moves.foldl (fun s move => scanStep move s.1 s.2) s = s'

theorem Reaches.refl (s : ScanPc × OutboxDir) : Reaches s s := ⟨[], rfl⟩

theorem Reaches.move (move : ScanMove) (h : Reaches (scanStep move s.1 s.2) s') : Reaches s s' := by
  obtain ⟨moves, h⟩ := h
  exact ⟨move :: moves, h⟩

theorem Reaches.trans (h : Reaches s s') (h' : Reaches s' s'') : Reaches s s'' := by
  obtain ⟨moves, rfl⟩ := h
  obtain ⟨moves', rfl⟩ := h'
  exact ⟨moves ++ moves', by rw [List.foldl_append]⟩

variable {o' : OutboxDir} {r : OutboxRecord} {t : OutboxTables} {name : String}

theorem buryStep_of_isSome (h : (o.files.get? name).isSome) (next : ScanPc) :
    buryStep false o name next = (next, quarantine o name) := by
  rw [buryStep, if_neg]
  simpa [Option.isSome_iff_ne_none] using h

theorem quarantine_withTables (o : OutboxDir) (t : OutboxTables) (name : String) :
    quarantine (o.withTables t) name = (quarantine o name).withTables t :=
  settleFile_withTables o t name .quarantined

theorem reaches_replayRecord (env : ScanEnv) (r : OutboxRecord)
    (queue : List (String × OutboxRecord)) (held : (o.files.get? name).isSome) :
    Reaches (.replaying ((name, r) :: queue), o)
      (.replaying queue, (replayRecord env o name r).2) := by
  refine .move (.consume (env.fault r) env.now) ?_
  show Reaches (consumeStep (env.fault r) env.now o name r queue) _
  unfold replayRecord consumeStep
  cases consumed : consumeRecord (env.fault r) o.tables r env.now with
  | ok x =>
    obtain ⟨outcome, t⟩ := x
    refine .move (.unlink false) (.move (.clear (env.writeFails r) env.now) ⟨[], ?_⟩)
    cases outcome <;> rfl
  | error err =>
    cases err with
    | malformed reason =>
      refine .move (.bury false) ?_
      show Reaches (buryStep false o name _) _
      rw [buryStep_of_isSome held]
      exact .refl _
    | db err =>
      refine .move (.bump (env.writeFails r) env.now) (.move (.count (env.readFails r)) ?_)
      show Reaches (countStep (env.readFails r)
        (o.withTables (bumpApplyFailure env o.tables r err).2) name r queue,
        o.withTables (bumpApplyFailure env o.tables r err).2) _
      have count : (bumpApplyFailure env o.tables r err).1 = if env.readFails r then 0
          else (o.withTables (bumpApplyFailure env o.tables r err).2).tables.attempts r.eventId := rfl
      unfold countStep deferOrQuarantine
      rw [← count]
      dsimp only
      split
      · refine .move (.bury false) ?_
        show Reaches (buryStep false (o.withTables _) name _) _
        rw [buryStep_of_isSome (o := o.withTables (bumpApplyFailure env o.tables r err).2) held]
        refine .move (.clear (env.writeFails r) env.now) ⟨[], ?_⟩
        simp only [quarantine_withTables]
        rfl
      · exact .refl _

theorem settleFile_get?_of_ne (o : OutboxDir) (d : Disposition) (other : name' ≠ name) :
    (settleFile o name d).files.get? name' = o.files.get? name' := by
  have place := place_settleFile o name d name'
  rw [if_neg other] at place
  exact congrArg Prod.fst place

theorem replayRecord_get?_of_ne (env : ScanEnv) (o : OutboxDir) (r : OutboxRecord)
    (other : name' ≠ name) :
    (replayRecord env o name r).2.files.get? name' = o.files.get? name' := by
  rw [replayRecord_eq]
  exact settleFile_get?_of_ne o _ other

theorem quarantine_get?_of_ne (o : OutboxDir) (other : name' ≠ name) :
    (quarantine o name).files.get? name' = o.files.get? name' :=
  settleFile_get?_of_ne o .quarantined other

theorem foldl_quarantine_get? {names : List String} (other : name ∉ names) (o : OutboxDir) :
    (names.foldl quarantine o).files.get? name = o.files.get? name := by
  induction names generalizing o with
  | nil => rfl
  | cons n names ih =>
    rw [List.mem_cons, not_or] at other
    rw [List.foldl_cons, ih other.2, quarantine_get?_of_ne o other.1]

theorem reaches_replay (env : ScanEnv) (queue : List (String × OutboxRecord)) (report : ScanReport)
    (distinct : (queue.map Prod.fst).Nodup) (held : ∀ x ∈ queue, (o.files.get? x.1).isSome) :
    Reaches (.replaying queue, o) (.replaying [], (queue.foldl (replayStep env) (report, o)).2) := by
  induction queue generalizing o report with
  | nil => exact .refl _
  | cons x queue ih =>
    rw [List.forall_mem_cons] at held
    rw [List.map_cons, List.nodup_cons] at distinct
    refine (reaches_replayRecord env x.2 queue held.1).trans (ih _ distinct.2 fun y mem => ?_)
    rw [replayRecord_get?_of_ne]
    · exact held.2 y mem
    · intro same
      exact distinct.1 (same ▸ List.mem_map_of_mem mem)

theorem reaches_enumerate (rows : List (String × FileContent)) (report : ScanReport)
    (parsed : List (String × OutboxRecord)) (distinct : (rows.map Prod.fst).Nodup)
    (held : ∀ row ∈ rows, o.files.get? row.1 = some row.2) :
    Reaches (.listing parsed, o) (.listing (rows.foldl enumerate (report, parsed, o)).2.1,
      (rows.foldl enumerate (report, parsed, o)).2.2) := by
  induction rows generalizing o report parsed with
  | nil => exact .refl _
  | cons row rows ih =>
    obtain ⟨name, content⟩ := row
    rw [List.forall_mem_cons] at held
    rw [List.map_cons, List.nodup_cons] at distinct
    refine .move (.entry name true) ?_
    show Reaches (entryStep o parsed name true, o) _
    rw [List.foldl_cons]
    unfold entryStep enumerate
    split
    · rw [held.1]
      cases content with
      | record r => exact ih _ _ distinct.2 held.2
      | unparsable err =>
        refine .move (.bury false) ?_
        show Reaches (buryStep false o name _) _
        rw [buryStep_of_isSome (by rw [held.1]; rfl)]
        refine ih _ _ distinct.2 fun row mem => ?_
        rw [quarantine_get?_of_ne]
        · exact held.2 row mem
        · intro same
          have repeated := List.mem_map_of_mem (f := Prod.fst) mem
          exact distinct.1 (same ▸ repeated)
    · exact ih _ _ distinct.2 held.2

/-- A pass that is not disturbed makes these steps. -/
theorem reaches_coldScanDir (env : ScanEnv) (o : OutboxDir) :
    Reaches (.idle, o) (.idle, (coldScanDir env o).2) := by
  refine .move .start ?_
  have listed := reaches_enumerate o.files.rows {} [] o.files.nodup
    fun row mem => Table.get?_eq_some_iff.mpr mem
  refine .trans listed (.move .sort ?_)
  refine .trans (reaches_replay env _ (o.files.rows.foldl enumerate ({}, [], o)).1 ?_ ?_)
    (.move .finish ⟨[], rfl⟩)
  · rw [foldl_enumerate]
    exact nodup_replayQueue o
  · rw [foldl_enumerate]
    intro x mem
    obtain ⟨held, scannable⟩ := mem_replayQueue.mp mem
    rw [foldl_quarantine_get?, held]
    · rfl
    · intro bad
      obtain ⟨err, unparsable, -⟩ := mem_unparsableNames.mp bad
      rw [Table.get?_eq_some_iff.mpr unparsable] at held
      cases held

/-! ## The system -/

structure DeliveryWorld where
  dir : OutboxDir
  tmp : Table String FileContent := .empty
  pc : ScanPc := .idle
  journalled : List OutboxRecord := []

def tmpFilename (eventId : String) : String := sanitizePathComponent eventId ++ ".tmp"

inductive DeliveryAct where
  | createTmp (r : OutboxRecord)
  | writeTmp (r : OutboxRecord)
  | renameTmp (r : OutboxRecord)
  | removeTmp (r : OutboxRecord)
  | consume (r : OutboxRecord) (fault : Option String) (now : Int)
  | scan (move : ScanMove)
  | crash
  | other (db : Db)

/-- The steps of `journal_record`: the rename is made once the file was written. -/
def DeliveryWorld.journal (w : DeliveryWorld) (r : OutboxRecord) : DeliveryWorld :=
  if w.tmp.get? (tmpFilename r.eventId) = some (.record r) then
    { w with
      tmp := w.tmp.delete (tmpFilename r.eventId)
      dir := { w.dir with files := w.dir.files.upsert (recordJsonFilename r.eventId) (.record r) }
      journalled := r :: w.journalled }
  else w

def DeliveryWorld.apply (w : DeliveryWorld) : DeliveryAct → DeliveryWorld
  | .createTmp r => { w with tmp := w.tmp.upsert (tmpFilename r.eventId) (.unparsable "EOF") }
  | .writeTmp r => { w with tmp := w.tmp.modify (tmpFilename r.eventId) fun _ => .record r }
  | .renameTmp r => w.journal r
  | .removeTmp r => { w with tmp := w.tmp.delete (tmpFilename r.eventId) }
  | .consume r fault now =>
    match consumeRecord fault w.dir.tables r now with
    | .ok (_, tables) => { w with dir := w.dir.withTables tables }
    | .error _ => w
  | .scan move =>
    let (pc, dir) := scanStep move w.pc w.dir
    { w with pc := pc, dir := dir }
  | .crash => { w with pc := .idle }
  | .other db => { w with dir := w.dir.withTables { w.dir.tables with db := db } }

/-- The writers journal records of `R`, and nothing but `consume_record` writes effects of
records. -/
def Admits (R : OutboxRecord → Prop) (w : DeliveryWorld) : DeliveryAct → Prop
  | .createTmp r | .writeTmp r | .renameTmp r | .removeTmp r => R r
  | .other db => ∀ e, ({ w.dir.tables with db := db } : OutboxTables).effectRows e ≤
      w.dir.tables.effectRows e
  | .consume .. | .scan _ | .crash => True

/-! ## What a step can do -/

/-- What may happen to the tables: the ledger keeps its rows, and an effect comes with the
first row of its id in the ledger. -/
structure Grows (t t' : OutboxTables) : Prop where
  ledger : ∀ e, (t.consumed.get? e).isSome → (t'.consumed.get? e).isSome
  effects : ∀ e, t'.effectRows e ≤ t.effectRows e ∨
    t.consumed.get? e = none ∧ (t'.consumed.get? e).isSome ∧ t'.effectRows e = t.effectRows e + 1

theorem Grows.refl (t : OutboxTables) : Grows t t := ⟨fun _ h => h, fun _ => .inl le_rfl⟩

theorem consumeRecord_grows (h : consumeRecord fault t r now = .ok (outcome, t')) :
    Grows t t' ∧ (t'.consumed.get? r.eventId).isSome := by
  rcases consumeRecord_ok h with ⟨rfl, seen⟩ | applied
  · exact ⟨.refl _, seen⟩
  refine ⟨⟨fun e seen => ?_, fun e => ?_⟩, applied.isSome⟩
  · by_cases same : e = r.eventId
    · subst same
      exact applied.isSome
    · rwa [applied.get?_of_ne same]
  · rw [applied.effectRows e, OutboxRecord.rowsFor]
    split_ifs with effect
    · obtain ⟨-, rfl⟩ := effect
      exact .inr ⟨applied.fresh, applied.isSome, rfl⟩
    · exact .inl le_rfl

theorem Grows.withFailures {P : Table String ApplyFailure → Prop}
    (counted : ∃ f, t' = t.withFailures f ∧ P f) : Grows t t' := by
  obtain ⟨f, rfl, -⟩ := counted
  exact ⟨fun _ h => h, fun _ => .inl le_rfl⟩

/-- What a pass has in memory of files and records. -/
def ScanPc.entries : ScanPc → List (String × OutboxRecord)
  | .idle => []
  | .listing parsed | .discarding _ parsed => parsed
  | .replaying queue | .clearing _ queue => queue
  | .reaping name r queue | .bumping name r _ queue | .counting name r queue
  | .burying name r _ queue => (name, r) :: queue

/-- The four things a step of a pass does to the disk. -/
inductive ScanEffect (pc : ScanPc) (o : OutboxDir) : OutboxDir → Prop
  | none : ScanEffect pc o o
  | tables {t : OutboxTables} (grows : Grows o.tables t) : ScanEffect pc o (o.withTables t)
  | reap {name : String} {r : OutboxRecord} {queue : List (String × OutboxRecord)}
      (here : pc = .reaping name r queue) : ScanEffect pc o (reap o name)
  | quarantine (name : String) : ScanEffect pc o (quarantine o name)

theorem buryStep_effect (fails : Bool) (pc : ScanPc) (o : OutboxDir) (name : String)
    (next : ScanPc) : ScanEffect pc o (buryStep fails o name next).2 := by
  unfold buryStep
  split
  · exact .none
  · exact .quarantine name

theorem consumeStep_effect (fault : Option String) (now : Int) (pc : ScanPc) (o : OutboxDir)
    (name : String) (r : OutboxRecord) (queue : List (String × OutboxRecord)) :
    ScanEffect pc o (consumeStep fault now o name r queue).2 := by
  unfold consumeStep
  split
  · rename_i consumed
    exact .tables (consumeRecord_grows consumed).1
  · exact .none
  · exact .none

theorem scanStep_effect (move : ScanMove) (pc : ScanPc) (o : OutboxDir) :
    ScanEffect pc o (scanStep move pc o).2 := by
  unfold scanStep
  split <;> split <;> try exact .none
  · exact buryStep_effect ..
  · exact consumeStep_effect ..
  · split
    · exact .none
    · exact .reap rfl
  · exact .tables (.withFailures (bumpApplyFailure_eq ..))
  · exact buryStep_effect ..
  · exact .tables (.withFailures (clearApplyFailure_eq ..))

/-- What a pass comes to have in memory it had already, or it read it from the directory;
and it unlinks the files of consumed records only. -/
structure Remembers (pc : ScanPc) (o : OutboxDir) (pc' : ScanPc) (o' : OutboxDir) : Prop where
  entries : ∀ x ∈ pc'.entries, x ∈ pc.entries ∨ o.files.get? x.1 = some (.record x.2)
  reaps : ∀ name r queue, pc' = .reaping name r queue →
    pc = pc' ∨ (o'.tables.consumed.get? r.eventId).isSome

theorem Remembers.same (pc : ScanPc) (o o' : OutboxDir) : Remembers pc o pc o' :=
  ⟨fun _ mem => .inl mem, fun _ _ _ _ => .inl rfl⟩

theorem Remembers.of_subset (sub : pc'.entries ⊆ pc.entries)
    (quiet : ∀ name r queue, pc' ≠ .reaping name r queue) : Remembers pc o pc' o' :=
  ⟨fun _ mem => .inl (sub mem), fun name r queue here => absurd here (quiet name r queue)⟩

theorem buryStep_remembers (fails : Bool) (pc : ScanPc) (o : OutboxDir) (name : String)
    (sub : next.entries ⊆ pc.entries)
    (quiet : ∀ name r queue, next ≠ .reaping name r queue) :
    Remembers pc o (buryStep fails o name next).1 (buryStep fails o name next).2 := by
  unfold buryStep
  split
  · exact .of_subset (List.nil_subset _) (by simp)
  · exact .of_subset sub quiet

theorem entryStep_remembers (o : OutboxDir) (parsed : List (String × OutboxRecord)) (name : String)
    (readable : Bool) : Remembers (.listing parsed) o (entryStep o parsed name readable) o := by
  unfold entryStep
  split
  · split
    · exact .same ..
    · rename_i r held
      refine ⟨fun x mem => ?_, by simp⟩
      rcases List.mem_append.mp mem with mem | mem
      · exact .inl mem
      · rw [List.mem_singleton.mp mem]
        exact .inr held
    · exact .of_subset (List.Subset.refl _) (by simp)
  · exact .same ..

theorem consumeStep_remembers (fault : Option String) (now : Int) (o : OutboxDir) (name : String)
    (r : OutboxRecord) (queue : List (String × OutboxRecord)) :
    Remembers (.replaying ((name, r) :: queue)) o (consumeStep fault now o name r queue).1
      (consumeStep fault now o name r queue).2 := by
  unfold consumeStep
  split
  · rename_i consumed
    refine ⟨fun _ mem => .inl mem, fun _ _ _ here => .inr ?_⟩
    cases here
    exact (consumeRecord_grows consumed).2
  · exact .of_subset (List.Subset.refl _) (by simp)
  · exact .of_subset (List.Subset.refl _) (by simp)

theorem countStep_remembers (fails : Bool) (o : OutboxDir) (name : String) (r : OutboxRecord)
    (queue : List (String × OutboxRecord)) :
    Remembers (.counting name r queue) o (countStep fails o name r queue) o := by
  unfold countStep
  generalize (if fails then (0 : Int) else o.tables.attempts r.eventId) = attempts
  dsimp only
  split
  · exact .of_subset (List.Subset.refl _) (by simp)
  · exact .of_subset (List.subset_cons_self _ _) (by simp)

theorem scanStep_remembers (move : ScanMove) (pc : ScanPc) (o : OutboxDir) :
    Remembers pc o (scanStep move pc o).1 (scanStep move pc o).2 := by
  unfold scanStep
  split <;> split <;> try exact .same ..
  · exact .of_subset (List.nil_subset _) (by simp)
  · exact entryStep_remembers ..
  · exact .of_subset (List.perm_insertionSort byEventId _).subset (by simp)
  · exact buryStep_remembers _ _ _ _ (List.Subset.refl _) (by simp)
  · exact .of_subset (List.nil_subset _) (by simp)
  · exact consumeStep_remembers ..
  · exact .of_subset (List.subset_cons_self _ _) (by simp)
  · exact .of_subset (List.Subset.refl _) (by simp)
  · exact countStep_remembers ..
  · rename_i counted queue _ _
    refine buryStep_remembers _ _ _ _ ?_ ?_
    · cases counted <;> exact List.subset_cons_self _ _
    · cases counted <;> simp
  · exact .of_subset (List.Subset.refl _) (by simp)

/-! ## Nothing is lost -/

/-- The record is on its way, in the dead-letter book, or consumed. -/
def Delivered (o : OutboxDir) (r : OutboxRecord) : Prop :=
  o.files.get? (recordJsonFilename r.eventId) = some (.record r) ∨
    o.dead.get? (recordJsonFilename r.eventId) = some (.record r) ∨
    (o.tables.consumed.get? r.eventId).isSome

/-- No two of the records have one file name. -/
def DistinctNames (R : OutboxRecord → Prop) : Prop :=
  ∀ r r', R r → R r' → recordJsonFilename r.eventId = recordJsonFilename r'.eventId → r = r'

/-- The file holds a record of `R`, under the name of the record. -/
def Filed (R : OutboxRecord → Prop) (name : String) (r : OutboxRecord) : Prop :=
  R r ∧ name = recordJsonFilename r.eventId

structure Sound (R : OutboxRecord → Prop) (w : DeliveryWorld) : Prop where
  files : ∀ name content, w.dir.files.get? name = some content →
    ∃ r, Filed R name r ∧ content = .record r
  entries : ∀ x ∈ w.pc.entries, Filed R x.1 x.2
  reaps : ∀ name r queue, w.pc = .reaping name r queue →
    (w.dir.tables.consumed.get? r.eventId).isSome
  delivered : ∀ r ∈ w.journalled, R r ∧ Delivered w.dir r

variable {a : DeliveryAct}

theorem Delivered.withTables (h : Delivered o r)
    (grows : ∀ e, (o.tables.consumed.get? e).isSome → (t.consumed.get? e).isSome) :
    Delivered (o.withTables t) r := by
  rcases h with held | dead | consumed
  · exact .inl held
  · exact .inr (.inl dead)
  · exact .inr (.inr (grows _ consumed))

theorem Delivered.reap (distinct : DistinctNames R) (h : Delivered o r)
    (mem : R r) (filed : Filed R name r') (consumed : (o.tables.consumed.get? r'.eventId).isSome) :
    Delivered (reap o name) r := by
  by_cases same : recordJsonFilename r.eventId = name
  · obtain rfl := distinct r r' mem filed.1 (same.trans filed.2)
    exact .inr (.inr consumed)
  · rcases h with held | dead | consumed
    · refine .inl ?_
      rw [← held]
      simp [Outbox.reap, Table.get?_delete, same]
    · exact .inr (.inl dead)
    · exact .inr (.inr consumed)

theorem Delivered.quarantine (distinct : DistinctNames R) (h : Delivered o r) (mem : R r)
    (files : ∀ name content, o.files.get? name = some content →
      ∃ r, Filed R name r ∧ content = .record r) (name : String) :
    Delivered (quarantine o name) r := by
  unfold Outbox.quarantine
  cases held : o.files.get? name with
  | none => exact h
  | some content =>
    by_cases same : recordJsonFilename r.eventId = name
    · obtain ⟨r', filed, rfl⟩ := files name content held
      obtain rfl := distinct r r' mem filed.1 (same.trans filed.2)
      exact .inr (.inl (by simp [Table.get?_upsert, same]))
    · rcases h with held | dead | consumed
      · exact .inl (by simp [Table.get?_delete, same, held])
      · exact .inr (.inl (by simp [Table.get?_upsert, same, dead]))
      · exact .inr (.inr consumed)

theorem Delivered.journal (distinct : DistinctNames R) (h : Delivered o r)
    (mem : R r) (mem' : R r') :
    Delivered { o with files := o.files.upsert (recordJsonFilename r'.eventId) (.record r') } r := by
  rcases h with held | dead | consumed
  · by_cases same : recordJsonFilename r.eventId = recordJsonFilename r'.eventId
    · obtain rfl := distinct r r' mem mem' same
      exact .inl (by simp [Table.get?_upsert])
    · exact .inl (by simp [Table.get?_upsert, same, held])
  · exact .inr (.inl dead)
  · exact .inr (.inr consumed)

theorem Sound.withTables (sound : Sound R w)
    (grows : ∀ e, (w.dir.tables.consumed.get? e).isSome → (t.consumed.get? e).isSome) :
    Sound R { w with dir := w.dir.withTables t } where
  files := sound.files
  entries := sound.entries
  reaps name r queue here := grows _ (sound.reaps name r queue here)
  delivered r mem :=
    ⟨(sound.delivered r mem).1, (sound.delivered r mem).2.withTables grows⟩

theorem Sound.journal (distinct : DistinctNames R) (sound : Sound R w) (mem : R r) :
    Sound R (w.journal r) := by
  unfold DeliveryWorld.journal
  split_ifs
  · refine ⟨fun name content held => ?_, sound.entries, sound.reaps, fun r' mem' => ?_⟩
    · simp only [Table.get?_upsert] at held
      split_ifs at held with same
      · cases held
        exact ⟨r, ⟨mem, same⟩, rfl⟩
      · exact sound.files name content held
    · rcases List.mem_cons.mp mem' with rfl | mem'
      · exact ⟨mem, .inl (by simp [Table.get?_upsert])⟩
      · obtain ⟨member, delivered⟩ := sound.delivered r' mem'
        exact ⟨member, delivered.journal distinct member mem⟩
  · exact sound

theorem ScanEffect.sound (distinct : DistinctNames R) (sound : Sound R w)
    (effect : ScanEffect w.pc w.dir o') :
    (∀ name content, o'.files.get? name = some content →
      ∃ r, Filed R name r ∧ content = .record r) ∧
    (∀ e, (w.dir.tables.consumed.get? e).isSome → (o'.tables.consumed.get? e).isSome) ∧
    ∀ r, R r → Delivered w.dir r → Delivered o' r := by
  cases effect with
  | none => exact ⟨sound.files, fun _ h => h, fun _ _ h => h⟩
  | tables grows => exact ⟨sound.files, grows.ledger, fun r _ h => h.withTables grows.ledger⟩
  | @reap name r queue here =>
    have filed : Filed R name r := sound.entries (name, r) (by rw [here]; exact List.mem_cons_self)
    refine ⟨fun n content held => ?_, fun _ h => h, fun r' mem h =>
      h.reap distinct mem filed (sound.reaps name r queue here)⟩
    simp only [Outbox.reap, Table.get?_delete] at held
    split_ifs at held
    exact sound.files n content held
  | quarantine name =>
    refine ⟨fun n content held => ?_, fun e h => ?_, fun r mem h =>
      h.quarantine distinct mem sound.files name⟩
    · unfold Outbox.quarantine at held
      split at held
      · exact sound.files n content held
      · simp only [Table.get?_delete] at held
        split_ifs at held
        exact sound.files n content held
    · rwa [quarantine_tables]

theorem Sound.scan (distinct : DistinctNames R) (sound : Sound R w) (move : ScanMove) :
    Sound R (w.apply (.scan move)) := by
  obtain ⟨files, ledger, delivered⟩ :=
    (scanStep_effect move w.pc w.dir).sound distinct sound
  obtain ⟨entries, reaps⟩ := scanStep_remembers move w.pc w.dir
  refine ⟨files, fun x mem => ?_, fun name r queue here => ?_, fun r mem => ?_⟩
  · rcases entries x mem with old | read
    · exact sound.entries x old
    · obtain ⟨r, filed, same⟩ := sound.files _ _ read
      cases same
      exact filed
  · rcases reaps name r queue here with old | consumed
    · exact ledger _ (sound.reaps name r queue (old.trans here))
    · exact consumed
  · obtain ⟨member, before⟩ := sound.delivered r mem
    exact ⟨member, delivered r member before⟩

theorem Sound.apply (distinct : DistinctNames R) (sound : Sound R w) (admits : Admits R w a) :
    Sound R (w.apply a) := by
  cases a with
  | createTmp | writeTmp | removeTmp =>
    exact ⟨sound.files, sound.entries, sound.reaps, sound.delivered⟩
  | renameTmp r => exact sound.journal distinct admits
  | consume r fault now =>
    dsimp only [DeliveryWorld.apply]
    split
    · rename_i consumed
      exact sound.withTables (consumeRecord_grows consumed).1.ledger
    · exact sound
  | scan move => exact sound.scan distinct move
  | crash =>
    refine ⟨sound.files, fun x mem => ?_, fun _ _ _ here => ?_, sound.delivered⟩
    · cases mem
    · cases here
  | other db => exact sound.withTables fun _ h => h

/-! ## Nothing comes twice -/

theorem ScanEffect.grows (effect : ScanEffect pc o o') : Grows o.tables o'.tables := by
  cases effect with
  | none => exact .refl _
  | tables grows => exact grows
  | reap here => exact .refl _
  | quarantine name =>
    rw [quarantine_tables]
    exact .refl _

theorem apply_grows {R : OutboxRecord → Prop} (admits : Admits R w a) :
    Grows w.dir.tables (w.apply a).dir.tables := by
  cases a with
  | createTmp | writeTmp | removeTmp | crash => exact .refl _
  | renameTmp r =>
    dsimp only [DeliveryWorld.apply, DeliveryWorld.journal]
    split_ifs <;> exact .refl _
  | consume r fault now =>
    dsimp only [DeliveryWorld.apply]
    split
    · rename_i consumed
      exact (consumeRecord_grows consumed).1
    · exact .refl _
  | scan move => exact (scanStep_effect move w.pc w.dir).grows
  | other db => exact ⟨fun _ h => h, fun e => .inl (admits e)⟩

/-- The effect rows of an id that the transition commits. -/
def rowsCommitted (e : String) (t : Transition DeliveryWorld DeliveryAct) : Nat :=
  t.post.dir.tables.effectRows e - t.pre.dir.tables.effectRows e

theorem Grows.rowsCommitted (grows : Grows w.dir.tables w'.dir.tables) (e : String) :
    rowsCommitted e ⟨w, a, w'⟩ = 0 ∨
      rowsCommitted e ⟨w, a, w'⟩ = 1 ∧ w.dir.tables.consumed.get? e = none ∧
        (w'.dir.tables.consumed.get? e).isSome := by
  unfold Outbox.rowsCommitted
  rcases grows.effects e with none | ⟨fresh, consumed, one⟩
  · exact .inl (by dsimp only; omega)
  · exact .inr ⟨by dsimp only; omega, fresh, consumed⟩

/-! ## The theorem -/

/-- Nothing was journalled yet. The tables and `dead/` may hold anything. -/
structure Fresh (w : DeliveryWorld) : Prop where
  files : w.dir.files = .empty
  pc : w.pc = .idle
  journalled : w.journalled = []

theorem Fresh.sound (fresh : Fresh w) (R : OutboxRecord → Prop) : Sound R w where
  files := by simp [fresh.files]
  entries := by simp [fresh.pc, ScanPc.entries]
  reaps := by simp [fresh.pc]
  delivered := by simp [fresh.journalled]

/-- The steps a run of the system may take. -/
def DeliveryWorld.StepOf (R : OutboxRecord → Prop) (w : DeliveryWorld) (a : DeliveryAct)
    (w' : DeliveryWorld) : Prop :=
  Admits R w a ∧ w' = w.apply a

/-- Across any number of crashes, an id gets at most one effect row, and a journalled record
is in the directory, in `dead/` or consumed after every step. -/
theorem delivery_exactlyOnce (R : OutboxRecord → Prop) (distinct : DistinctNames R)
    {w w' : DeliveryWorld} {ts : List (Transition DeliveryWorld DeliveryAct)} (fresh : Fresh w)
    (run : Run (DeliveryWorld.StepOf R) w ts w') :
    (∀ e, (ts.map (rowsCommitted e)).sum ≤ 1) ∧
      ∀ t ∈ ts, ∀ r ∈ t.post.journalled, Delivered t.post.dir r := by
  constructor
  · intro e
    refine (Run.sum_le_one (P := fun w => (w.dir.tables.consumed.get? e).isSome) ?_ ?_ ?_ run).1
    · rintro w a w' ⟨admits, rfl⟩ consumed
      exact (apply_grows admits).ledger e consumed
    · rintro w a w' ⟨admits, rfl⟩ consumed
      rcases (apply_grows admits).rowsCommitted e with none | ⟨-, fresh, -⟩
      · exact none
      · rw [fresh] at consumed
        cases consumed
    · rintro w a w' ⟨admits, rfl⟩
      rcases (apply_grows admits).rowsCommitted e with none | ⟨one, -, consumed⟩
      · exact .inl none
      · exact .inr ⟨one, consumed⟩
  · have step : ∀ w a w', Sound R w → True → DeliveryWorld.StepOf R w a w' → Sound R w' := by
      rintro w a w' sound - ⟨admits, rfl⟩
      exact sound.apply distinct admits
    have everywhere := run.forall_transition (C := fun _ _ => True)
      (P := fun t => Sound R t.post) step step (fresh.sound R) fun _ _ => trivial
    intro t mem r journalled
    exact ((everywhere t mem).delivered r journalled).2

def declaration : OutboxRecord :=
  { eventId := "p", kind := .jobDone, agentId := "a", jobId := some "j" }

/-- A crash comes between the effect of the declaration and the unlink; the next pass
finds the id in the ledger. -/
def crashAfterEffect : List DeliveryAct :=
  [.createTmp declaration, .writeTmp declaration, .renameTmp declaration,
    .scan .start, .scan (.entry "p.json" true), .scan .sort, .scan (.consume none 7), .crash,
    .scan .start, .scan (.entry "p.json" true), .scan .sort, .scan (.consume none 8),
    .scan (.unlink false)]

theorem delivery_exactlyOnce_crash : ∃ (w w' : DeliveryWorld)
    (ts : List (Transition DeliveryWorld DeliveryAct)),
    (Fresh w ∧ Run (DeliveryWorld.StepOf (· = declaration)) w ts w' ∧
      w'.dir.files.get? "p.json" = none ∧ (ts.map (rowsCommitted "p")).sum = 1) ∧
    (∀ e, (ts.map (rowsCommitted e)).sum ≤ 1) ∧
      ∀ t ∈ ts, ∀ r ∈ t.post.journalled, Delivered t.post.dir r := by
  have fresh : Fresh { dir := { tables := { db := Db.empty } } } := ⟨rfl, rfl, rfl⟩
  have distinct : DistinctNames (· = declaration) := fun r r' h h' _ => h.trans h'.symm
  have run := Run.of_list_guarded (f := DeliveryWorld.apply) (C := Admits (· = declaration))
    { dir := { tables := { db := Db.empty } } } crashAfterEffect
    (by simp [crashAfterEffect, Admits])
  refine ⟨_, _, _, ⟨fresh, run, ?_, ?_⟩, delivery_exactlyOnce _ distinct fresh run⟩
  · decide +kernel
  · decide +kernel

end Ccbd.Outbox
