import Ccbd.Outbox.Consume

/-!
# Cold scan

A pass over an outbox directory: every record file is read, the records are replayed in the
order of their ids, and each file is then removed, moved to `dead/` or left for a later
pass. How often a record was rejected is counted under its `event_id`. The directory is its
files by name, with what the JSON reader makes of their bytes.
-/

namespace Ccbd.Outbox

open Lib Lib.Path

inductive FileContent where
  | record (r : OutboxRecord)
  | unparsable (err : String)
deriving DecidableEq, Repr

structure OutboxDir where
  tables : OutboxTables
  files : Table String FileContent := .empty
  dead : Table String FileContent := .empty

def maxApplyAttempts : Int := 3

structure ScanReport where
  scanned : Nat := 0
  consumed : Nat := 0
  duplicates : Nat := 0
  quarantined : Nat := 0
  retryDeferred : Nat := 0
deriving DecidableEq, Repr

/-- What SQLite answers during a pass: an error for the transaction of a record, and
whether the counter can be written and read. -/
structure ScanEnv where
  fault : OutboxRecord → Option String := fun _ => none
  writeFails : OutboxRecord → Bool := fun _ => false
  readFails : OutboxRecord → Bool := fun _ => false
  now : Int

def isScannableJson (name : String) : Bool := extension name = some "json".toList

variable (env : ScanEnv) (o : OutboxDir)

def reap (name : String) : OutboxDir := { o with files := o.files.delete name }

def quarantine (name : String) : OutboxDir :=
  match o.files.get? name with
  | none => o
  | some content => { o with files := o.files.delete name, dead := o.dead.upsert name content }

/-- The number of rejections on record. -/
def OutboxTables.attempts (t : OutboxTables) (eventId : String) : Int :=
  (t.applyFailures.get? eventId).elim 0 (·.attempts)

/-- Errors are swallowed: a row that was not written is not counted, one that cannot be
read counts as none. -/
def bumpApplyFailure (t : OutboxTables) (r : OutboxRecord) (err : String) : Int × OutboxTables :=
  let t := if env.writeFails r then t
    else { t with
      applyFailures := t.applyFailures.upsert r.eventId ⟨t.attempts r.eventId + 1, err, env.now⟩ }
  (if env.readFails r then 0 else t.attempts r.eventId, t)

def clearApplyFailure (t : OutboxTables) (r : OutboxRecord) : OutboxTables :=
  if env.writeFails r then t
  else { t with applyFailures := t.applyFailures.delete r.eventId }

/-- What became of a record in a pass. -/
inductive Disposition where
  | consumed
  | duplicate
  | quarantined
  | retryDeferred
deriving DecidableEq, Repr

def ScanReport.add (report : ScanReport) : Disposition → ScanReport
  | .consumed => { report with consumed := report.consumed + 1 }
  | .duplicate => { report with duplicates := report.duplicates + 1 }
  | .quarantined => { report with quarantined := report.quarantined + 1 }
  | .retryDeferred => { report with retryDeferred := report.retryDeferred + 1 }

def OutboxDir.withTables (tables : OutboxTables) : OutboxDir :=
  { o with tables := tables }

/-- A record that the database rejected. -/
def deferOrQuarantine (name : String) (r : OutboxRecord) (err : String) : Disposition × OutboxDir :=
  let (attempts, tables) := bumpApplyFailure env o.tables r err
  if maxApplyAttempts ≤ attempts then
    (.quarantined, (quarantine o name).withTables (clearApplyFailure env tables r))
  else (.retryDeferred, o.withTables tables)

/-- The replay of one record. -/
def replayRecord (name : String) (r : OutboxRecord) : Disposition × OutboxDir :=
  match consumeRecord (env.fault r) o.tables r env.now with
  | .ok (.firstSeen, tables) =>
    (.consumed, (reap o name).withTables (clearApplyFailure env tables r))
  | .ok (.duplicate, tables) =>
    (.duplicate, (reap o name).withTables (clearApplyFailure env tables r))
  | .error (.malformed _) => (.quarantined, quarantine o name)
  | .error (.db err) => deferOrQuarantine env o name r err

/-- The enumeration: records are collected, what is none goes to `dead/`. -/
def enumerate (acc : ScanReport × List (String × OutboxRecord) × OutboxDir)
    (entry : String × FileContent) : ScanReport × List (String × OutboxRecord) × OutboxDir :=
  let (report, parsed, o) := acc
  if isScannableJson entry.1 then
    let report := { report with scanned := report.scanned + 1 }
    match entry.2 with
    | .record r => (report, parsed ++ [(entry.1, r)], o)
    | .unparsable _ =>
      ({ report with quarantined := report.quarantined + 1 }, parsed, quarantine o entry.1)
  else acc

def byEventId (x y : String × OutboxRecord) : Prop := x.2.eventId ≤ y.2.eventId

instance : DecidableRel byEventId := fun _ _ => inferInstanceAs (Decidable (_ ≤ _))

def replayStep (acc : ScanReport × OutboxDir) (entry : String × OutboxRecord) :
    ScanReport × OutboxDir :=
  let (d, o) := replayRecord env acc.2 entry.1 entry.2
  (acc.1.add d, o)

def coldScanDir : ScanReport × OutboxDir :=
  let (report, parsed, o) := o.files.rows.foldl enumerate ({}, [], o)
  (parsed.insertionSort byEventId).foldl (replayStep env) (report, o)

variable {env o}

/-! ## The enumeration -/

/-- The records of the directory, in the order of the listing. -/
def parsedRecords (rows : List (String × FileContent)) : List (String × OutboxRecord) :=
  rows.filterMap fun row =>
    match row.2 with
    | .record r => if isScannableJson row.1 then some (row.1, r) else none
    | .unparsable _ => none

/-- The names of the files that are no records. -/
def unparsableNames (rows : List (String × FileContent)) : List String :=
  rows.filterMap fun row =>
    match row.2 with
    | .record _ => none
    | .unparsable _ => if isScannableJson row.1 then some row.1 else none

theorem foldl_enumerate (rows : List (String × FileContent)) (report : ScanReport)
    (parsed : List (String × OutboxRecord)) (o : OutboxDir) :
    rows.foldl enumerate (report, parsed, o) =
      ({ report with
          scanned := report.scanned + (parsedRecords rows).length + (unparsableNames rows).length
          quarantined := report.quarantined + (unparsableNames rows).length },
        parsed ++ parsedRecords rows, (unparsableNames rows).foldl quarantine o) := by
  induction rows generalizing report parsed o with
  | nil => simp [parsedRecords, unparsableNames]
  | cons row rows ih =>
    obtain ⟨name, content⟩ := row
    rw [List.foldl_cons]
    by_cases scannable : isScannableJson name
    · cases content with
      | record r | unparsable err =>
        simp only [enumerate]
        rw [ih]
        simp [parsedRecords, unparsableNames, scannable]
        omega
    · simp only [enumerate]
      rw [ih]
      cases content <;> simp [parsedRecords, unparsableNames, scannable]

/-! ## Tables and files apart -/

/-- What a pass does with the tables for one record. -/
def judge (env : ScanEnv) (t : OutboxTables) (r : OutboxRecord) : Disposition × OutboxTables :=
  match consumeRecord (env.fault r) t r env.now with
  | .ok (.firstSeen, t) => (.consumed, clearApplyFailure env t r)
  | .ok (.duplicate, t) => (.duplicate, clearApplyFailure env t r)
  | .error (.malformed _) => (.quarantined, t)
  | .error (.db err) =>
    let (attempts, t) := bumpApplyFailure env t r err
    if maxApplyAttempts ≤ attempts then (.quarantined, clearApplyFailure env t r)
    else (.retryDeferred, t)

/-- What a pass does with the file of a record. -/
def settleFile (o : OutboxDir) (name : String) : Disposition → OutboxDir
  | .consumed | .duplicate => reap o name
  | .quarantined => quarantine o name
  | .retryDeferred => o

@[simp] theorem withTables_self (o : OutboxDir) : o.withTables o.tables = o := rfl

@[simp] theorem quarantine_tables (o : OutboxDir) (name : String) :
    (quarantine o name).tables = o.tables := by
  unfold quarantine
  split <;> rfl

theorem replayRecord_eq (env : ScanEnv) (o : OutboxDir) (name : String) (r : OutboxRecord) :
    replayRecord env o name r =
      ((judge env o.tables r).1,
        (settleFile o name (judge env o.tables r).1).withTables (judge env o.tables r).2) := by
  unfold replayRecord judge deferOrQuarantine
  split
  · rfl
  · rfl
  · have kept := withTables_self (quarantine o name)
    rw [quarantine_tables] at kept
    simp [settleFile, kept]
  · dsimp only
    split <;> rfl

/-- What becomes of the records of a queue, in its order. -/
def outcomes (env : ScanEnv) : OutboxTables → List (String × OutboxRecord) →
    List (String × Disposition)
  | _, [] => []
  | t, x :: queue => (x.1, (judge env t x.2).1) :: outcomes env (judge env t x.2).2 queue

/-- The tables after the queue. -/
def judgeAll (env : ScanEnv) (t : OutboxTables) (queue : List (String × OutboxRecord)) :
    OutboxTables :=
  queue.foldl (fun t x => (judge env t x.2).2) t

def settleFiles (o : OutboxDir) (results : List (String × Disposition)) : OutboxDir :=
  results.foldl (fun o x => settleFile o x.1 x.2) o

theorem settleFile_withTables (o : OutboxDir) (t : OutboxTables) (name : String) (d : Disposition) :
    settleFile (o.withTables t) name d = (settleFile o name d).withTables t := by
  cases d <;> try rfl
  simp only [settleFile, quarantine, OutboxDir.withTables]
  split <;> rfl

theorem settleFiles_withTables (results : List (String × Disposition)) (o : OutboxDir)
    (t : OutboxTables) :
    settleFiles (o.withTables t) results = (settleFiles o results).withTables t := by
  induction results generalizing o with
  | nil => rfl
  | cons x results ih =>
    show settleFiles (settleFile (o.withTables t) x.1 x.2) results = _
    rw [settleFile_withTables, ih]
    rfl

/-- The replay of a queue: the report counts the outcomes, and files and tables follow
them. -/
theorem foldl_replayStep (env : ScanEnv) (queue : List (String × OutboxRecord))
    (report : ScanReport) (o : OutboxDir) :
    queue.foldl (replayStep env) (report, o) =
      ((outcomes env o.tables queue).foldl (fun report x => report.add x.2) report,
        (settleFiles o (outcomes env o.tables queue)).withTables
          (judgeAll env o.tables queue)) := by
  induction queue generalizing report o with
  | nil => rfl
  | cons x queue ih =>
    have first : replayStep env (report, o) x =
        (report.add (judge env o.tables x.2).1,
          (settleFile o x.1 (judge env o.tables x.2).1).withTables (judge env o.tables x.2).2) := by
      simp [replayStep, replayRecord_eq]
    rw [List.foldl_cons, first, ih, settleFiles_withTables]
    rfl

/-- The records of the directory in the order of the replay. -/
def replayQueue (o : OutboxDir) : List (String × OutboxRecord) :=
  (parsedRecords o.files.rows).insertionSort byEventId

theorem foldl_quarantine_tables (names : List String) (o : OutboxDir) :
    (names.foldl quarantine o).tables = o.tables := by
  induction names generalizing o with
  | nil => rfl
  | cons name names ih => rw [List.foldl_cons, ih, quarantine_tables]

theorem coldScanDir_eq (env : ScanEnv) (o : OutboxDir) :
    coldScanDir env o =
      ((outcomes env o.tables (replayQueue o)).foldl (fun report x => report.add x.2)
          { scanned := (parsedRecords o.files.rows).length + (unparsableNames o.files.rows).length
            quarantined := (unparsableNames o.files.rows).length },
        (settleFiles ((unparsableNames o.files.rows).foldl quarantine o)
          (outcomes env o.tables (replayQueue o))).withTables
          (judgeAll env o.tables (replayQueue o))) := by
  unfold coldScanDir
  rw [foldl_enumerate]
  simp only [Nat.zero_add]
  rw [foldl_replayStep, foldl_quarantine_tables]
  rfl

/-! ## The report -/

/-- The files a report accounts for. -/
def ScanReport.handled (report : ScanReport) : Nat :=
  report.consumed + report.duplicates + report.quarantined + report.retryDeferred

theorem foldl_add (results : List (String × Disposition)) (report : ScanReport) :
    (results.foldl (fun report x => report.add x.2) report).scanned = report.scanned ∧
      (results.foldl (fun report x => report.add x.2) report).handled =
        report.handled + results.length := by
  induction results generalizing report with
  | nil => exact ⟨rfl, rfl⟩
  | cons x results ih =>
    obtain ⟨scanned, handled⟩ := ih (report.add x.2)
    rw [List.foldl_cons, scanned, handled, List.length_cons]
    cases x.2 <;> simp [ScanReport.add, ScanReport.handled] <;> omega

theorem length_outcomes (env : ScanEnv) (t : OutboxTables) (queue : List (String × OutboxRecord)) :
    (outcomes env t queue).length = queue.length := by
  induction queue generalizing t with
  | nil => rfl
  | cons x queue ih => simp [outcomes, ih]

theorem coldScanDir_accounts (env : ScanEnv) (o : OutboxDir) :
    (coldScanDir env o).1.scanned = (coldScanDir env o).1.handled := by
  rw [coldScanDir_eq]
  obtain ⟨scanned, handled⟩ := foldl_add (outcomes env o.tables (replayQueue o))
    { scanned := (parsedRecords o.files.rows).length + (unparsableNames o.files.rows).length
      quarantined := (unparsableNames o.files.rows).length }
  rw [scanned, handled, length_outcomes, replayQueue, List.length_insertionSort]
  simp [ScanReport.handled]
  omega

end Ccbd.Outbox
