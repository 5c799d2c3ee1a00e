import Ccbd.Lib.Json
import Ccbd.Lib.Path
import Mathlib.Data.List.Forall2

/-!
# Outbox records and their files

A record is stored as a file of its agent's outbox directory, under a name made of its
`event_id`. Both the directory and the file are named by ids from outside, with the
characters replaced that cannot stand in a file name.
-/

namespace Ccbd.Outbox

open Lib Lib.Path

inductive OutboxKind where
  | hookEvent
  | jobDone
  | jobFail
  | selfcheck
deriving DecidableEq, Repr

def OutboxKind.asStr : OutboxKind → String
  | hookEvent => "hook_event"
  | jobDone => "job_done"
  | jobFail => "job_fail"
  | selfcheck => "selfcheck"

/-- `hook_fired_at` and `payload` are carried along and never read. -/
structure OutboxRecord where
  eventId : String
  kind : OutboxKind
  agentId : String
  provider : Option String := none
  event : Option String := none
  attemptCookie : Option String := none
  jobId : Option String := none
  replyText : Option String := none
  reason : Option String := none
deriving DecidableEq, Repr

/-! ## Paths -/

/-- `char::is_control`. -/
def isControl (ch : Char) : Bool := ch.toNat < 0x20 || (0x7F ≤ ch.toNat && ch.toNat ≤ 0x9F)

def isUnsafe (ch : Char) : Bool := ch = '/' || ch = '\\' || ch = '\x00' || isControl ch

def sanitizePathComponent (raw : String) : String :=
  String.ofList (raw.toList.map fun ch => if isUnsafe ch then '_' else ch)

def outboxRoot (stateDir : String) : String := join stateDir "outbox"

def outboxDirForAgent (stateDir agentId : String) : String :=
  join (outboxRoot stateDir) (sanitizePathComponent agentId)

def recordJsonFilename (eventId : String) : String := sanitizePathComponent eventId ++ ".json"

/-- Where `journal_record` puts the record of `eventId`. -/
def finalPath (outboxDir eventId : String) : String := join outboxDir (recordJsonFilename eventId)

/-- The file a record of the agent is journalled to. -/
def recordPath (stateDir agentId eventId : String) : String :=
  finalPath (outboxDirForAgent stateDir agentId) eventId

/-! ## What the replacement keeps apart -/

/-- Two characters that come out the same. -/
def Confusable (c d : Char) : Prop :=
  c = d ∨ (isUnsafe c ∨ c = '_') ∧ (isUnsafe d ∨ d = '_')

/-- Two ids that come out the same. -/
def SameName (a b : String) : Prop := List.Forall₂ Confusable a.toList b.toList

theorem not_isUnsafe_underscore : isUnsafe '_' = false := by decide

theorem confusable_iff :
    (if isUnsafe c then '_' else c) = (if isUnsafe d then '_' else d) ↔ Confusable c d := by
  unfold Confusable
  constructor
  · grind
  · rintro (rfl | ⟨hc | rfl, hd | rfl⟩) <;> grind [not_isUnsafe_underscore]

theorem sanitize_eq_iff :
    sanitizePathComponent a = sanitizePathComponent b ↔ SameName a b := by
  unfold sanitizePathComponent SameName
  rw [String.ofList_inj, ← List.forall₂_eq_eq_eq, List.forall₂_map_left_iff,
    List.forall₂_map_right_iff]
  simp [confusable_iff]

theorem slash_not_mem_sanitize (a : String) : '/' ∉ (sanitizePathComponent a).toList := by
  simp only [sanitizePathComponent, String.toList_ofList, List.mem_map, not_exists, not_and]
  intro ch _
  split
  · decide
  · rename_i safe
    rintro rfl
    exact safe (by decide)

theorem sanitize_eq_dots_iff (only : ∀ ch ∈ dots, ch = '.') :
    (sanitizePathComponent a).toList = dots ↔ a.toList = dots := by
  simp only [sanitizePathComponent, String.toList_ofList]
  generalize a.toList = chars
  induction chars generalizing dots with
  | nil => rfl
  | cons ch rest ih =>
    cases dots with
    | nil => simp
    | cons dot dots =>
      obtain rfl : dot = '.' := only dot List.mem_cons_self
      have head : (if isUnsafe ch then '_' else ch) = '.' ↔ ch = '.' := by
        constructor
        · grind
        · rintro rfl
          decide
      rw [List.map_cons, List.cons.injEq, List.cons.injEq, head,
        ih fun ch mem => only ch (List.mem_cons_of_mem _ mem)]

/-! ## Confinement -/

theorem outboxRoot_ne_empty (stateDir : String) : outboxRoot stateDir ≠ "" := by
  unfold outboxRoot join
  split_ifs with absolute <;> simp

theorem components_outboxDirForAgent (stateDir agentId : String) :
    components (outboxDirForAgent stateDir agentId) =
      components (outboxRoot stateDir) ++ inner (sanitizePathComponent agentId).toList :=
  components_join_name (outboxRoot_ne_empty stateDir) (slash_not_mem_sanitize agentId)

/-- The ids that do not name a directory of their own. -/
def IsDots (agentId : String) : Prop := agentId = "" ∨ agentId = "." ∨ agentId = ".."

theorem inner_sanitize (agentId : String) :
    inner (sanitizePathComponent agentId).toList =
      if agentId = "" ∨ agentId = "." then []
      else if agentId = ".." then [.parentDir]
      else [.normal (sanitizePathComponent agentId).toList] := by
  have empty : (sanitizePathComponent agentId).toList = [] ↔ agentId = "" := by
    rw [sanitize_eq_dots_iff (by simp), String.toList_eq_nil_iff]
  have dot : (sanitizePathComponent agentId).toList = ['.'] ↔ agentId = "." := by
    rw [sanitize_eq_dots_iff (by simp), ← String.toList_inj]
    rfl
  have dots : (sanitizePathComponent agentId).toList = ['.', '.'] ↔ agentId = ".." := by
    rw [sanitize_eq_dots_iff (by simp), ← String.toList_inj]
    rfl
  simp [Path.inner, empty, dot, dots]

theorem directChild_outboxDirForAgent_iff :
    DirectChild (outboxRoot stateDir) (outboxDirForAgent stateDir agentId) ↔ ¬IsDots agentId := by
  unfold DirectChild IsDots
  rw [components_outboxDirForAgent, inner_sanitize]
  simp only [List.append_cancel_left_eq]
  split_ifs <;> grind

theorem inner_recordJsonFilename (eventId : String) :
    inner (recordJsonFilename eventId).toList = [.normal (recordJsonFilename eventId).toList] := by
  -- the name ends in the letter n
  have last : (recordJsonFilename eventId).toList.getLast? = some 'n' := by
    simp [recordJsonFilename]
  have named : (recordJsonFilename eventId).toList ∉ [[], ['.'], ['.', '.']] := by
    intro mem
    simp only [List.mem_cons, List.not_mem_nil, or_false] at mem
    rcases mem with e | e | e <;> simp [e] at last
  exact inner_of_name named

theorem components_finalPath (nonempty : outboxDir ≠ "") (eventId : String) :
    components (finalPath outboxDir eventId) =
      components outboxDir ++ [.normal (recordJsonFilename eventId).toList] := by
  have single : '/' ∉ (recordJsonFilename eventId).toList := by
    simp [recordJsonFilename, slash_not_mem_sanitize]
  rw [finalPath, components_join_name nonempty single, inner_recordJsonFilename]

theorem components_recordPath (stateDir agentId eventId : String) :
    components (recordPath stateDir agentId eventId) =
      components (outboxRoot stateDir) ++ inner (sanitizePathComponent agentId).toList ++
        [.normal (recordJsonFilename eventId).toList] := by
  have nonempty : outboxDirForAgent stateDir agentId ≠ "" :=
    join_ne_empty (outboxRoot_ne_empty stateDir) (sanitizePathComponent agentId)
  rw [recordPath, components_finalPath nonempty, components_outboxDirForAgent]

/-- Two texts of one path. -/
def SamePath (p q : String) : Prop := components p = components q

/-- With a directory of its own on one side, a shared path means shared names. -/
theorem samePath_recordPath_iff (named : ¬IsDots a) :
    SamePath (recordPath stateDir a e) (recordPath stateDir a' e') ↔
      SameName a a' ∧ SameName e e' := by
  simp only [IsDots] at named
  have file : recordJsonFilename e = recordJsonFilename e' ↔ SameName e e' := by
    rw [recordJsonFilename, recordJsonFilename, String.append_left_inj, sanitize_eq_iff]
  have dir : inner (sanitizePathComponent a).toList = inner (sanitizePathComponent a').toList ↔
      SameName a a' := by
    rw [← sanitize_eq_iff]
    constructor
    · intro same
      rw [inner_sanitize, inner_sanitize] at same
      split_ifs at same <;> grind [String.toList_inj]
    · intro same
      rw [same]
  unfold SamePath
  rw [components_recordPath, components_recordPath, ← dir, ← file]
  constructor
  · intro same
    have parts := List.append_inj' same (by simp)
    simp only [List.append_cancel_left_eq, List.cons.injEq, Component.normal.injEq,
      String.toList_inj, and_true] at parts
    exact parts
  · rintro ⟨sameDir, sameFile⟩
    rw [sameDir, sameFile]

/-- The directory of the agent is an entry of the outbox root, and the record's file one of
that directory. -/
structure Confined (stateDir agentId eventId : String) : Prop where
  dir : DirectChild (outboxRoot stateDir) (outboxDirForAgent stateDir agentId)
  file : DirectChild (outboxDirForAgent stateDir agentId) (recordPath stateDir agentId eventId)

theorem directChild_recordPath (stateDir agentId eventId : String) :
    DirectChild (outboxDirForAgent stateDir agentId) (recordPath stateDir agentId eventId) := by
  have path := components_recordPath stateDir agentId eventId
  rw [← components_outboxDirForAgent] at path
  exact ⟨_, path⟩

theorem confined_iff :
    Confined stateDir agentId eventId ↔ ¬IsDots agentId := by
  constructor
  · intro confined
    exact directChild_outboxDirForAgent_iff.mp confined.dir
  · intro named
    exact ⟨directChild_outboxDirForAgent_iff.mpr named, directChild_recordPath ..⟩

/-- The first record has a confined path, and the second one another path unless it has
the same ids. -/
def KeepsPaths (stateDir : String) (r r' : String × String) : Prop :=
  Confined stateDir r.1 r.2 ∧
    (r ≠ r' → ¬SamePath (recordPath stateDir r.1 r.2) (recordPath stateDir r'.1 r'.2))

/-- Paths are confined and apart exactly if the agent id names a directory and the ids of
the two records differ in more than the characters that are replaced. -/
theorem keepsPaths_iff (stateDir : String) (r r' : String × String) :
    KeepsPaths stateDir r r' ↔
      ¬IsDots r.1 ∧ (r ≠ r' → ¬(SameName r.1 r'.1 ∧ SameName r.2 r'.2)) := by
  unfold KeepsPaths
  rw [confined_iff]
  constructor
  · rintro ⟨named, apart⟩
    exact ⟨named, fun other same => apart other ((samePath_recordPath_iff named).mpr same)⟩
  · rintro ⟨named, apart⟩
    exact ⟨named, fun other same => apart other ((samePath_recordPath_iff named).mp same)⟩

/-- The agents `a/b` and `a_b` share a directory. -/
theorem not_keepsPaths_slash :
    ¬∀ (stateDir : String) (r r' : String × String), KeepsPaths stateDir r r' := by
  intro kept
  have apart := (kept "/run/ah" ("a/b", "e1") ("a_b", "e1")).2 (by decide)
  exact apart (by unfold SamePath; decide +kernel)

end Ccbd.Outbox
