import Mathlib.Data.List.Basic

/-!
# Unix paths

A path is a text; what it names is told by its components. `join` puts a path after
another one the way a push does, and `components` drops empty and `.` segments, so that
two texts of one path have the same components. The system that is given a text also sees how it
ends: `systemPath` keeps that.
-/

namespace Ccbd.Lib.Path

inductive Component where
  | rootDir
  | curDir
  | parentDir
  | normal (name : List Char)
deriving DecidableEq, Repr

def isAbsolute (p : String) : Bool := p.toList.head? = some '/'

/-- An absolute path replaces the one before it. -/
def join (p q : String) : String :=
  if isAbsolute q then q
  else if p.toList = [] ∨ p.toList.getLast? = some '/' then p ++ q
  else p ++ "/" ++ q

/-- What a segment between two separators stands for. -/
def inner (segment : List Char) : List Component :=
  if segment = [] ∨ segment = ['.'] then []
  else if segment = ['.', '.'] then [.parentDir]
  else [.normal segment]

/-- A `.` counts only where the path begins with it. -/
def components (p : String) : List Component :=
  let segments := p.toList.splitOn '/'
  (if isAbsolute p then [.rootDir]
    else if segments.head? = some ['.'] then [.curDir] else []) ++ segments.flatMap inner

/-- What follows the last separator. -/
def lastSegment (p : String) : List Char := (p.toList.splitOn '/').getLast?.getD []

/-- What the system reads: a separator or a `.` at the end asks for a directory. -/
def systemPath (p : String) : List Component :=
  components p ++ if lastSegment p ∈ [[], ['.']] then [.curDir] else []

/-- The components of a relative path, wherever it begins. -/
def segments (p : String) : List Component := (p.toList.splitOn '/').flatMap inner

/-- A path that never goes up. -/
def Descends (p : String) : Prop := ['.', '.'] ∉ p.toList.splitOn '/'

instance (p : String) : Decidable (Descends p) := inferInstanceAs (Decidable (_ ∉ _))

/-- `p` is spelled as a path strictly below `dir`. -/
def SpelledBelow (dir p : String) : Prop :=
  ∃ names : List (List Char), names ≠ [] ∧ components p = components dir ++ names.map .normal

/-- The last component, if it is a name. -/
def fileName (p : String) : Option (List Char) :=
  match (components p).getLast? with
  | some (.normal name) => some name
  | _ => none

/-- What follows the last dot of the file name, unless the name begins with that dot. -/
def extension (p : String) : Option (List Char) :=
  (fileName p).bind fun name =>
    let after := name.reverse.takeWhile (· ≠ '.')
    if after.length + 1 < name.length then some after.reverse else none

/-- `p` is an entry of the directory `dir`. -/
def DirectChild (dir p : String) : Prop :=
  ∃ name, components p = components dir ++ [.normal name]

theorem inner_of_name {segment : List Char} (named : segment ∉ [[], ['.'], ['.', '.']]) :
    inner segment = [.normal segment] := by
  simp only [List.mem_cons, not_or] at named
  simp [inner, named]

theorem head?_splitOn_append (front back : List Char) :
    ((front ++ '/' :: back).splitOn '/').head? = (front.splitOn '/').head? := by
  rw [List.splitOn_append_cons_self]
  cases e : front.splitOn '/' with
  | nil => exact absurd e (List.splitOn_ne_nil _ _)
  | cons => rfl

variable {p q : String}

/-- The components do not depend on whether the separator was there already. -/
theorem components_join (nonempty : p ≠ "") (relative : isAbsolute q = false) :
    components (join p q) = components p ++ (q.toList.splitOn '/').flatMap inner := by
  by_cases slash : p.toList.getLast? = some '/'
  · obtain ⟨front, split⟩ : ∃ front, p.toList = front ++ ['/'] :=
      ⟨_, (List.dropLast_append_getLast? _ slash).symm⟩
    have joined : (join p q).toList = front ++ '/' :: q.toList := by
      simp [join, relative, split]
    have head : (front ++ '/' :: q.toList).head? = (front ++ ['/']).head? := by
      cases front <;> rfl
    simp only [components, isAbsolute, joined, split, head?_splitOn_append]
    simp [List.splitOn_append_cons_self, inner]
  · have chars : p.toList ≠ [] := by simpa using nonempty
    have joined : (join p q).toList = p.toList ++ '/' :: q.toList := by
      simp [join, relative, slash, nonempty]
    have head : (p.toList ++ '/' :: q.toList).head? = p.toList.head? := by
      cases e : p.toList with
      | nil => exact absurd e chars
      | cons => rfl
    simp only [components, isAbsolute, joined, head]
    simp [List.splitOn_append_cons_self]

theorem components_join_relative (nonempty : p ≠ "") (relative : isAbsolute q = false) :
    components (join p q) = components p ++ segments q :=
  components_join nonempty relative

theorem join_absolute (absolute : isAbsolute q = true) : join p q = q :=
  if_pos absolute

theorem exists_eq_map_normal {cs : List Component} :
    (∃ names : List (List Char), cs = names.map .normal) ↔ ∀ c ∈ cs, ∃ name, c = .normal name := by
  induction cs with
  | nil => simp
  | cons c cs ih =>
    rw [List.forall_mem_cons, ← ih]
    constructor
    · rintro ⟨names, e⟩
      cases names with
      | nil => cases e
      | cons name names =>
        cases e
        exact ⟨⟨name, rfl⟩, names, rfl⟩
    · rintro ⟨⟨name, rfl⟩, names, rfl⟩
      exact ⟨name :: names, rfl⟩

/-- Going down is all that a path does whose components are names. -/
theorem descends_iff : Descends p ↔ ∀ c ∈ segments p, ∃ name, c = .normal name := by
  have one (segment : List Char) :
      (∀ c ∈ inner segment, ∃ name, c = .normal name) ↔ segment ≠ ['.', '.'] := by
    unfold inner
    split_ifs with blank up
    · rcases blank with rfl | rfl <;> simp
    · simp [up]
    · simp [up]
  constructor
  · intro notUp c hc
    obtain ⟨segment, mem, hc⟩ := List.mem_flatMap.mp hc
    exact (one segment).mpr (fun up => notUp (up ▸ mem)) c hc
  · intro names up
    exact (one ['.', '.']).mp (fun c hc => names c (List.mem_flatMap.mpr ⟨_, up, hc⟩)) rfl

theorem notMem_of_mem_splitOn {α : Type} [DecidableEq α] {a : α} {xs segment : List α}
    (h : segment ∈ xs.splitOn a) : a ∉ segment := by
  induction xs generalizing segment with
  | nil => simp_all
  | cons x xs ih =>
    rw [List.splitOn_cons_eq_if_modifyHead] at h
    cases e : xs.splitOn a with
    | nil => exact absurd e (List.splitOn_ne_nil _ _)
    | cons first rest =>
      rw [e, List.modifyHead_cons] at h
      grind

theorem isAbsolute_iff : isAbsolute p = true ↔ ∃ rest, p.toList = '/' :: rest := by
  rw [isAbsolute, decide_eq_true_eq, List.head?_eq_some_iff]

theorem head?_components (absolute : isAbsolute p = true) :
    (components p).head? = some .rootDir := by
  simp [components, absolute]

theorem isAbsolute_of_single (single : '/' ∉ p.toList) : isAbsolute p = false := by
  rw [← Bool.not_eq_true, isAbsolute_iff]
  rintro ⟨rest, e⟩
  exact single (by simp [e])

theorem isAbsolute_eq_false (h : [] ∉ p.toList.splitOn '/') : isAbsolute p = false := by
  rw [← Bool.not_eq_true, isAbsolute_iff]
  rintro ⟨rest, e⟩
  exact h (by simp [e, List.splitOn_cons_eq_if_modifyHead])

theorem segments_of_name (single : '/' ∉ p.toList) (named : p.toList ∉ [[], ['.'], ['.', '.']]) :
    segments p = [.normal p.toList] := by
  rw [segments, List.splitOn_eq_singleton single, List.flatMap_singleton, inner_of_name named]

theorem components_join_name (nonempty : p ≠ "") (single : '/' ∉ q.toList) :
    components (join p q) = components p ++ inner q.toList := by
  have relative := isAbsolute_of_single single
  rw [components_join nonempty relative, (List.splitOn_eq_singleton ..)]
  · simp
  · exact single

theorem lastSegment_join (relative : isAbsolute q = false) :
    lastSegment (join p q) = lastSegment q := by
  have after (front : List Char) :
      ((front ++ '/' :: q.toList).splitOn '/').getLast? = (q.toList.splitOn '/').getLast? := by
    rw [List.splitOn_append_cons_self, List.getLast?_append_of_ne_nil _ (List.splitOn_ne_nil _ _)]
  by_cases empty : p.toList = []
  · simp [lastSegment, join, relative, empty]
  by_cases slash : p.toList.getLast? = some '/'
  · have split := List.dropLast_append_getLast? _ slash
    have joined : (join p q).toList = p.toList.dropLast ++ '/' :: q.toList := by
      have pushed : join p q = p ++ q := by simp [join, relative, slash]
      rw [pushed, String.toList_append, ← List.singleton_append, ← List.append_assoc, split]
    rw [lastSegment, joined, after, lastSegment]
  · have joined : (join p q).toList = p.toList ++ '/' :: q.toList := by
      simp [join, relative, slash, empty]
    rw [lastSegment, joined, after, lastSegment]

theorem systemPath_of_name (ends : lastSegment p ∉ [[], ['.']]) : systemPath p = components p := by
  simp [systemPath, ends]

theorem join_ne_empty (nonempty : p ≠ "") (q : String) : join p q ≠ "" := by
  unfold join isAbsolute
  split_ifs with absolute
  · rintro rfl
    simp at absolute
  · simp [nonempty]
  · simp [nonempty]

end Ccbd.Lib.Path
