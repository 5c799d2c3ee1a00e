import Ccbd.Lib.Path
import Ccbd.Lib.Procedure
import Mathlib.Data.List.Induction

/-!
# A file system with symbolic links

A location is the list of names from the root; what stands there is a directory, a file or a
link. A path is a text, and where it leads depends on the links on its way: `resolve` follows
them all, `entry` all but one in the last place, unless the path asks for a directory there.

The operations change one location each and write it to a log, whether or not the system then
refuses the change.

`Clear` says that no link stands on the way to a location. A path that spells such a location
out leads there and nowhere else.
-/

namespace Ccbd.Lib

open Ccbd.Lib.Path

/-- The names from the root. -/
abbrev Location := List (List Char)

inductive Node where
  | dir
  | file
  | link (target : String)
deriving DecidableEq, Repr

/-- What stands at each location. Relative paths begin at the working directory. -/
structure FileTree where
  node : Location → Option Node
  cwd : Location

inductive Change where
  | mkdir
  | unlink
  | removeTree
  | symlink (target : String)
deriving DecidableEq, Repr

namespace FileTree

/-- The root is a directory. -/
def at? (t : FileTree) (l : Location) : Option Node := if l = [] then some .dir else t.node l

/-- Where the components lead from a directory; `follow` goes on at a link. -/
def walkWith (t : FileTree) (follow : Location → String → List Component → Option Location) :
    Location → List Component → Option Location
  | here, [] => some here
  | _, .rootDir :: rest => t.walkWith follow [] rest
  | here, .curDir :: rest => t.walkWith follow here rest
  | here, .parentDir :: rest => t.walkWith follow here.dropLast rest
  | here, .normal name :: rest =>
    match t.at? (here ++ [name]) with
    | some .dir => t.walkWith follow (here ++ [name]) rest
    | some .file => if rest = [] then some (here ++ [name]) else none
    | some (.link target) => follow here target rest
    | none => none

/-- Follows at most the given number of links. -/
def walk (t : FileTree) : Nat → Location → List Component → Option Location
  | 0 => t.walkWith fun _ _ _ => none
  | links + 1 => t.walkWith fun here target rest => t.walk links here (systemPath target ++ rest)

def resolve (t : FileTree) (path : List Component) : Option Location := t.walk 40 t.cwd path

/-- The location that the last component names in its directory. -/
def entry (t : FileTree) (path : List Component) : Option Location :=
  match path.getLast? with
  | some (.normal name) =>
    (t.resolve path.dropLast).bind fun dir =>
      if t.at? dir = some .dir then some (dir ++ [name]) else none
  | _ => t.resolve path

def isDir (t : FileTree) (path : List Component) : Bool :=
  (t.resolve path).bind t.at? = some .dir

def isFile (t : FileTree) (path : List Component) : Bool :=
  (t.resolve path).bind t.at? = some .file

def isSymlink (t : FileTree) (path : List Component) : Bool :=
  match (t.entry path).bind t.at? with
  | some (.link _) => true
  | _ => false

def set (t : FileTree) (l : Location) (n : Option Node) : FileTree :=
  { t with node := fun m => if m = l then n else t.node m }

def prune (t : FileTree) (l : Location) : FileTree :=
  { t with node := fun m => if l.isPrefixOf m then none else t.node m }

def apply (t : FileTree) (l : Location) : Change → FileTree
  | .mkdir => t.set l (some .dir)
  | .unlink => t.set l none
  | .removeTree => t.prune l
  | .symlink target => t.set l (some (.link target))

end FileTree

/-! ## Operations -/

/-- The tree, and the changes made or tried so far. -/
structure Disk where
  tree : FileTree
  log : List (Change × Location)

inductive IoError where
  | notFound
  | alreadyExists
  | notDirectory
  | invalid
  | notEmpty
  | denied (text : String)

def IoError.text : IoError → String
  | notFound => "No such file or directory (os error 2)"
  | alreadyExists => "File exists (os error 17)"
  | notDirectory => "Not a directory (os error 20)"
  | invalid => "Invalid argument (os error 22)"
  | notEmpty => "Directory not empty (os error 39)"
  | denied text => text

namespace Disk

/-- The directory of a path, for one that is neither empty nor the root. -/
def parent (path : List Component) : Option (List Component) :=
  match path.getLast? with
  | none | some .rootDir => none
  | _ => some path.dropLast

variable (denies : Change → Location → Option String)

/-- The system may refuse the change. -/
def change (c : Change) (l : Location) : EStateM IoError Disk Unit :=
  ofStep fun d =>
    let log := d.log ++ [(c, l)]
    match denies c l with
    | some text => (.error (.denied text), { d with log })
    | none => (.ok (), { tree := d.tree.apply l c, log })

/-- A change at the location that a path names, if the way there exists. -/
def changeEntry (c : Change) (path : List Component) : EStateM IoError Disk Unit := do
  match (← get).tree.entry path with
  | none => throw .notFound
  | some l => change denies c l

/-- A new entry where none is. -/
def create (c : Change) (path : List Component) : EStateM IoError Disk Unit := do
  let tree := (← get).tree
  if ((tree.entry path).bind tree.at?).isSome then throw .alreadyExists
  changeEntry denies c path

/-- An error that does not matter if the directory is there. -/
def unlessDir (path : List Component) (err : IoError) : EStateM IoError Disk Unit := do
  if (← get).tree.isDir path then pure () else throw err

/-- `fs::create_dir_all`; the path is given from its end. -/
def createDirAll : List Component → EStateM IoError Disk Unit
  | [] => pure ()
  | c :: front => do
    let path := (c :: front).reverse
    match ← attempt (create denies .mkdir path) with
    | .ok () => pure ()
    | .error .notFound =>
      createDirAll front
      match ← attempt (create denies .mkdir path) with
      | .ok () => pure ()
      | .error err => unlessDir path err
    | .error err => unlessDir path err

def removeFile (path : List Component) : EStateM IoError Disk Unit :=
  changeEntry denies .unlink path

/-- What the system says to the removal of an emptied directory: one that is not named by the
last segment stays, and so does a link that a separator at the end has led through. -/
def rmdir (p : String) : EStateM IoError Disk Unit := do
  match lastSegment p with
  | [] => if (← get).tree.isSymlink (components p) then throw .notDirectory else pure ()
  | ['.'] => throw .invalid
  | ['.', '.'] => throw .notEmpty
  | _ => pure ()

def removeDirAll (p : String) : EStateM IoError Disk Unit := do
  changeEntry denies .removeTree (systemPath p)
  rmdir p

def symlink (target : String) (path : List Component) : EStateM IoError Disk Unit :=
  create denies (.symlink target) path

end Disk

/-! ## Paths that spell a location out -/

namespace FileTree

variable {t : FileTree} {l m : Location} {c : Change}

/-- No link stands at a location or above it. -/
def Clear (t : FileTree) (l : Location) : Prop :=
  ∀ m, m <+: l → ∀ target, t.at? m ≠ some (.link target)

/-- The absolute path of a location. -/
def spell (l : Location) : List Component := .rootDir :: l.map .normal

theorem walkWith_names {follow : Location → String → List Component → Option Location}
    {here names : Location} (clear : t.Clear (here ++ names))
    (h : t.walkWith follow here (names.map .normal) = some m) : m = here ++ names := by
  induction names generalizing here with
  | nil => simpa [walkWith] using h.symm
  | cons name names ih =>
    have whole : here ++ name :: names = here ++ [name] ++ names := by simp
    simp only [List.map_cons, walkWith] at h
    split at h
    · rw [whole] at clear ⊢
      exact ih clear h
    · split at h
      · rename_i last
        cases h
        simp [List.map_eq_nil_iff.mp last]
      · cases h
    · rename_i link
      exact absurd link (clear _ (whole ▸ List.prefix_append _ _) _)
    · cases h

theorem resolve_spell (clear : t.Clear l) (h : t.resolve (spell l) = some m) : m = l := by
  have clear' : t.Clear ([] ++ l) := clear
  simpa [walkWith] using walkWith_names clear' h

theorem spell_concat (front : Location) (name : List Char) :
    spell (front ++ [name]) = spell front ++ [.normal name] := by
  simp [spell]

theorem entry_spell (clear : t.Clear l.dropLast) (h : t.entry (spell l) = some m) : m = l := by
  rcases List.eq_nil_or_concat' l with rfl | ⟨front, name, rfl⟩
  · exact resolve_spell clear h
  · rw [List.dropLast_concat] at clear
    simp only [entry, spell_concat, List.getLast?_concat, List.dropLast_concat,
      Option.bind_eq_some_iff] at h
    obtain ⟨found, resolved, h⟩ := h
    cases resolve_spell clear resolved
    split at h
    · exact (Option.some.inj h).symm
    · cases h

theorem at?_apply_of_not_above (apart : ¬ l <+: m) : (t.apply l c).at? m = t.at? m := by
  have ne : m ≠ l := by
    rintro rfl
    exact apart (List.prefix_refl _)
  cases c <;> simp [at?, apply, set, prune, ne, apart]

/-- A link that is there after a change was there before, or has just been made. -/
theorem at?_apply_link {target : String} (h : (t.apply l c).at? m = some (.link target)) :
    t.at? m = some (.link target) ∨ c = .symlink target ∧ m = l := by
  unfold at? at *
  cases c <;> grind [apply, set, prune]

end FileTree

/-! ## The directories on the way to a location -/

namespace Disk

open FileTree

variable {denies : Change → Location → Option String} {l : Location}

theorem preserves_createDirAll_cons {I : Disk → Prop} {c : Component} {front : List Component}
    (here : Preserves I (Disk.create denies .mkdir (c :: front).reverse))
    (above : Preserves I (createDirAll denies front)) :
    Preserves I (createDirAll denies (c :: front)) := by
  have settle (err : IoError) : Preserves I (unlessDir (c :: front).reverse err) := by
    intro d h
    simp only [unlessDir, ends_bind, ends_get]
    split <;> exact h
  refine here.attempt.bind fun r => ?_
  cases r with
  | ok => exact .pure ()
  | error err =>
    cases err with
    | notFound =>
      refine above.bind fun _ => here.attempt.bind fun r => ?_
      cases r with
      | ok => exact .pure ()
      | error err => exact settle err
    | _ => exact settle _

theorem preserves_createDirAll_spell {I : Disk → Prop}
    (made : ∀ front, front <+: l → Preserves I (Disk.create denies .mkdir (spell front))) :
    Preserves I (createDirAll denies (spell l).reverse) := by
  induction l using List.reverseRecOn with
  | nil => exact preserves_createDirAll_cons (made _ (List.prefix_refl _)) (.pure ())
  | append_singleton front name ih =>
    have here := made _ (List.prefix_refl _)
    rw [spell_concat, List.reverse_concat]
    refine preserves_createDirAll_cons ?_
      (ih fun _ above => made _ (above.trans (List.prefix_append _ _)))
    rwa [← List.reverse_concat, List.reverse_reverse, ← spell_concat]

end Disk

/-! ## Staying below a directory -/

namespace Disk

open FileTree

variable {denies : Change → Location → Option String} {home l m : Location}
  {targets : List Location} {c : Change}

/-- `l` lies strictly below the directory. -/
def Below (home l : Location) : Prop := home <+: l ∧ l ≠ home

instance (home l : Location) : Decidable (Below home l) := inferInstanceAs (Decidable (_ ∧ _))

theorem Below.length_lt (h : Below home l) : home.length < l.length :=
  Nat.lt_of_le_of_ne h.1.length_le fun same => h.2 (h.1.eq_of_length same).symm

/-- Of two locations on the way to a third, one that the other does not lie below is below it. -/
theorem below_of_not_above (onto : home <+: m) (before : l <+: m) (apart : ¬ l <+: home) :
    Below home l := by
  rcases List.prefix_or_prefix_of_prefix onto before with below | above
  · exact ⟨below, fun same => apart (same ▸ List.prefix_refl _)⟩
  · exact absurd above apart

/-- All changes so far were made below `home`, which is a real directory, and no link stands
between it and a target. -/
structure Confined (home : Location) (targets : List Location) (d : Disk) : Prop where
  real : ∀ l, l <+: home → d.tree.at? l = some .dir
  inside : ∀ l ∈ targets, Below home l
  clear : ∀ l ∈ targets, ∀ m, m <+: l → m ≠ l → ∀ target, d.tree.at? m ≠ some (.link target)
  log : ∀ e ∈ d.log, Below home e.2

theorem Confined.change (below : Below home l)
    (apart : ∀ target, c = .symlink target → ∀ m ∈ targets, l <+: m → l = m) :
    Preserves (Confined home targets) (Disk.change denies c l) := by
  intro d h
  have logged : ∀ e ∈ d.log ++ [(c, l)], Below home e.2 :=
    List.forall_mem_append.mpr ⟨h.log, List.forall_mem_singleton.mpr below⟩
  rw [Disk.change, ends_ofStep]
  cases denies c l with
  | some text => exact ⟨h.real, h.inside, h.clear, logged⟩
  | none =>
    refine ⟨fun m above => ?_, h.inside, fun m hm front before ne target link => ?_, logged⟩
    · refine (at?_apply_of_not_above fun onto => ?_).trans (h.real m above)
      exact below.2 ((onto.trans above).eq_of_length_le below.1.length_le)
    · rcases at?_apply_link link with link | ⟨rfl, rfl⟩
      · exact h.clear m hm front before ne target link
      · exact ne (apart target rfl m hm before)

theorem Confined.clear_dropLast {d : Disk} (h : Confined home targets d) (hm : m ∈ targets)
    (before : l <+: m) : d.tree.Clear l.dropLast := by
  intro front above
  refine h.clear m hm front ((above.trans (List.dropLast_prefix l)).trans before) ?_
  rintro rfl
  have := (h.inside front hm).length_lt
  grind

theorem Confined.changeEntry (hm : m ∈ targets) (before : l <+: m) (below : Below home l)
    (apart : ∀ target, c = .symlink target → ∀ m ∈ targets, l <+: m → l = m) :
    Preserves (Confined home targets) (Disk.changeEntry denies c (spell l)) := by
  intro d h
  simp only [Disk.changeEntry, ends_bind, ends_get]
  cases found : d.tree.entry (spell l) with
  | none => exact h
  | some at_ =>
    cases entry_spell (h.clear_dropLast hm before) found
    exact Confined.change below apart d h

/-- Nothing is created in the place of an existing entry, so nothing above the directory is. -/
theorem Confined.create (hm : m ∈ targets) (before : l <+: m)
    (apart : ∀ target, c = .symlink target → ∀ m ∈ targets, l <+: m → l = m) :
    Preserves (Confined home targets) (Disk.create denies c (spell l)) := by
  intro d h
  simp only [Disk.create, ends_bind, ends_get]
  split
  · exact h
  · rename_i new
    by_cases above : l <+: home
    · simp only [ends_bind, Disk.changeEntry, ends_get]
      cases found : d.tree.entry (spell l) with
      | none => exact h
      | some at_ =>
        cases entry_spell (h.clear_dropLast hm before) found
        simp [found, h.real l above] at new
    · exact Confined.changeEntry hm before
        (below_of_not_above (h.inside m hm).1 before above) apart d h

theorem Confined.createDirAll (hm : m ∈ targets) (before : l <+: m) :
    Preserves (Confined home targets) (Disk.createDirAll denies (spell l).reverse) :=
  preserves_createDirAll_spell fun _ above => Confined.create hm (above.trans before) (by simp)

/-- Whether the emptied directory itself could go changes nothing more. -/
theorem preserves_rmdir {I : Disk → Prop} (p : String) : Preserves I (rmdir p) := by
  intro d h
  unfold rmdir
  split
  · rw [ends_bind, ends_get]
    show Ends (if _ then _ else _) d _
    split <;> exact h
  all_goals exact h

theorem Confined.removeFile (hm : m ∈ targets) (below : Below home m) :
    Preserves (Confined home targets) (Disk.removeFile denies (spell m)) :=
  Confined.changeEntry hm (List.prefix_refl m) below (by simp)

theorem Confined.removeDirAll {p : String} (spelled : systemPath p = spell m) (hm : m ∈ targets)
    (below : Below home m) : Preserves (Confined home targets) (Disk.removeDirAll denies p) := by
  unfold Disk.removeDirAll
  rw [spelled]
  refine (Confined.changeEntry hm (List.prefix_refl m) below (by simp)).bind fun _ => ?_
  exact preserves_rmdir p

/-- A link in the place of a target keeps to it if the target stands on no other's way. -/
theorem Confined.symlink {target : String} (hm : m ∈ targets)
    (apart : ∀ m' ∈ targets, m <+: m' → m = m') :
    Preserves (Confined home targets) (Disk.symlink denies target (spell m)) :=
  Confined.create hm (List.prefix_refl m) fun _ _ => apart

end Disk

end Ccbd.Lib
