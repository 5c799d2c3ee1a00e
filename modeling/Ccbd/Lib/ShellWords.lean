import Mathlib.Data.List.Basic

/-!
# Words of a shell command

Token recognition and quote removal of the POSIX shell, for a line that is one simple command.
Unquoted blanks end a word, quotes and backslashes are taken away, `#` at the start of a word
begins a comment. A line with an operator or an expansion (of a parameter, a command, a path name
or a tilde) is more than a list of words, and nothing is returned for it.

A line that joins words with single blanks is read as these words just if each of them is plain:
the reader falls short as soon as it takes a character away.
-/

namespace Ccbd.Lib.Shell

def isBlank (c : Char) : Bool := c = ' ' || c = '\t'

/-- Operators, the newline, and what begins an expansion wherever it stands. -/
def isActive (c : Char) : Bool :=
  c ∈ ['|', '&', ';', '<', '>', '(', ')', '\n', '$', Char.ofNat 96, '*', '?', '[']

def isSpecial (c : Char) : Bool :=
  isBlank c || c = '\'' || c = '"' || c = '\\' || isActive c

inductive Mode where
  | bare
  | escaped
  | single
  | double
  | escapedInDouble
  | comment
deriving DecidableEq, Repr

/-- The word that has been begun. -/
abbrev Word := Option (List Char)

def Word.add (w : Word) (cs : List Char) : Word := some (w.getD [] ++ cs)

def isName : List Char → Bool
  | [] => false
  | c :: name => (c.isAlpha || c = '_') && name.all fun c => c.isAlphanum || c = '_'

/-- A tilde is expanded at the start of a word. In a word of the form of an assignment, which some
shells look for among the arguments too, it is expanded at the start of the value and after a
colon. -/
def Word.expandsTilde : Word → Bool
  | none => true
  | some x =>
    isName (x.takeWhile (· ≠ '=')) &&
      match x.dropWhile (· ≠ '=') with
      | [] => false
      | ['='] => true
      | value => value.getLast? = some ':'

/-- One character: the next mode, the word that goes on and the word that has ended. -/
def step (w : Word) (c : Char) : Mode → Option (Mode × Word × List (List Char))
  | .bare =>
    if isBlank c then some (.bare, none, w.toList)
    else if c = '\'' then some (.single, w.add [], [])
    else if c = '"' then some (.double, w.add [], [])
    else if c = '\\' then some (.escaped, w, [])
    else if c = '#' ∧ w = none then some (.comment, none, [])
    else if isActive c ∨ (c = '~' ∧ w.expandsTilde) then none
    else some (.bare, w.add [c], [])
  | .escaped => some (.bare, if c = '\n' then w else w.add [c], [])
  | .single => some (if c = '\'' then (.bare, w, []) else (.single, w.add [c], []))
  | .double =>
    if c = '"' then some (.bare, w, [])
    else if c = '\\' then some (.escapedInDouble, w, [])
    else if c = '$' ∨ c = Char.ofNat 96 then none
    else some (.double, w.add [c], [])
  | .escapedInDouble =>
    if c = '\n' then some (.double, w, [])
    else if c ∈ ['$', Char.ofNat 96, '"', '\\'] then some (.double, w.add [c], [])
    else some (.double, w.add ['\\', c], [])
  | .comment => if c = '\n' then none else some (.comment, none, [])

def words (m : Mode) (w : Word) : List Char → Option (List (List Char))
  | [] => if m = .bare ∨ m = .comment then some w.toList else none
  | c :: text => do
    let (m, w, ended) ← step w c m
    return ended ++ (← words m w text)

/-- A character that stands for itself after `w`. -/
def isLiteral (w : Word) (c : Char) : Bool :=
  !isSpecial c && !(c = '#' && w = none) && !(c = '~' && w.expandsTilde)

/-- A text each character of which stands for itself after `w`. -/
def literals (w : Word) : List Char → Bool
  | [] => true
  | c :: x => isLiteral w c && literals (w.add [c]) x

/-- A word that the shell leaves as it is. -/
def Plain (word : List Char) : Prop := word ≠ [] ∧ literals none word = true

instance (word : List Char) : Decidable (Plain word) := inferInstanceAs (Decidable (_ ∧ _))

/-- The words, each with a blank after it. -/
def size : List (List Char) → Nat
  | [] => 0
  | word :: ws => word.length + 1 + size ws

def Word.length (w : Word) : Nat := (w.getD []).length

theorem words_cons (h : words m w (c :: text) = some ws) :
    ∃ m' w' ended later, step w c m = some (m', w', ended) ∧ words m' w' text = some later ∧
      ws = ended ++ later := by
  simp only [words, Option.bind_eq_bind, Option.bind_eq_some_iff] at h
  obtain ⟨⟨m', w', ended⟩, first, later, rest, h⟩ := h
  exact ⟨m', w', ended, later, first, rest, (Option.some.inj h).symm⟩

/-- In an escape within double quotes the backslash may still be emitted. -/
theorem size_words_le (h : words m w text = some ws) :
    size ws ≤ text.length + w.length + if m = .escapedInDouble then 2 else 1 := by
  induction text generalizing m w ws with
  | nil =>
    simp only [words] at h
    split_ifs at h
    cases h
    cases w <;> simp [size, Word.length]
    split_ifs <;> omega
  | cons c text ih =>
    obtain ⟨m', w', ended, later, first, rest, rfl⟩ := words_cons h
    have bound := ih rest
    cases m <;> simp only [step] at first <;> split_ifs at first <;> cases first
    all_goals cases w <;> simp [size, Word.length, Word.add] at bound ⊢ <;> omega

theorem isLiteral_iff : isLiteral w c = true ↔
    isSpecial c = false ∧ ¬(c = '#' ∧ w = none) ∧ ¬(c = '~' ∧ w.expandsTilde = true) := by
  simp [isLiteral, and_assoc, imp_iff_not_or]

theorem literals_concat (nonempty : x ≠ []) :
    literals w (x ++ [c]) = (literals w x && isLiteral (w.add x) c) := by
  induction x generalizing w with
  | nil => exact absurd rfl nonempty
  | cons d x ih =>
    cases x with
    | nil => simp [literals]
    | cons e x =>
      rw [List.cons_append, literals, ih (by simp), literals.eq_2 w, Bool.and_assoc]
      simp [Word.add]

theorem plain_add {w : Word} (plain : ∀ x, w = some x → Plain x) (literal : isLiteral w c = true)
    (x : List Char) (e : w.add [c] = some x) : Plain x := by
  cases e
  cases w with
  | none => exact ⟨by simp, by simpa [literals] using literal⟩
  | some front =>
    obtain ⟨nonempty, before⟩ := plain front rfl
    exact ⟨by simp, by simp [literals_concat nonempty, before, Word.add, literal]⟩

/-- A reader that emits all it has read has taken nothing away. -/
theorem plain_of_le_size (h : words .bare w text = some ws) (plain : ∀ x, w = some x → Plain x)
    (full : text.length + w.length + 1 ≤ size ws) : ∀ x ∈ ws, Plain x := by
  induction text generalizing w ws with
  | nil =>
    cases h
    simpa using plain
  | cons c text ih =>
    obtain ⟨m', w', ended, later, first, rest, rfl⟩ := words_cons h
    have bound := size_words_le rest
    simp only [step] at first
    split_ifs at first with blank single double escape comment active <;> cases first
    · cases w with
      | none => simp [Word.length] at full bound; omega
      | some x =>
        have later := ih rest (by simp) (by simp [size, Word.length] at full ⊢; omega)
        exact List.forall_mem_cons.mpr ⟨plain x rfl, later⟩
    iterate 4 simp [Word.length, Word.add] at full bound; omega
    · rw [not_or] at active
      have literal : isLiteral w c = true := isLiteral_iff.mpr
        ⟨by simp [isSpecial, blank, single, double, escape, active.1], comment, active.2⟩
      refine ih rest (plain_add plain literal) ?_
      simp [Word.length, Word.add] at full ⊢
      omega

theorem step_literal (literal : isLiteral w c = true) :
    step w c .bare = some (.bare, w.add [c], []) := by
  obtain ⟨ordinary, comment, tilde⟩ := isLiteral_iff.mp literal
  simp only [isSpecial, Bool.or_eq_false_iff, decide_eq_false_iff_not] at ordinary
  simp [step, ordinary, comment, tilde]

theorem words_literals {w : Word} (literal : literals w x = true) (nonempty : x ≠ [])
    (text : List Char) : words .bare w (x ++ text) = words .bare (w.add x) text := by
  induction x generalizing w with
  | nil => exact absurd rfl nonempty
  | cons c x ih =>
    rw [literals, Bool.and_eq_true] at literal
    simp only [List.cons_append, words, step_literal literal.1]
    cases x with
    | nil => simp
    | cons d x => simpa [Word.add] using ih literal.2 (by simp)

/-- The line of some words, with single blanks between them. -/
def line : List (List Char) → List Char
  | [] => []
  | [x] => x
  | x :: ws => x ++ ' ' :: line ws

theorem length_line (nonempty : ws ≠ []) : (line ws).length + 1 = size ws := by
  fun_induction line ws with
  | case1 => exact absurd rfl nonempty
  | case2 x => simp [size]
  | case3 x ws other ih =>
    have := ih (by simpa using other)
    simp [size] at this ⊢
    omega

theorem words_line (plain : ∀ x ∈ ws, Plain x) : words .bare none (line ws) = some ws := by
  fun_induction line ws with
  | case1 => rfl
  | case2 x =>
    obtain ⟨nonempty, literal⟩ := plain x (by simp)
    have whole := words_literals literal nonempty []
    rwa [List.append_nil] at whole
  | case3 x ws other ih =>
    rw [List.forall_mem_cons] at plain
    obtain ⟨⟨nonempty, literal⟩, rest⟩ := plain
    rw [words_literals literal nonempty, words, step, if_pos (by decide)]
    simp [ih rest, Word.add]

/-- The line of some words is read as these words just if all of them are plain. -/
theorem words_line_iff (nonempty : ws ≠ []) :
    words .bare none (line ws) = some ws ↔ ∀ x ∈ ws, Plain x := by
  refine ⟨fun h => plain_of_le_size h (by simp) ?_, words_line⟩
  simp [← length_line nonempty, Word.length]

end Ccbd.Lib.Shell
