import Ccbd.Completion.Reply
import Ccbd.Outbox.Record

/-!
# Values in a unit file

The values of a service unit are escaped for the reader of the service manager: it splits at
unquoted blanks, takes quotes and backslashes away, and reads a doubled `%` (and `$` in a
command) as one. A value with blanks, double quotes or backslashes is quoted. A single quote is
no reason for quotes, so a value is read back just if it has none or is quoted anyway.
-/

namespace Ccbd.UnitFile

/-! ## The writer -/

/-- The characters that are written twice. -/
def doubled (doubleDollar : Bool) : List Char := if doubleDollar then ['%', '$'] else ['%']

def escapeChar (doubleDollar : Bool) (ch : Char) : List Char :=
  if ch ∈ doubled doubleDollar then [ch, ch]
  else if ch = '"' ∨ ch = '\\' then ['\\', ch]
  else [ch]

def needsQuotes (value : List Char) : Bool :=
  value.isEmpty || value.any fun ch => ch = '"' || ch = '\\' || Reply.isWhitespace ch

/-- `none` is `ServiceUnitError::InvalidValue`. -/
def escapeCommon (value : List Char) (doubleDollar : Bool) : Option (List Char) :=
  if value.any Outbox.isControl then none
  else
    let out := value.flatMap (escapeChar doubleDollar)
    some (if needsQuotes value then '"' :: out ++ ['"'] else out)

def escapeSystemdEnvValue (value : List Char) : Option (List Char) := escapeCommon value false

def escapeSystemdExecToken (value : List Char) : Option (List Char) := escapeCommon value true

/-! ## The reader -/

/-- The escapes of one character. -/
def unescape (ch : Char) : Option Char :=
  [('"', '"'), ('\'', '\''), ('\\', '\\'), ('a', '\x07'), ('b', '\x08'), ('f', '\x0c'), ('n', '\n'),
    ('r', '\r'), ('s', ' '), ('t', '\t'), ('v', '\x0b')].lookup ch

/-- The words of a line, after the word that has been begun; `quote` is the open quote. -/
def words (quote : Option Char) (word : Option (List Char)) : List Char → Option (List (List Char))
  | [] => if quote = none then some word.toList else none
  | '\\' :: ch :: text => do words quote (some (word.getD [] ++ [← unescape ch])) text
  | ch :: text =>
    if ch = '\\' then none
    else if quote = some ch then words none word text
    else if quote = none ∧ ch ∈ [' ', '\t', '\n', '\r'] then
      (words none none text).map (word.toList ++ ·)
    else if quote = none ∧ (ch = '\'' ∨ ch = '"') then words (some ch) (some (word.getD [])) text
    else words quote (some (word.getD [] ++ [ch])) text

/-- Reads doubled characters; a single one stands for something else than itself. -/
def undouble (active : List Char) : List Char → Option (List Char)
  | [] => some []
  | [ch] => if ch ∈ active then none else some [ch]
  | ch :: next :: text =>
    if ch ∈ active then if next = ch then (undouble active text).map (ch :: ·) else none
    else (undouble active (next :: text)).map (ch :: ·)

/-- What `Environment=` (or `ExecStart=` with `doubleDollar`) reads in its value. -/
def read (doubleDollar : Bool) (text : List Char) : Option (List (List Char)) := do
  (← words none none text).mapM (undouble (doubled doubleDollar))

/-! ## Reading back -/

/-- A character that means itself outside quotes. -/
def IsLiteral (ch : Char) : Prop := ch ∉ ['\\', '\'', '"', ' ', '\t', '\n', '\r']

instance (ch : Char) : Decidable (IsLiteral ch) := inferInstanceAs (Decidable (_ ∉ _))

def twice (doubleDollar : Bool) (ch : Char) : List Char :=
  if ch ∈ doubled doubleDollar then [ch, ch] else [ch]

theorem words_of_ne (plain : ch ≠ '\\') (inside : quote ≠ some ch)
    (bare : quote = none → IsLiteral ch) :
    words quote word (ch :: text) = words quote (some (word.getD [] ++ [ch])) text := by
  have blank : ¬(quote = none ∧ ch ∈ [' ', '\t', '\n', '\r']) := by grind [IsLiteral]
  have quotes : ¬(quote = none ∧ (ch = '\'' ∨ ch = '"')) := by grind [IsLiteral]
  rw [words, if_neg plain, if_neg inside, if_neg blank, if_neg quotes]
  grind

theorem words_literal (literal : ∀ ch ∈ text, IsLiteral ch) :
    words none word (text ++ rest) =
      words none (if text = [] then word else some (word.getD [] ++ text)) rest := by
  induction text generalizing word with
  | nil => rfl
  | cons ch text ih =>
    obtain ⟨first, literal⟩ := List.forall_mem_cons.mp literal
    rw [List.cons_append, words_of_ne (by grind [IsLiteral]) (by simp) (fun _ => first), ih literal]
    split_ifs <;> simp_all

theorem words_quoted (value : List Char) :
    words (some '"') (some word) (value.flatMap (escapeChar b) ++ ['"']) =
      some [word ++ value.flatMap (twice b)] := by
  induction value generalizing word with
  | nil => simp [words]
  | cons ch value ih =>
    rw [List.flatMap_cons, List.flatMap_cons, List.append_assoc, ← List.append_assoc word]
    by_cases active : ch ∈ doubled b
    · have other : ch ≠ '\\' ∧ '"' ≠ ch := by cases b <;> simp [doubled] at active <;> grind
      simp [escapeChar, twice, active, words_of_ne other.1, other.2, ih]
    · by_cases special : ch = '"' ∨ ch = '\\'
      · rcases special with rfl | rfl <;>
          simp [escapeChar, twice, active, words, unescape, List.lookup_cons, ih]
      · rw [not_or] at special
        simp [escapeChar, twice, active, special, words_of_ne special.2, Ne.symm special.1, ih]

theorem undouble_cons (single : ch ∉ active) :
    undouble active (ch :: text) = (undouble active text).map (ch :: ·) := by
  cases text <;> simp [undouble, single]

theorem undouble_twice (value : List Char) :
    undouble (doubled b) (value.flatMap (twice b)) = some value := by
  induction value with
  | nil => rfl
  | cons ch value ih =>
    by_cases active : ch ∈ doubled b
    · simp [twice, active, undouble, ih]
    · simp [twice, active, undouble_cons active, ih]

theorem mem_of_undouble (h : undouble active text = some out) (mem : ch ∈ out) : ch ∈ text := by
  fun_induction undouble active text generalizing out <;> grind [Option.map_eq_some_iff]

/-- Without double quotes and backslashes no word has a single quote. -/
theorem single_notMem_words (plain : ∀ ch ∈ text, ch ≠ '"' ∧ ch ≠ '\\')
    (quotes : quote = none ∨ quote = some '\'') (begun : '\'' ∉ word.getD [])
    (h : words quote word text = some ws) : ∀ w ∈ ws, '\'' ∉ w := by
  fun_induction words quote word text generalizing ws <;>
    grind [Option.map_eq_some_iff, Option.bind_eq_some_iff]

@[simp] theorem mem_flatMap_twice {value : List Char} :
    ch ∈ value.flatMap (twice b) ↔ ch ∈ value := by
  have one (c : Char) : ch ∈ twice b c ↔ ch = c := by
    unfold twice
    split_ifs <;> simp
  simp [List.mem_flatMap, one]

theorem read_iff (lead : List Char) (literal : ∀ ch ∈ lead, IsLiteral ch ∧ ch ∉ doubled b)
    (h : escapeCommon value b = some text) :
    read b (lead ++ text) = some [lead ++ value] ↔ ('\'' ∈ value → needsQuotes value = true) := by
  have same : lead.flatMap (twice b) = lead := calc
    lead.flatMap (twice b) = lead.flatMap ([·]) :=
      List.flatMap_congr fun ch mem => if_neg (literal ch mem).2
    _ = lead := List.flatMap_singleton' lead
  have back (whole : words none none (lead ++ text) = some [lead ++ value.flatMap (twice b)]) :
      read b (lead ++ text) = some [lead ++ value] := by
    have undoubled := undouble_twice (b := b) (lead ++ value)
    rw [List.flatMap_append, same] at undoubled
    simp [read, whole, undoubled]
  have begun : (if lead = [] then none else some (none.getD [] ++ lead)).getD [] = lead := by
    split_ifs <;> simp_all
  simp only [escapeCommon] at h
  split_ifs at h with control quotes <;> cases h
  · refine iff_of_true (back ?_) (fun _ => quotes)
    rw [List.cons_append, words_literal fun ch mem => (literal ch mem).1]
    rw [words.eq_3 _ _ _ _ (by simp), begun]
    simpa using words_quoted value
  · have plain : ∀ ch ∈ value, ch ≠ '"' ∧ ch ≠ '\\' ∧ Reply.isWhitespace ch = false := by
      simp [needsQuotes] at quotes
      grind
    have escaped : value.flatMap (escapeChar b) = value.flatMap (twice b) :=
      List.flatMap_congr fun ch mem => by simp [escapeChar, twice, plain ch mem]
    by_cases single : '\'' ∈ value
    · refine iff_of_false (fun back => ?_) (by simp [single, quotes])
      obtain ⟨ws, split, undoubled⟩ := Option.bind_eq_some_iff.mp back
      have chars : ∀ ch ∈ lead ++ value.flatMap (twice b), ch ≠ '"' ∧ ch ≠ '\\' := by
        simp only [List.mem_append, mem_flatMap_twice]
        grind [IsLiteral]
      have free := single_notMem_words chars (.inl rfl) (by simp) (escaped ▸ split)
      cases ws with
      | nil => cases undoubled
      | cons w ws =>
        simp only [List.mapM_cons, Option.bind_eq_bind, Option.bind_eq_some_iff] at undoubled
        obtain ⟨out, undoubled, rest, -, e⟩ := undoubled
        cases e
        exact free w (by simp) (mem_of_undouble undoubled (by simp [single]))
    · refine iff_of_true (back ?_) (by simp [single])
      have nonempty : value.flatMap (twice b) ≠ [] := by
        obtain ⟨ch, mem⟩ := List.exists_mem_of_ne_nil value (by rintro rfl; exact quotes rfl)
        exact List.ne_nil_of_mem (mem_flatMap_twice.mpr mem)
      have blank : ∀ ch ∈ [' ', '\t', '\n', '\r'], Reply.isWhitespace ch = true :=
        List.forall_iff_forall_mem.mp (by decide)
      have bare : ∀ ch ∈ lead ++ value.flatMap (twice b), IsLiteral ch := by
        simp only [List.mem_append, mem_flatMap_twice]
        grind [IsLiteral]
      rw [escaped, ← List.append_nil (lead ++ _), words_literal bare]
      simp [nonempty, words]

/-- A value without control characters is read back, from the environment and as a word of a
command, just if it has no single quote or is put in quotes. -/
theorem escape_read_iff (key value : List Char) (plainKey : ∀ ch ∈ key, ch.isAlphanum ∨ ch = '_')
    (noControl : value.any Outbox.isControl = false) :
    ∃ env exec, escapeSystemdEnvValue value = some env ∧ escapeSystemdExecToken value = some exec ∧
      (read false (key ++ '=' :: env) = some [key ++ '=' :: value] ↔
        ('\'' ∈ value → needsQuotes value = true)) ∧
      (read true exec = some [value] ↔ ('\'' ∈ value → needsQuotes value = true)) := by
  have escapes (b : Bool) : ∃ text, escapeCommon value b = some text :=
    ⟨_, by rw [escapeCommon, if_neg (by simp [noControl])]⟩
  obtain ⟨env, writtenEnv⟩ := escapes false
  obtain ⟨exec, writtenExec⟩ := escapes true
  refine ⟨env, exec, writtenEnv, writtenExec, ?_, read_iff [] (by simp) writtenExec⟩
  have other : ∀ ch ∈ ['\\', '\'', '"', ' ', '\t', '\n', '\r', '%'],
      ¬(ch.isAlphanum ∨ ch = '_') := List.forall_iff_forall_mem.mp (by decide)
  have literal : ∀ ch ∈ key ++ ['='], IsLiteral ch ∧ ch ∉ doubled false := by
    grind [IsLiteral, doubled]
  simpa using read_iff _ literal writtenEnv

theorem escape_read_home :
    ∃ env exec, escapeSystemdEnvValue "/home/o d".toList = some env ∧
      escapeSystemdExecToken "/home/o d".toList = some exec ∧
      read false ("HOME".toList ++ '=' :: env) = some ["HOME=/home/o d".toList] ∧
      read true exec = some ["/home/o d".toList] := by
  obtain ⟨env, exec, hEnv, hExec, readEnv, readExec⟩ :=
    escape_read_iff "HOME".toList "/home/o d".toList
      (List.forall_iff_forall_mem.mp (by decide)) (by decide)
  exact ⟨env, exec, hEnv, hExec, readEnv.mpr (by decide), readExec.mpr (by decide)⟩

/-- A home directory with a single quote in its name. -/
theorem not_escape_read :
    ∃ value env exec, value.any Outbox.isControl = false ∧ escapeSystemdEnvValue value = some env ∧
      escapeSystemdExecToken value = some exec ∧
      read false ("HOME=".toList ++ env) ≠ some ["HOME=".toList ++ value] ∧
      read true exec ≠ some [value] :=
  ⟨"/home/o'd".toList, "/home/o'd".toList, "/home/o'd".toList, by decide⟩

end Ccbd.UnitFile
