import Ccbd.Completion.PromptEnd
import Ccbd.Lib.Trim

/-!
# Distillation of a reply

A screen that shows the prompt, a newline and the reply of the agent is distilled to the
reply, up to two things: the first place where the reply repeats the prompt is cut out of
it, and a carriage return before a newline is dropped.
-/

namespace Ccbd.Reply

open Lib

theorem trim_eq_trimBy (text : List Char) : trim text = trimBy isWhitespace text := rfl

variable {c : Char}

theorem bordered_of_trim (trimmed : trim text = text) : Bordered isWhitespace text := by
  rw [← trimmed]
  exact bordered_trimBy isWhitespace text

theorem stripAnsiEscapes_of_not_mem (plain : esc ∉ text) : stripAnsiEscapes text = text := by
  unfold stripAnsiEscapes
  induction text with
  | nil => rfl
  | cons c cs ih =>
    obtain ⟨first, rest⟩ := not_or.mp (List.mem_cons.not.mp plain)
    rw [stripAnsiGo, if_neg (Ne.symm first), ih rest]

theorem stripAnsiGo_sublist (mode : AnsiMode) (text : List Char) :
    (stripAnsiGo mode text).Sublist text := by
  fun_induction stripAnsiGo mode text <;> grind

theorem esc_notMem_stripAnsiGo (mode : AnsiMode) (text : List Char) :
    esc ∉ stripAnsiGo mode text := by
  fun_induction stripAnsiGo mode text <;> grind

/-- Stripping takes characters away, every escape character among them, and does nothing to a
text that has none. -/
theorem stripAnsiEscapes_projection (text : List Char) :
    esc ∉ stripAnsiEscapes text ∧ (stripAnsiEscapes text).Sublist text ∧
      (esc ∉ text → stripAnsiEscapes text = text) ∧
      stripAnsiEscapes (stripAnsiEscapes text) = stripAnsiEscapes text := by
  have plain : esc ∉ stripAnsiEscapes text := esc_notMem_stripAnsiGo .text text
  refine ⟨plain, stripAnsiGo_sublist .text text, stripAnsiEscapes_of_not_mem, ?_⟩
  exact stripAnsiEscapes_of_not_mem plain

/-! ## The end of the prompt -/

theorem sliceFrom_append (front back : List Char) :
    sliceFrom (byteLen front) (front ++ back) = back := by
  induction front with
  | nil => cases back <;> rfl
  | cons c cs ih =>
    have past : c.utf8Size + byteLen cs ≠ 0 := by
      have := c.utf8Size_pos
      omega
    rw [byteLen, List.cons_append, sliceFrom, if_neg past, Nat.add_sub_cancel_left, ih]

theorem cut_append (nonempty : pat ≠ []) (text : List Char) :
    cut pat (pat ++ text) = some ([], text) := by
  obtain ⟨c, cs, rfl⟩ := List.exists_cons_of_ne_nil nonempty
  simp [cut]

/-- A prompt that ends in no whitespace is found where it stands first. -/
theorem promptMatchEndByte_append (solid : isWhitespace c = false) (rest : List Char) :
    promptMatchEndByte (init ++ [c] ++ rest) (init ++ [c]) = some (byteLen (init ++ [c])) := by
  obtain ⟨gap, -, prompt⟩ := endOffsets_concat init c
  rw [if_neg (by simp [solid])] at prompt
  obtain ⟨after, whole⟩ := endOffsets_prefix (init ++ [c]) rest
  have nonempty : normalized (init ++ [c]) ≠ [] := by simp [normalized, prompt]
  have text : normalized (init ++ [c] ++ rest) =
      normalized (init ++ [c]) ++ after.map Prod.fst := by
    rw [normalized, ← whole, List.map_append, normalized]
  simp only [promptMatchEndByte, List.isEmpty_iff, if_neg nonempty]
  rw [text, cut_append nonempty, Option.bind_some, ← whole, normalized, prompt]
  simp

theorem promptMatchEndByte_of_trimmed (nonempty : prompt ≠ []) (trimmed : trim prompt = prompt)
    (rest : List Char) : promptMatchEndByte (prompt ++ rest) prompt = some (byteLen prompt) := by
  have bordered := bordered_of_trim trimmed
  rcases List.eq_nil_or_concat' prompt with empty | ⟨init, c, rfl⟩
  · exact absurd empty nonempty
  · exact promptMatchEndByte_append (bordered.last c (by simp)) rest

/-! ## Lines -/

/-- The text with every CR-LF read as LF. -/
def unCrlf : List Char → List Char
  | [] => []
  | '\r' :: '\n' :: cs => '\n' :: unCrlf cs
  | c :: cs => c :: unCrlf cs

/-- A line without the carriage return at its end. -/
def stripCr (line : List Char) : List Char :=
  if line.getLast? = some '\r' then line.dropLast else line

/-- The lines of a text that is cut at its newlines. -/
def linesOf : List (List Char) → List (List Char)
  | [] => []
  | [l] => [l].filter fun l => !l.isEmpty
  | l :: l' :: ls => stripCr l :: linesOf (l' :: ls)

theorem lines_eq_linesOf (text : List Char) : lines text = linesOf (splitLines text) := by
  unfold lines
  fun_induction linesOf (splitLines text) with
  | case1 => rfl
  | case2 => rfl
  | case3 l l' ls ih =>
    rw [← ih]
    rfl

theorem splitLines_eq_cons (text : List Char) : ∃ l ls, splitLines text = l :: ls := by
  fun_induction splitLines text with
  | case1 => exact ⟨[], [], rfl⟩
  | case2 | case3 | case4 => exact ⟨_, _, rfl⟩

theorem head?_of_splitLines
    (pieces : splitLines text = [] :: l :: ls) : text.head? = some '\n' := by
  cases text with
  | nil => simp [splitLines] at pieces
  | cons c cs =>
    rw [splitLines] at pieces
    split_ifs at pieces with newline
    · rw [newline, List.head?_cons]
    · split at pieces <;> simp at pieces

theorem lines_newline (text : List Char) : lines ('\n' :: text) = [] :: lines text := by
  obtain ⟨l, ls, pieces⟩ := splitLines_eq_cons text
  simp only [lines_eq_linesOf, splitLines, pieces]
  rfl

theorem lines_crlf (text : List Char) : lines ('\r' :: '\n' :: text) = [] :: lines text := by
  obtain ⟨l, ls, pieces⟩ := splitLines_eq_cons text
  simp only [lines_eq_linesOf, splitLines, pieces]
  rfl

theorem lines_cons (inline : c ≠ '\n') (noCrlf : c = '\r' → text.head? ≠ some '\n') :
    lines (c :: text) = (c :: (lines text).headD []) :: (lines text).tail := by
  obtain ⟨l, ls, pieces⟩ := splitLines_eq_cons text
  simp only [lines_eq_linesOf, splitLines, if_neg inline, pieces]
  cases ls with
  | nil => cases l <;> rfl
  | cons l' ls =>
    have strip : stripCr (c :: l) = c :: stripCr l := by
      cases l with
      | nil =>
        have return_ : c ≠ '\r' := fun e => noCrlf e (head?_of_splitLines pieces)
        simp [stripCr, return_]
      | cons d l =>
        simp only [stripCr, List.getLast?_cons_cons]
        split <;> rfl
    simp [linesOf, strip]

theorem lines_ne_nil (c : Char) (text : List Char) : lines (c :: text) ≠ [] := by
  by_cases newline : c = '\n'
  · rw [newline, lines_newline]
    simp
  · by_cases crlf : c = '\r' → text.head? ≠ some '\n'
    · rw [lines_cons newline crlf]
      simp
    · push Not at crlf
      obtain ⟨rfl, next⟩ := crlf
      obtain ⟨cs, rfl⟩ := List.head?_eq_some_iff.mp next
      rw [lines_crlf]
      simp

theorem intercalate_cons_head (sep : List Char) (c : Char) (ls : List (List Char)) :
    sep.intercalate ((c :: ls.headD []) :: ls.tail) = c :: sep.intercalate ls := by
  match ls with
  | [] => rfl
  | [l] => simp
  | l :: l' :: ls => simp [List.intercalate_cons_cons]

/-- The lines joined again are the text without its carriage returns before newlines and
without a newline at its end. -/
theorem unCrlf_eq_intercalate (text : List Char) :
    unCrlf text = ['\n'].intercalate (lines text) ∨
      unCrlf text = ['\n'].intercalate (lines text) ++ ['\n'] := by
  have newline : ∀ cs : List Char,
      (unCrlf cs = ['\n'].intercalate (lines cs) ∨
        unCrlf cs = ['\n'].intercalate (lines cs) ++ ['\n']) →
      '\n' :: unCrlf cs = ['\n'].intercalate ([] :: lines cs) ∨
        '\n' :: unCrlf cs = ['\n'].intercalate ([] :: lines cs) ++ ['\n'] := by
    intro cs ih
    cases cs with
    | nil => exact .inr rfl
    | cons c cs =>
      obtain ⟨l, ls, cons⟩ := List.exists_cons_of_ne_nil (lines_ne_nil c cs)
      rw [cons] at ih ⊢
      simpa [List.intercalate_cons_cons] using ih
  fun_induction unCrlf text with
  | case1 => exact .inl rfl
  | case2 cs ih =>
    rw [lines_crlf]
    exact newline cs ih
  | case3 c cs other ih =>
    by_cases e : c = '\n'
    · rw [e, lines_newline]
      exact newline cs ih
    · have noCrlf : c = '\r' → cs.head? ≠ some '\n' := by
        intro e next
        obtain ⟨cs', rfl⟩ := List.head?_eq_some_iff.mp next
        exact other cs' e rfl
      rw [lines_cons e noCrlf, intercalate_cons_head]
      simpa using ih

/-! ## Carriage returns -/

theorem unCrlf_cons (apart : c = '\r' → text.head? ≠ some '\n') :
    unCrlf (c :: text) = c :: unCrlf text := by
  rw [unCrlf]
  rintro cs rfl rfl
  exact apart rfl rfl

theorem unCrlf_append (apart : a.getLast? = some '\r' → b.head? ≠ some '\n') :
    unCrlf (a ++ b) = unCrlf a ++ unCrlf b := by
  fun_induction unCrlf a with
  | case1 => rfl
  | case2 cs ih =>
    rw [List.cons_append, List.cons_append, unCrlf, ih, List.cons_append]
    intro last
    exact apart (by simp [List.getLast?_cons, last])
  | case3 c cs other ih =>
    have rest : cs.getLast? = some '\r' → b.head? ≠ some '\n' := by
      intro last
      exact apart (by simp [List.getLast?_cons, last])
    have first : c = '\r' → (cs ++ b).head? ≠ some '\n' := by
      rintro rfl next
      cases cs with
      | nil => exact apart rfl next
      | cons d cs => exact other cs rfl (by simpa using next)
    rw [List.cons_append, unCrlf_cons first, ih rest, List.cons_append]

theorem unCrlf_sublist (text : List Char) : (unCrlf text).Sublist text := by
  fun_induction unCrlf text with
  | case1 => exact .slnil
  | case2 cs ih => exact (ih.cons_cons '\n').cons '\r'
  | case3 c cs other ih => exact ih.cons_cons c

theorem countP_unCrlf (text : List Char) :
    (unCrlf text).countP (fun c => !isWhitespace c) = text.countP fun c => !isWhitespace c := by
  fun_induction unCrlf text with
  | case1 => rfl
  | case2 cs ih =>
    have cr : isWhitespace '\r' = true := by decide
    simp [List.countP_cons, ih, cr]
  | case3 c cs other ih => rw [List.countP_cons, List.countP_cons, ih]

theorem getLast?_unCrlf (text : List Char) : (unCrlf text).getLast? = text.getLast? := by
  fun_induction unCrlf text with
  | case1 => rfl
  | case2 cs ih | case3 c cs other ih => simp [List.getLast?_cons, ih]

theorem unCrlf_eq_self_iff (text : List Char) : unCrlf text = text ↔ ¬['\r', '\n'] <:+: text := by
  fun_induction unCrlf text with
  | case1 => simp
  | case2 cs ih => simp [List.infix_cons_iff]
  | case3 c cs other ih =>
    have here : ¬['\r', '\n'] <+: c :: cs := by
      rintro ⟨rest, e⟩
      obtain ⟨rfl, rfl⟩ := List.cons.inj e
      exact other rest rfl rfl
    rw [List.infix_cons_iff, or_iff_right here, ← ih]
    simp

theorem bordered_unCrlf (h : Bordered isWhitespace text) : Bordered isWhitespace (unCrlf text) where
  head c mem := by
    cases text with
    | nil => cases mem
    | cons d cs =>
      have solid : isWhitespace d = false := h.head d rfl
      have apart : d = '\r' → cs.head? ≠ some '\n' := by
        rintro rfl
        cases solid
      rw [unCrlf_cons apart] at mem
      cases mem
      exact solid
  last c mem := h.last c (by rwa [getLast?_unCrlf] at mem)

theorem trimBy_unCrlf (left : ∀ c ∈ a, isWhitespace c = true)
    (bordered : Bordered isWhitespace middle) (right : ∀ c ∈ b, isWhitespace c = true) :
    trimBy isWhitespace (unCrlf (a ++ middle ++ b)) = unCrlf middle := by
  have white : ∀ text : List Char, (∀ c ∈ text, isWhitespace c = true) →
      ∀ c ∈ unCrlf text, isWhitespace c = true :=
    fun text all c mem => all c ((unCrlf_sublist text).subset mem)
  cases middle with
  | nil =>
    have all : ∀ c ∈ a ++ [] ++ b, isWhitespace c = true := by
      intro c mem
      rcases List.mem_append.mp mem with mem | mem
      · exact left c (by simpa using mem)
      · exact right c mem
    rw [← List.append_nil (unCrlf _), trimBy_append_of_all_left (white _ all)]
    rfl
  | cons d ds =>
    have before : a.getLast? = some '\r' → (d :: ds).head? ≠ some '\n' := by
      intro _ newline
      cases bordered.head _ newline
    have after : (a ++ d :: ds).getLast? = some '\r' → b.head? ≠ some '\n' := by
      intro return_ _
      rw [List.getLast?_append_cons] at return_
      cases bordered.last _ return_
    rw [unCrlf_append after, unCrlf_append before, trimBy_append_of_all_right (white b right),
      trimBy_append_of_all_left (white a left), (bordered_unCrlf bordered).trimBy_eq_self]

/-- The carriage returns around the trimmed text do not matter. -/
theorem trim_unCrlf_eq_iff (text : List Char) :
    trim (unCrlf text) = trim text ↔ ¬['\r', '\n'] <:+: trim text := by
  obtain ⟨a, b, split, left, right⟩ := exists_eq_append_trimBy isWhitespace text
  have bordered := bordered_trimBy isWhitespace text
  have distilled : trim (unCrlf text) = unCrlf (trim text) := by
    conv_lhs => rw [split]
    exact trimBy_unCrlf left bordered right
  rw [distilled, unCrlf_eq_self_iff]

/-! ## The prompt in the reply -/

theorem not_prefix_newline (nonempty : prompt ≠ []) (inline : '\n' ∉ prompt) (text : List Char) :
    ¬prompt <+: '\n' :: text := by
  intro found
  rcases List.prefix_cons_iff.mp found with empty | ⟨rest, rfl, -⟩
  · exact nonempty empty
  · exact inline List.mem_cons_self

theorem not_prefix_crlf (nonempty : prompt ≠ []) (inline : '\n' ∉ prompt)
    (solid : prompt.getLast? ≠ some '\r') (text : List Char) :
    ¬prompt <+: '\r' :: '\n' :: text := by
  intro found
  rcases List.prefix_cons_iff.mp found with empty | ⟨rest, rfl, next⟩
  · exact nonempty empty
  · have more : rest ≠ [] := by
      rintro rfl
      exact solid rfl
    exact not_prefix_newline more (fun mem => inline (List.mem_cons_of_mem _ mem)) text next

theorem prefix_unCrlf_iff (nonempty : prompt ≠ []) (inline : '\n' ∉ prompt)
    (solid : prompt.getLast? ≠ some '\r') (text : List Char) :
    prompt <+: unCrlf text ↔ prompt <+: text := by
  fun_induction unCrlf text generalizing prompt with
  | case1 => rfl
  | case2 cs ih =>
    exact iff_of_false (not_prefix_newline nonempty inline _)
      (not_prefix_crlf nonempty inline solid cs)
  | case3 c cs other ih =>
    obtain ⟨d, p, rfl⟩ := List.exists_cons_of_ne_nil nonempty
    rw [List.cons_prefix_cons, List.cons_prefix_cons]
    by_cases empty : p = []
    · simp [empty]
    · have inline' : '\n' ∉ p := fun mem => inline (List.mem_cons_of_mem d mem)
      have solid' : p.getLast? ≠ some '\r' := by
        intro last
        exact solid (by simp [List.getLast?_cons, last])
      rw [ih empty inline' solid']

/-- A prompt of one line that ends in no carriage return stands in a text or not, whatever
its line ends are. -/
theorem infix_unCrlf_iff (nonempty : prompt ≠ []) (inline : '\n' ∉ prompt)
    (solid : prompt.getLast? ≠ some '\r') (text : List Char) :
    prompt <:+: unCrlf text ↔ prompt <:+: text := by
  fun_induction unCrlf text with
  | case1 => rfl
  | case2 cs ih =>
    rw [List.infix_cons_iff, or_iff_right (not_prefix_newline nonempty inline _), ih,
      List.infix_cons_iff, or_iff_right (not_prefix_crlf nonempty inline solid _),
      List.infix_cons_iff, or_iff_right (not_prefix_newline nonempty inline _)]
  | case3 c cs other ih =>
    have apart : c = '\r' → cs.head? ≠ some '\n' := by
      intro e next
      obtain ⟨cs', rfl⟩ := List.head?_eq_some_iff.mp next
      exact other cs' e rfl
    have here := prefix_unCrlf_iff nonempty inline solid (c :: cs)
    rw [unCrlf_cons apart] at here
    rw [List.infix_cons_iff, List.infix_cons_iff, here, ih]

theorem infix_concat_newline_iff (nonempty : prompt ≠ []) (inline : '\n' ∉ prompt)
    (text : List Char) : prompt <:+: text ++ ['\n'] ↔ prompt <:+: text := by
  have noSuffix : ¬prompt <:+ text ++ ['\n'] := by
    intro found
    rcases List.suffix_concat_iff.mp found with empty | ⟨rest, rfl, -⟩
    · exact nonempty empty
    · exact inline (by simp)
  rw [List.infix_concat_iff, or_iff_right noSuffix]

/-! ## The distilled reply -/

/-- The screen after the prompt, cut into lines and joined again. -/
def screenText (reply : List Char) : List Char := ['\n'].intercalate (lines ('\n' :: reply))

theorem isNoiseLine_nil : isNoiseLine prompt [] = false := by
  simp [isNoiseLine, trim, isPromptEchoLine, isReplyChromeLine]

/-- The prompt ends where the reply starts, and no line of the reply is noise. -/
theorem distillReply_screen (nonempty : prompt ≠ [])
    (plain : esc ∉ prompt) (trimmed : trim prompt = prompt) (plainReply : esc ∉ reply)
    (quiet : ∀ line ∈ lines reply, isNoiseLine prompt line = false) :
    distillReply (prompt ++ '\n' :: reply) prompt =
      trim (match cut prompt (screenText reply) with
        | some (before, after) => before ++ after
        | none => screenText reply) := by
  have noEsc : esc ∉ prompt ++ '\n' :: reply := by
    simp only [List.mem_append, List.mem_cons, not_or]
    exact ⟨plain, by decide, plainReply⟩
  have kept : (lines ('\n' :: reply)).filter (fun line => !isNoiseLine prompt line) =
      lines ('\n' :: reply) := by
    rw [List.filter_eq_self, lines_newline]
    intro line mem
    rcases List.mem_cons.mp mem with rfl | mem
    · rw [isNoiseLine_nil]
      rfl
    · rw [quiet line mem]
      rfl
  have isEmpty : prompt.isEmpty = false := by simpa using nonempty
  simp only [distillReply, stripAnsiEscapes_of_not_mem noEsc,
    promptMatchEndByte_of_trimmed nonempty trimmed, sliceFrom_append, kept, isEmpty]
  rfl

section Screen

variable (reply : List Char)

theorem unCrlf_newline_cons :
    unCrlf ('\n' :: reply) = screenText reply ∨
      unCrlf ('\n' :: reply) = screenText reply ++ ['\n'] :=
  unCrlf_eq_intercalate ('\n' :: reply)

theorem isWhitespace_of_mem_newline (mem : c ∈ ['\n']) : isWhitespace c = true := by
  rw [List.mem_singleton.mp mem]
  decide

theorem trim_newline_cons : trim ('\n' :: reply) = trim reply :=
  trimBy_append_of_all_left fun _ => isWhitespace_of_mem_newline

theorem trim_screenText : trim (screenText reply) = trim (unCrlf ('\n' :: reply)) := by
  rcases unCrlf_newline_cons reply with e | e
  · rw [e]
  · rw [e]
    exact (trimBy_append_of_all_right fun _ => isWhitespace_of_mem_newline).symm

theorem countP_screenText :
    (screenText reply).countP (fun c => !isWhitespace c) =
      reply.countP fun c => !isWhitespace c := by
  rw [← countP_trimBy, ← trim_eq_trimBy, trim_screenText, trim_eq_trimBy, countP_trimBy,
    countP_unCrlf, ← countP_trimBy, ← trim_eq_trimBy, trim_newline_cons, trim_eq_trimBy,
    countP_trimBy]

theorem infix_screenText_iff (nonempty : prompt ≠ []) (inline : '\n' ∉ prompt)
    (solid : prompt.getLast? ≠ some '\r') : prompt <:+: screenText reply ↔ prompt <:+: reply := by
  have text : prompt <:+: screenText reply ↔ prompt <:+: unCrlf ('\n' :: reply) := by
    rcases unCrlf_newline_cons reply with e | e
    · rw [e]
    · rw [e, infix_concat_newline_iff nonempty inline]
  rw [text, infix_unCrlf_iff nonempty inline solid, List.infix_cons_iff,
    or_iff_right (not_prefix_newline nonempty inline _)]

end Screen

/-- The distilled text is the reply exactly if the reply does not repeat the prompt and has no
CR-LF between its first and its last character. -/
theorem distillReply_eq_iff {prompt reply : List Char} (nonempty : prompt ≠ [])
    (inline : '\n' ∉ prompt) (plain : esc ∉ prompt) (trimmed : trim prompt = prompt)
    (plainReply : esc ∉ reply) (quiet : ∀ line ∈ lines reply, isNoiseLine prompt line = false) :
    distillReply (prompt ++ '\n' :: reply) prompt = trim reply ↔
      ¬prompt <:+: reply ∧ ¬['\r', '\n'] <:+: trim reply := by
  have bordered := bordered_of_trim trimmed
  have solid : prompt.getLast? ≠ some '\r' := by
    intro return_
    cases bordered.last _ return_
  rw [distillReply_screen nonempty plain trimmed plainReply quiet,
    ← infix_screenText_iff reply nonempty inline solid, ← cut_eq_none_iff]
  cases found : cut prompt (screenText reply) with
  | none =>
    have lineEnds := trim_unCrlf_eq_iff ('\n' :: reply)
    rw [trim_newline_cons] at lineEnds
    simp [trim_screenText, lineEnds]
  | some parts =>
    -- the text that is cut out is not all whitespace, so there is too little left
    refine iff_of_false (fun same => ?_) (by simp)
    have solidPrompt : 0 < prompt.countP fun c => !isWhitespace c := by
      obtain ⟨c, cs, rfl⟩ := List.exists_cons_of_ne_nil nonempty
      have first : isWhitespace c = false := bordered.head c rfl
      exact List.countP_pos_iff.mpr ⟨c, List.mem_cons_self, by simp [first]⟩
    have whole := countP_screenText reply
    rw [cut_eq_some found, List.countP_append, List.countP_append, ← countP_trimBy _ reply,
      ← trim_eq_trimBy, ← same, trim_eq_trimBy, countP_trimBy, List.countP_append] at whole
    omega

theorem distillReply_eq_iff_done :
    distillReply ("task".toList ++ '\n' :: "done.\r\n".toList) "task".toList =
      trim "done.\r\n".toList :=
  (distillReply_eq_iff (by decide) (by decide) (by decide) (by decide +kernel) (by decide)
    (by decide +kernel)).mpr (by decide +kernel)

/-- A reply that has the prompt in the middle of a word loses it. -/
theorem not_distillReply_repeated :
    ¬∀ prompt reply : List Char, prompt ≠ [] → '\n' ∉ prompt → esc ∉ prompt →
      trim prompt = prompt → esc ∉ reply →
      (∀ line ∈ lines reply, isNoiseLine prompt line = false) →
      distillReply (prompt ++ '\n' :: reply) prompt = trim reply := by
  intro h
  have kept := h "test".toList "All tests pass.".toList (by decide) (by decide) (by decide)
    (by decide +kernel) (by decide) (by decide +kernel)
  have lost : distillReply ("test".toList ++ '\n' :: "All tests pass.".toList) "test".toList =
      "All s pass.".toList := by decide +kernel
  exact absurd kept (by decide +kernel)

end Ccbd.Reply
