import Ccbd.Completion.Reply
import Mathlib.Data.List.Induction

/-!
# Where the prompt ends

`prompt_match_end_byte` looks for a prompt in a text, with runs of whitespace as one blank, and
answers with a byte offset into the text as it was. The offsets are kept in a table that is
filled along the normalisation.
-/

namespace Ccbd.Reply

/-! ## The loop -/

@[simp] theorem byteLen_append (a b : List Char) : byteLen (a ++ b) = byteLen a + byteLen b := by
  induction a with
  | nil => simp [byteLen]
  | cons c cs ih => simp [byteLen, ih, Nat.add_assoc]

theorem normalizeLoop_concat (text : List Char) (c : Char) :
    normalizeLoop (text ++ [c]) = (normalizeLoop text).step c := by
  simp [normalizeLoop]

theorem ne_blank (solid : ¬isWhitespace c = true) : c ≠ ' ' := by
  rintro rfl
  exact solid rfl

/-- The flag tells of a blank pushed last, and the index is the length. -/
theorem normalizeLoop_fields (text : List Char) :
    (normalizeLoop text).inWhitespace = endsBlank (normalizeLoop text).pushed ∧
      (normalizeLoop text).idx = byteLen text := by
  induction text using List.reverseRecOn with
  | nil => exact ⟨rfl, rfl⟩
  | append_singleton text c ih =>
    rw [normalizeLoop_concat, NormalizeLoop.step]
    split_ifs with white
    · simp [endsBlank, byteLen, ih.2]
    · simp [byteLen, ih]
    · simp [endsBlank, byteLen, ih.2, ne_blank white]

/-- Whitespace changes nothing that is returned, and any other character is returned after all
that was and perhaps a blank. -/
theorem endOffsets_concat (text : List Char) (c : Char) :
    ∃ gap, (∀ y ∈ gap, y.1 = ' ') ∧ normalizeWhitespaceWithEndOffsets (text ++ [c]) =
      if isWhitespace c then normalizeWhitespaceWithEndOffsets text
      else normalizeWhitespaceWithEndOffsets text ++ gap ++ [(c, byteLen (text ++ [c]))] := by
  obtain ⟨flag, idx⟩ := normalizeLoop_fields text
  have returned : normalizeWhitespaceWithEndOffsets (text ++ [c]) =
      if isWhitespace c then normalizeWhitespaceWithEndOffsets text
      else (normalizeLoop text).pushed ++ [(c, byteLen (text ++ [c]))] := by
    simp only [normalizeWhitespaceWithEndOffsets, normalizeLoop_concat, NormalizeLoop.step, flag,
      idx]
    split_ifs with white push blank <;> simp_all [endsBlank, byteLen, ne_blank]
  rw [returned]
  unfold normalizeWhitespaceWithEndOffsets
  rcases List.eq_nil_or_concat' (normalizeLoop text).pushed with empty | ⟨init, y, pushed⟩
  · exact ⟨[], by simp, by simp [empty, endsBlank]⟩
  · rw [pushed]
    by_cases blank : y.1 = ' '
    · exact ⟨[y], by simpa using blank, by simp [endsBlank, blank]⟩
    · exact ⟨[], by simp, by simp [endsBlank, blank]⟩

/-- What is returned ends in a character of the text. -/
theorem exists_last (solid : text.all isWhitespace = false) :
    ∃ init y, normalizeWhitespaceWithEndOffsets text = init ++ [y] ∧ y.1 ≠ ' ' := by
  induction text using List.reverseRecOn with
  | nil => cases solid
  | append_singleton text c ih =>
    obtain ⟨gap, -, returned⟩ := endOffsets_concat text c
    rw [returned]
    split_ifs with white
    · exact ih (by simpa [white] using solid)
    · exact ⟨_, _, rfl, ne_blank white⟩

/-- Nothing that is returned for a front is taken back. -/
theorem endOffsets_prefix (front back : List Char) :
    normalizeWhitespaceWithEndOffsets front <+:
      normalizeWhitespaceWithEndOffsets (front ++ back) := by
  induction back using List.reverseRecOn with
  | nil => simp
  | append_singleton back c ih =>
    obtain ⟨gap, -, returned⟩ := endOffsets_concat (front ++ back) c
    rw [← List.append_assoc, returned]
    split_ifs
    · exact ih
    · rw [List.append_assoc]
      exact ih.trans (List.prefix_append _ _)

/-- The offset of a character is that of the front which it ends. -/
theorem exists_front {k : Nat} (entry : (normalizeWhitespaceWithEndOffsets text)[k]? = some (x, e))
    (solid : x ≠ ' ') : ∃ front, front <+: text ∧ byteLen front = e ∧
      normalizeWhitespaceWithEndOffsets front =
        (normalizeWhitespaceWithEndOffsets text).take (k + 1) := by
  induction text using List.reverseRecOn with
  | nil => cases entry
  | append_singleton text c ih =>
    have kept := endOffsets_prefix text [c]
    by_cases early : k < (normalizeWhitespaceWithEndOffsets text).length
    · obtain ⟨rest, split⟩ := kept
      rw [← split, List.getElem?_append_left early] at entry
      obtain ⟨front, inside, offset, same⟩ := ih entry
      refine ⟨front, inside.trans (List.prefix_append _ _), offset, same.trans ?_⟩
      rw [← split, List.take_append_of_le_length early]
    · -- the blank before the last character is none that is asked for
      obtain ⟨gap, blanks, returned⟩ := endOffsets_concat text c
      have last : byteLen (text ++ [c]) = e ∧
          (normalizeWhitespaceWithEndOffsets (text ++ [c])).length ≤ k + 1 := by grind
      exact ⟨_, List.prefix_rfl, last.1, (List.take_of_length_le last.2).symm⟩

/-! ## The match -/

theorem cut_eq_none_iff (pat text : List Char) : cut pat text = none ↔ ¬pat <:+: text := by
  fun_induction cut pat text with
  | case1 h => simp_all
  | case2 h => simp_all
  | case3 c cs h =>
    have found : pat <:+: c :: cs := (List.isPrefixOf_iff_prefix.mp h).isInfix
    simp [found]
  | case4 c cs h ih =>
    have here : ¬pat <+: c :: cs := fun found => h (List.isPrefixOf_iff_prefix.mpr found)
    rw [List.infix_cons_iff, or_iff_right here, ← ih, Option.map_eq_none_iff]

theorem cut_eq_some (h : cut pat text = some (before, after)) : text = before ++ pat ++ after := by
  fun_induction cut pat text generalizing before after with
  | case1 empty =>
    cases h
    simp [List.isEmpty_iff.mp empty]
  | case2 => cases h
  | case3 c cs found =>
    cases h
    obtain ⟨rest, e⟩ := List.isPrefixOf_iff_prefix.mp found
    rw [← e]
    simp
  | case4 c cs other ih =>
    obtain ⟨⟨before', after'⟩, found, e⟩ := Option.map_eq_some_iff.mp h
    cases e
    rw [List.cons_append, List.cons_append, ← ih found]

theorem length_le_of_cut (h : cut pat text = some (before, after)) (other : a ++ pat <+: text) :
    before.length ≤ a.length := by
  fun_induction cut pat text generalizing a before with
  | case1 | case2 | case3 => grind
  | case4 c cs apart ih =>
    obtain ⟨r, found, same⟩ := Option.map_eq_some_iff.mp h
    cases same
    cases a with
    | nil => exact absurd (List.isPrefixOf_iff_prefix.mpr other) apart
    | cons d a =>
      have shorter := ih found (List.cons_prefix_cons.mp other).2
      simpa using shorter

/-- The last character of a match is none of the blanks. -/
theorem exists_entry (last : normalizeWhitespaceWithEndOffsets prompt = init ++ [y])
    (solid : y.1 ≠ ' ') (found : before ++ normalized prompt <+: normalized raw) :
    ∃ x e k, k + 1 = (before ++ normalized prompt).length ∧ x ≠ ' ' ∧
      (normalizeWhitespaceWithEndOffsets raw)[k]? = some (x, e) := by
  obtain ⟨after, whole⟩ := found
  have text : normalized prompt = init.map Prod.fst ++ [y.1] := by simp [normalized, last]
  have entry : (normalized raw)[(before ++ init.map Prod.fst).length]? = some y.1 := by
    rw [← whole, text]
    simp
  rw [normalized, List.getElem?_map] at entry
  obtain ⟨⟨x, e⟩, there, same⟩ := Option.map_eq_some_iff.mp entry
  exact ⟨x, e, _, by simp [text, Nat.add_assoc], by rwa [← same] at solid, there⟩

/-- The answer is the smallest offset at which the text up to it, normalised, ends with the
prompt. -/
theorem promptMatchEndByte_exact (solid : prompt.all isWhitespace = false) (raw : List Char) :
    ((promptMatchEndByte raw prompt).isSome = true ↔ normalized prompt <:+: normalized raw) ∧
      ∀ e, promptMatchEndByte raw prompt = some e →
        (∃ front, front <+: raw ∧ byteLen front = e ∧ normalized prompt <:+ normalized front) ∧
        ∀ front, front <+: raw → normalized prompt <:+ normalized front → e ≤ byteLen front := by
  obtain ⟨init, y, last, solid⟩ := exists_last solid
  have nonempty : normalized prompt ≠ [] := by simp [normalized, last]
  simp only [promptMatchEndByte, List.isEmpty_iff, if_neg nonempty]
  cases cuts : cut (normalized prompt) (normalized raw) with
  | none => exact ⟨by simpa using (cut_eq_none_iff _ _).mp cuts, nofun⟩
  | some r =>
    obtain ⟨before, after⟩ := r
    have whole := cut_eq_some cuts
    obtain ⟨x, e, k, length, solid, entry⟩ := exists_entry last solid ⟨after, whole.symm⟩
    rw [Option.bind_some, ← List.length_append, ← length, Nat.add_sub_cancel, List.getElem?_map,
      entry]
    refine ⟨by simpa using ⟨before, after, whole.symm⟩, ?_⟩
    rintro _ ⟨⟩
    constructor
    · obtain ⟨front, inside, offset, same⟩ := exists_front entry solid
      refine ⟨front, inside, offset, before, ?_⟩
      rw [normalized.eq_def front, same, List.map_take, ← normalized, whole, length]
      exact List.take_left.symm
    · rintro front ⟨back, rfl⟩ ⟨a, matched⟩
      obtain ⟨rest, kept⟩ := endOffsets_prefix front back
      have earlier : a ++ normalized prompt <+: normalized (front ++ back) :=
        ⟨rest.map Prod.fst, by rw [matched, normalized, normalized, ← kept, List.map_append]⟩
      have first := length_le_of_cut cuts earlier
      have early : k < (normalizeWhitespaceWithEndOffsets front).length := by
        have count := congrArg List.length matched
        rw [normalized.eq_def front, List.length_map] at count
        rw [List.length_append] at count length
        omega
      rw [← kept, List.getElem?_append_left early] at entry
      obtain ⟨front', ⟨back', rfl⟩, offset, -⟩ := exists_front entry solid
      simp [← offset]

/-- The blank of the prompt is found as a tab, and the end of the match before another one. -/
theorem promptMatchEndByte_tab :
    promptMatchEndByte "> ab\t c \té".toList " b\nc ".toList = some 7 ∧
      ∀ front, front <+: "> ab\t c \té".toList →
        normalized " b\nc ".toList <:+ normalized front → 7 ≤ byteLen front :=
  ⟨by decide, ((promptMatchEndByte_exact (by decide) _).2 7 (by decide)).2⟩

end Ccbd.Reply
