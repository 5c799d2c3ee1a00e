import Mathlib.Data.List.DropRight
import Mathlib.Data.List.TakeWhile

/-!
# Trimming

`trimBy p l` is `l` without the elements at its ends that satisfy `p`. Such elements can be
added at either end without a difference, and a list that is bordered by others is left
alone.
-/

namespace Ccbd.Lib

variable {α : Type} {p : α → Bool} {a b l : List α}

def trimBy (p : α → Bool) (l : List α) : List α := (l.dropWhile p).rdropWhile p

theorem trimBy_append_of_all_left (h : ∀ x ∈ a, p x = true) : trimBy p (a ++ l) = trimBy p l := by
  rw [trimBy, List.dropWhile_append_of_pos h, trimBy]

theorem rdropWhile_append_of_all (h : ∀ x ∈ b, p x = true) :
    (l ++ b).rdropWhile p = l.rdropWhile p := by
  rw [List.rdropWhile, List.reverse_append, List.dropWhile_append_of_pos (by simpa using h),
    List.rdropWhile]

theorem trimBy_append_of_all_right (h : ∀ x ∈ b, p x = true) : trimBy p (l ++ b) = trimBy p l := by
  rw [trimBy, List.dropWhile_append]
  split
  · rename_i empty
    have gone : b.dropWhile p = [] := List.dropWhile_eq_nil_iff.mpr h
    rw [gone, trimBy, List.isEmpty_iff.mp empty]
  · rw [rdropWhile_append_of_all h, trimBy]

theorem exists_eq_append_trimBy (p : α → Bool) (l : List α) :
    ∃ a b, l = a ++ trimBy p l ++ b ∧ (∀ x ∈ a, p x = true) ∧ ∀ x ∈ b, p x = true := by
  refine ⟨l.takeWhile p, (l.dropWhile p).rtakeWhile p, ?_, ?_, ?_⟩
  · rw [List.append_assoc, trimBy, List.rdropWhile_append_rtakeWhile,
      List.takeWhile_append_dropWhile]
  · intro x mem
    exact List.mem_takeWhile_imp mem
  · intro x mem
    exact List.mem_rtakeWhile_imp mem

theorem countP_trimBy (p : α → Bool) (l : List α) :
    (trimBy p l).countP (fun x => !p x) = l.countP fun x => !p x := by
  obtain ⟨a, b, split, left, right⟩ := exists_eq_append_trimBy p l
  have none : ∀ c : List α, (∀ x ∈ c, p x = true) → c.countP (fun x => !p x) = 0 := by
    intro c all
    rw [List.countP_eq_zero]
    intro x mem
    simp [all x mem]
  conv_rhs => rw [split, List.countP_append, List.countP_append, none a left, none b right]
  omega

/-- Neither end of the list satisfies `p`. -/
structure Bordered (p : α → Bool) (l : List α) : Prop where
  head : ∀ x ∈ l.head?, p x = false
  last : ∀ x ∈ l.getLast?, p x = false

theorem Bordered.trimBy_eq_self (h : Bordered p l) : trimBy p l = l := by
  have front : l.dropWhile p = l := by
    cases l with
    | nil => rfl
    | cons x xs => exact List.dropWhile_cons_of_neg (by simp [h.head x rfl])
  rw [trimBy, front, List.rdropWhile_eq_self_iff]
  intro nonempty
  simp [h.last _ (List.getLast?_eq_some_getLast nonempty)]

theorem bordered_trimBy (p : α → Bool) (l : List α) : Bordered p (trimBy p l) where
  head x mem := by
    obtain ⟨rest, same⟩ : trimBy p l <+: l.dropWhile p := List.rdropWhile_prefix p _
    have front : (l.dropWhile p).head? = some x := by
      rw [← same, List.head?_append, Option.mem_def.mp mem, Option.some_or]
    simpa [front] using List.head?_dropWhile_not p l
  last x mem := by
    obtain ⟨nonempty, rfl⟩ := List.mem_getLast?_eq_getLast mem
    have stopped := List.rdropWhile_last_not p (l.dropWhile p) nonempty
    exact Bool.eq_false_iff.mpr stopped

end Ccbd.Lib
