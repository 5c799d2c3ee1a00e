import Mathlib.Data.List.Basic
import Mathlib.Logic.Function.Basic

/-!
# A registry of cancellable tasks

Tasks are registered under keys, one at a time, and named by their position in the order of
registration. The sending end of a task's cancel channel lies in the registry. Registering a
task under a taken key signals the task that held it; cancelling a key removes its entry
and signals the task.

The fields `registered`, `owned` and `fresh` say that the sending end of a task's channel
is in the registry exactly as long as the channel has not been used.
-/

namespace Ccbd.Lib

structure Slots (κ τ : Type) where
  /-- Every task ever registered, with its key. -/
  tasks : List (κ × τ)
  entry : κ → Option Nat
  signalled : Nat → Bool
  registered : ∀ {k i}, entry k = some i → tasks[i]?.map Prod.fst = some k ∧ signalled i = false
  owned : ∀ {k i}, tasks[i]?.map Prod.fst = some k → signalled i = false → entry k = some i
  fresh : ∀ {i}, tasks.length ≤ i → signalled i = false

namespace Slots

variable {κ τ : Type} [DecidableEq κ] {s : Slots κ τ} {k k' : κ} {i m : Nat}

/-- The key under which task `i` was registered. -/
def keyOf (s : Slots κ τ) (i : Nat) : Option κ := s.tasks[i]?.map Prod.fst

omit [DecidableEq κ] in
theorem entry_inj (h : s.entry k = some i) (h' : s.entry k' = some i) : k = k' :=
  Option.some.inj ((s.registered h).1.symm.trans (s.registered h').1)

omit [DecidableEq κ] in
theorem lt_of_entry (h : s.entry k = some i) : i < s.tasks.length := by
  by_contra hi
  have := (s.registered h).1
  rw [List.getElem?_eq_none (Nat.not_lt.mp hi)] at this
  cases this

def empty : Slots κ τ where
  tasks := []
  entry _ := none
  signalled _ := false
  registered h := by cases h
  owned h := by simp at h
  fresh _ := rfl

/-- A new task takes the key. -/
def register (s : Slots κ τ) (k : κ) (t : τ) : Slots κ τ where
  tasks := s.tasks ++ [(k, t)]
  entry := Function.update s.entry k (some s.tasks.length)
  signalled i := s.signalled i || decide (s.entry k = some i)
  registered {k' i} h := by
    by_cases e : k' = k
    · subst e
      obtain rfl : s.tasks.length = i := by simpa using h
      have free : s.entry k' ≠ some s.tasks.length := fun he => Nat.lt_irrefl _ (lt_of_entry he)
      simp [s.fresh (Nat.le_refl _), free]
    · rw [Function.update_of_ne e] at h
      have free : s.entry k ≠ some i := fun he => e (entry_inj h he)
      simpa [List.getElem?_append_left (lt_of_entry h), free] using s.registered h
  owned {k' i} h hs := by
    simp only [Bool.or_eq_false_iff, decide_eq_false_iff_not] at hs
    rcases Nat.lt_trichotomy i s.tasks.length with hi | rfl | hi
    · rw [List.getElem?_append_left hi] at h
      have he := s.owned h hs.1
      have ne : k' ≠ k := fun e => hs.2 (e ▸ he)
      rw [Function.update_of_ne ne, he]
    · obtain rfl : k = k' := by simpa using h
      simp
    · rw [List.getElem?_eq_none (by simpa using Nat.succ_le_of_lt hi)] at h
      cases h
  fresh {i} h := by
    have hi : s.tasks.length ≤ i := Nat.le_trans (by simp) h
    have free : s.entry k ≠ some i := fun he => absurd (lt_of_entry he) (Nat.not_lt.mpr hi)
    simp [s.fresh hi, free]

/-- The entry of the key is taken out and its channel used. -/
def cancel (s : Slots κ τ) (k : κ) : Slots κ τ where
  tasks := s.tasks
  entry := Function.update s.entry k none
  signalled i := s.signalled i || decide (s.entry k = some i)
  registered {k' i} h := by
    by_cases e : k' = k
    · simp [e] at h
    · rw [Function.update_of_ne e] at h
      have free : s.entry k ≠ some i := fun he => e (entry_inj h he)
      simpa [free] using s.registered h
  owned {k' i} h hs := by
    simp only [Bool.or_eq_false_iff, decide_eq_false_iff_not] at hs
    have he := s.owned h hs.1
    have ne : k' ≠ k := fun e => hs.2 (e ▸ he)
    rw [Function.update_of_ne ne, he]
  fresh {i} h := by
    have free : s.entry k ≠ some i := fun he => absurd (lt_of_entry he) (Nat.not_lt.mpr h)
    simp [s.fresh h, free]

omit [DecidableEq κ] in
theorem modify_fst (l : List (κ × τ)) (i j : Nat) (f : τ → τ) :
    (l.modify i fun p => (p.1, f p.2))[j]?.map Prod.fst = l[j]?.map Prod.fst := by
  by_cases e : i = j <;> simp [e, Function.comp_def]

/-- A task moves on. -/
def modify (s : Slots κ τ) (i : Nat) (f : τ → τ) : Slots κ τ where
  tasks := s.tasks.modify i fun p => (p.1, f p.2)
  entry := s.entry
  signalled := s.signalled
  registered {k j} h := by
    rw [modify_fst]
    exact s.registered h
  owned {k j} h hs := s.owned (by rwa [modify_fst] at h) hs
  fresh {j} h := s.fresh (by simpa using h)

/-- The step from `s` to `s'` takes another task's entry out of the registry, or uses
another task's channel. -/
def DisturbsOther (s s' : Slots κ τ) (i : Nat) : Prop :=
  ∃ m, m ≠ i ∧ ((∃ k, s.entry k = some m ∧ s'.entry k ≠ some m) ∨
    (s.signalled m = false ∧ s'.signalled m = true))

omit [DecidableEq κ] in
theorem not_disturbsOther_of_eq {s' : Slots κ τ} (entry : s'.entry = s.entry)
    (signalled : s'.signalled = s.signalled) : ¬s.DisturbsOther s' i := by
  rintro ⟨m, -, ⟨k, h, h'⟩ | ⟨h, h'⟩⟩
  · exact h' (entry ▸ h)
  · rw [signalled, h] at h'
    cases h'

/-- A task that cancels its own key disturbs no other task exactly when its channel is
unused or the key is free. -/
theorem disturbsOther_cancel (own : s.keyOf i = some k) :
    ¬s.DisturbsOther (s.cancel k) i ↔ s.signalled i = false ∨ s.entry k = none := by
  constructor
  · intro h
    by_contra hne
    rw [not_or, Bool.not_eq_false] at hne
    obtain ⟨m, hm⟩ := Option.ne_none_iff_exists'.mp hne.2
    have ne : m ≠ i := by
      rintro rfl
      simp [(s.registered hm).2] at hne
    exact h ⟨m, ne, .inl ⟨k, hm, by simp [cancel]⟩⟩
  · intro h
    have only : ∀ m, s.entry k = some m → m = i := by
      intro m hm
      rcases h with h | h
      · exact Option.some.inj (hm.symm.trans (s.owned own h))
      · simp [h] at hm
    rintro ⟨m, ne, ⟨k', hm, hm'⟩ | ⟨hm, hm'⟩⟩
    · by_cases e : k' = k
      · exact ne (only m (e ▸ hm))
      · exact hm' (by simpa [cancel, Function.update_of_ne e] using hm)
    · simp only [cancel, hm, Bool.false_or, decide_eq_true_eq] at hm'
      exact ne (only m hm')

end Slots

end Ccbd.Lib
