import Mathlib.Data.List.Forall2

/-!
# Fallible steps

What a sequence of fallible steps that succeeds says of each of them.
-/

namespace Ccbd

variable {ε α β σ : Type} {x : Except ε α} {a : α} {b : β} {e : ε} {xs : List α}

theorem ok_bind (a : α) (f : α → Except ε β) : ((.ok a : Except ε α) >>= f) = f a := rfl

theorem bind_eq_ok {f : α → Except ε β} : (x >>= f) = .ok b ↔ ∃ a, x = .ok a ∧ f a = .ok b := by
  cases x <;> simp [bind, Except.bind]

theorem map_eq_ok {f : α → β} : x.map f = .ok b ↔ ∃ a, x = .ok a ∧ f a = b := by
  cases x <;> simp [Except.map]

theorem mapError_eq_ok {ε' : Type} {f : ε → ε'} : x.mapError f = .ok a ↔ x = .ok a := by
  cases x <;> simp [Except.mapError]

theorem toBool_eq_true : x.toBool = true ↔ ∃ a, x = .ok a := by
  cases x <;> simp [Except.toBool]

theorem elim_eq_ok {o : Option α} : o.elim (.error e) .ok = Except.ok a ↔ o = some a := by
  cases o <;> simp

theorem count_eq_ok {x : Except ε (Nat × σ)} {loop : σ → Except ε (Nat × σ)} {n : Nat} {s' : σ}
    (h : (do let (k, s) ← x; let (m, s) ← loop s; return (k + m, s)) = Except.ok (n, s')) :
    ∃ k s m, x = .ok (k, s) ∧ loop s = .ok (m, s') := by
  obtain ⟨⟨k, s⟩, first, h⟩ := bind_eq_ok.mp h
  obtain ⟨⟨m, s₂⟩, later, h⟩ := bind_eq_ok.mp h
  cases h
  exact ⟨k, s, m, first, later⟩

theorem check_eq_ok {p : Prop} [Decidable p] {x : Except ε β} :
    (if p then .error e else x) = .ok b ↔ ¬ p ∧ x = .ok b := by
  by_cases h : p <;> simp [h]

theorem mapM_eq_ok {f : α → Except ε β} {ys : List β} :
    xs.mapM f = .ok ys ↔ List.Forall₂ (fun x y => f x = .ok y) xs ys := by
  induction xs generalizing ys with
  | nil => simp [pure, Except.pure, eq_comm]
  | cons x xs ih =>
    simp only [List.mapM_cons, bind_eq_ok, ih, List.forall₂_cons_left_iff, pure, Except.pure]
    grind

/-- How a function ends that returns no value: with an error, or in a panic. -/
inductive Abort (ε : Type) where
  | error (err : ε)
  | panic
deriving DecidableEq, Repr

def Abort.map {ε' : Type} (f : ε → ε') : Abort ε → Abort ε'
  | error err => error (f err)
  | panic => panic

/-- A relation that every step keeps is kept by the fold. -/
theorem foldlM_simulates {σ' : Type} {R : σ → σ' → Prop} {f : σ → α → Except ε σ}
    {g : σ' → α → Except ε σ'} {s t : σ} {s' : σ'}
    (h : R s s') (folded : xs.foldlM f s = .ok t)
    (step : ∀ {s s' a t}, R s s' → f s a = .ok t → ∃ t', g s' a = .ok t' ∧ R t t') :
    ∃ t', xs.foldlM g s' = .ok t' ∧ R t t' := by
  induction xs generalizing s s' with
  | nil =>
    cases folded
    exact ⟨s', rfl, h⟩
  | cons x xs ih =>
    obtain ⟨s₁, first, rest⟩ := bind_eq_ok.mp folded
    obtain ⟨s₁', first', h₁⟩ := step h first
    obtain ⟨t', rest', h'⟩ := ih h₁ rest
    exact ⟨t', bind_eq_ok.mpr ⟨s₁', first', rest'⟩, h'⟩

end Ccbd
