import Mathlib.Algebra.Order.Ring.Int
import Mathlib.Data.List.Basic

/-!
# Mutual exclusion

A lock records its holder, and a thread knows from where it is whether it holds the lock.
The two agree, and stay so when a thread takes the free lock or the holder drops it.
-/

namespace Ccbd.Lib

/-- The threads that are where the lock is held are its holder and no other. -/
def Exclusive {ι : Type} (lock : Option ι) (holds : ι → Prop) : Prop :=
  ∀ i, lock = some i ↔ holds i

namespace Exclusive

variable {ι : Type} {lock : Option ι} {holds holds' : ι → Prop} {i j : ι}

theorem unique (h : Exclusive lock holds) (hi : holds i) (hj : holds j) : i = j := by
  have left := (h i).mpr hi
  rw [(h j).mpr hj] at left
  exact (Option.some.inj left).symm

theorem keep (h : Exclusive lock holds) (same : ∀ j, holds' j ↔ holds j) :
    Exclusive lock holds' := fun j => (h j).trans (same j).symm

theorem acquire (h : Exclusive lock holds) (free : lock = none) (hi : holds' i)
    (others : ∀ j, j ≠ i → (holds' j ↔ holds j)) : Exclusive (some i) holds' := by
  intro j
  by_cases e : j = i
  · simp [e, hi]
  · rw [others j e, ← h j, free]
    simp [Ne.symm e]

theorem release (h : Exclusive lock holds) (hi : holds i) (out : ¬ holds' i)
    (others : ∀ j, j ≠ i → (holds' j ↔ holds j)) : Exclusive none holds' := by
  intro j
  by_cases e : j = i
  · simp [e, out]
  · rw [others j e]
    have alone : ¬ holds j := fun hj => e (h.unique hj hi)
    simp [alone]

end Exclusive

end Ccbd.Lib
