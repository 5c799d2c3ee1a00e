import Mathlib.Data.Nat.Digits.Defs

/-!
# Regrouping digits

A text in a base that is a power of two is read by regrouping its bits: the bits of the
digits, the most significant first, are cut into words of another width, and an incomplete
word at the end is dropped. It is stated on the numbers that the two sequences denote.
-/

namespace Ccbd.Lib

/-- The number that digits denote, the most significant first. -/
def bigEndian (base : Nat) (digits : List Nat) : Nat := Nat.ofDigits base digits.reverse

@[simp] theorem bigEndian_nil (base : Nat) : bigEndian base [] = 0 := rfl

@[simp] theorem bigEndian_concat (base : Nat) (digits : List Nat) (d : Nat) :
    bigEndian base (digits ++ [d]) = bigEndian base digits * base + d := by
  rw [bigEndian, List.reverse_append, List.reverse_singleton, List.singleton_append,
    Nat.ofDigits_cons, bigEndian, Nat.mul_comm, Nat.add_comm]

theorem bigEndian_injective {base : Nat} {xs ys : List Nat} (many : 1 < base)
    (same : xs.length = ys.length) (hxs : ∀ x ∈ xs, x < base) (hys : ∀ y ∈ ys, y < base)
    (value : bigEndian base xs = bigEndian base ys) : xs = ys := by
  refine List.reverse_inj.mp (Nat.ofDigits_inj_of_len_eq many ?_ ?_ ?_ value)
  · simpa using same
  · simpa using hxs
  · simpa using hys

/-- The words of `w` bits are the whole words in the bits of the digits of `v` bits. -/
structure Regroups (v w : Nat) (digits words : List Nat) : Prop where
  small : ∀ x ∈ words, x < 2 ^ w
  whole : w * words.length ≤ v * digits.length
  most : v * digits.length < w * words.length + w
  value : bigEndian (2 ^ w) words =
    bigEndian (2 ^ v) digits / 2 ^ (v * digits.length - w * words.length)

theorem Regroups.unique {v w : Nat} {digits xs ys : List Nat} (hw : 0 < w)
    (left : Regroups v w digits xs) (right : Regroups v w digits ys) : xs = ys := by
  have same : xs.length = ys.length := by
    have h₁ : w * xs.length < w * (ys.length + 1) := by
      exact Nat.lt_of_le_of_lt left.whole right.most
    have h₂ : w * ys.length < w * (xs.length + 1) := by
      exact Nat.lt_of_le_of_lt right.whole left.most
    have := Nat.lt_of_mul_lt_mul_left h₁
    have := Nat.lt_of_mul_lt_mul_left h₂
    omega
  have many : 1 < 2 ^ w := Nat.one_lt_two_pow (by omega)
  refine bigEndian_injective many same left.small right.small ?_
  rw [left.value, right.value, same]

/-- A buffer that is fed digits of `v` bits and gives off words of `w` bits: what it has
given off and the `count` bits it still holds. -/
structure Buffered (v w : Nat) (digits words : List Nat) (count bits : Nat) : Prop where
  small : ∀ x ∈ words, x < 2 ^ w
  below : bits < 2 ^ count
  partly : count < w
  length : v * digits.length = w * words.length + count
  value : bigEndian (2 ^ v) digits = bigEndian (2 ^ w) words * 2 ^ count + bits

namespace Buffered

variable {v w count bits : Nat} {digits words : List Nat}

theorem empty (hw : 0 < w) : Buffered v w [] [] 0 0 where
  small := by simp
  below := by simp
  partly := hw
  length := by simp
  value := by simp

/-- What a buffer has given off regroups what it was fed. -/
theorem regroups (h : Buffered v w digits words count bits) : Regroups v w digits words where
  small := h.small
  whole := by have := h.length; omega
  most := by have := h.length; have := h.partly; omega
  value := by
    have left : v * digits.length - w * words.length = count := by have := h.length; omega
    rw [left, h.value, Nat.mul_comm, Nat.mul_add_div (Nat.two_pow_pos count),
      Nat.div_eq_of_lt h.below, Nat.add_zero]

theorem fed_lt (h : Buffered v w digits words count bits) {d : Nat} (hd : d < 2 ^ v) :
    bits * 2 ^ v + d < 2 ^ count * 2 ^ v :=
  calc bits * 2 ^ v + d < bits * 2 ^ v + 2 ^ v := by omega
    _ = (bits + 1) * 2 ^ v := by rw [Nat.add_mul, Nat.one_mul]
    _ ≤ 2 ^ count * 2 ^ v := Nat.mul_le_mul_right _ h.below

theorem keep (h : Buffered v w digits words count bits) {d : Nat} (hd : d < 2 ^ v)
    (room : count + v < w) : Buffered v w (digits ++ [d]) words (count + v) (bits * 2 ^ v + d) where
  small := h.small
  below := by
    rw [Nat.pow_add]
    exact h.fed_lt hd
  partly := room
  length := by
    have := h.length
    simp only [List.length_append, List.length_singleton, Nat.mul_add]
    omega
  value := by
    rw [bigEndian_concat, h.value, Nat.pow_add]
    ring

theorem emit (h : Buffered v w digits words count bits) {d rest : Nat} (hd : d < 2 ^ v)
    (hv : v ≤ w) (full : count + v = w + rest) :
    Buffered v w (digits ++ [d]) (words ++ [(bits * 2 ^ v + d) / 2 ^ rest]) rest
      ((bits * 2 ^ v + d) % 2 ^ rest) where
  small := by
    have bound : bits * 2 ^ v + d < 2 ^ rest * 2 ^ w := by
      have scale : 2 ^ count * 2 ^ v = 2 ^ rest * 2 ^ w := by
        rw [← Nat.pow_add, full, Nat.add_comm, Nat.pow_add]
      rw [← scale]
      exact h.fed_lt hd
    intro x hx
    rcases List.mem_append.mp hx with hx | hx
    · exact h.small x hx
    · rw [List.mem_singleton.mp hx]
      exact Nat.div_lt_of_lt_mul bound
  below := Nat.mod_lt _ (Nat.two_pow_pos rest)
  partly := by have := h.partly; omega
  length := by
    have := h.length
    simp only [List.length_append, List.length_singleton, Nat.mul_add]
    omega
  value := by
    have scale : 2 ^ count * 2 ^ v = 2 ^ w * 2 ^ rest := by
      rw [← Nat.pow_add, full, Nat.pow_add]
    have split := Nat.div_add_mod (bits * 2 ^ v + d) (2 ^ rest)
    rw [bigEndian_concat, bigEndian_concat, h.value]
    calc (bigEndian (2 ^ w) words * 2 ^ count + bits) * 2 ^ v + d
        = bigEndian (2 ^ w) words * (2 ^ count * 2 ^ v) + (bits * 2 ^ v + d) := by ring
      _ = bigEndian (2 ^ w) words * (2 ^ w * 2 ^ rest) +
          (2 ^ rest * ((bits * 2 ^ v + d) / 2 ^ rest) + (bits * 2 ^ v + d) % 2 ^ rest) := by
          rw [scale, split]
      _ = _ := by ring

end Buffered

end Ccbd.Lib
