import Mathlib.Algebra.Ring.Nat

/-! # `size_t`

Counts of the code are `size_t`s, 64 bits wide. -/

namespace Ezgrpc2

/-- A `size_t` keeps a number modulo `2 ^ 64`. -/
@[irreducible] def sizeT (n : ℕ) : ℕ := n % 2 ^ 64

/-- A value of the type, a number below `2 ^ 64`. -/
abbrev Size := {n : ℕ // n < 2 ^ 64}

theorem sizeT_eq (n : ℕ) : sizeT n = n % 2 ^ 64 := by rw [sizeT]

theorem sizeT_of_lt {n : ℕ} (h : n < 2 ^ 64) : sizeT n = n := by
  rw [sizeT, Nat.mod_eq_of_lt h]

/-- One less than a positive `size_t`; below zero it wraps around. -/
@[irreducible] def sizePred (n : ℕ) : ℕ := if n = 0 then 2 ^ 64 - 1 else n - 1

theorem sizePred_of_pos {n : ℕ} (h0 : 0 < n) : sizePred n = n - 1 := by
  rw [sizePred, if_neg (Nat.ne_of_gt h0)]

theorem sizePred_succ (n : ℕ) : sizePred (n + 1) = n := sizePred_of_pos (Nat.succ_pos n)

end Ezgrpc2
