import Mathlib.Data.List.Basic
import Mathlib.Data.Nat.Notation

/-! # Flat memories and their slices

A buffer is a total map from offsets to cells: what lies past the bytes in use is whatever the
allocator left there, and a reader may look at it. `slice m off n` is the list a `memcpy` out of
the buffer copies, `write m off l` the buffer after a `memcpy` into it. The lemmas say how slices
split, and what a slice sees of a write behind, at and in front of it. -/

namespace FlatMemory

variable {β : Type*}

/-- The `n` cells of `m` from offset `off` on. -/
def slice (m : ℕ → β) (off n : ℕ) : List β := (List.range n).map fun i => m (off + i)

/-- The memory `m` with the cells of `l` stored from offset `off` on. -/
def write (m : ℕ → β) (off : ℕ) (l : List β) : ℕ → β := fun i =>
  if off ≤ i then l[i - off]?.getD (m i) else m i

@[simp] theorem slice_zero (m : ℕ → β) (off : ℕ) : slice m off 0 = [] := rfl

@[simp] theorem length_slice (m : ℕ → β) (off n : ℕ) : (slice m off n).length = n := by
  simp [slice]

theorem getElem?_slice (m : ℕ → β) (off n i : ℕ) :
    (slice m off n)[i]? = if i < n then some (m (off + i)) else none := by
  by_cases hi : i < n
  · simp [slice, hi]
  · simp [slice, hi]

/-- A slice splits at any point into the two shorter slices. -/
theorem slice_add (m : ℕ → β) (off a b : ℕ) :
    slice m off (a + b) = slice m off a ++ slice m (off + a) b := by
  simp [slice, List.range_add, Nat.add_assoc]

/-- The first cell of a non-empty slice. -/
theorem slice_succ (m : ℕ → β) (off n : ℕ) :
    slice m off (n + 1) = m off :: slice m (off + 1) n := by
  rw [Nat.add_comm n 1, slice_add]
  rfl

theorem drop_slice (m : ℕ → β) (off n k : ℕ) (hk : k ≤ n) :
    (slice m off n).drop k = slice m (off + k) (n - k) := by
  obtain ⟨d, rfl⟩ := Nat.exists_eq_add_of_le hk
  rw [slice_add, List.drop_left' (length_slice m off k), Nat.add_sub_cancel_left]

theorem take_slice (m : ℕ → β) (off n k : ℕ) (hk : k ≤ n) :
    (slice m off n).take k = slice m off k := by
  obtain ⟨d, rfl⟩ := Nat.exists_eq_add_of_le hk
  rw [slice_add, List.take_left' (length_slice m off k)]

/-- Two memories that agree on a range have the same slice there. -/
theorem slice_congr {m m' : ℕ → β} {off n : ℕ} (h : ∀ i, i < n → m (off + i) = m' (off + i)) :
    slice m off n = slice m' off n := by
  unfold slice
  exact List.map_congr_left fun i hi => h i (List.mem_range.mp hi)

/-- A write leaves every cell in front of it alone. -/
theorem write_of_lt (m : ℕ → β) {off i : ℕ} (l : List β) (h : i < off) :
    write m off l i = m i := by
  rw [write, if_neg (Nat.not_le.mpr h)]

/-- A slice in front of a write does not see it. -/
theorem slice_write_of_le (m : ℕ → β) (l : List β) {off n k : ℕ} (h : off + n ≤ k) :
    slice (write m k l) off n = slice m off n :=
  slice_congr fun i hi => write_of_lt m l (by omega)

/-- The slice a write covers is what was written. -/
theorem slice_write_self (m : ℕ → β) (off : ℕ) (l : List β) :
    slice (write m off l) off l.length = l := by
  apply List.ext_getElem?
  intro i
  rw [getElem?_slice]
  by_cases hi : i < l.length
  · rw [if_pos hi, write, if_pos (Nat.le_add_right off i), Nat.add_sub_cancel_left,
      List.getElem?_eq_getElem hi, Option.getD_some]
  · rw [if_neg hi, List.getElem?_eq_none (Nat.le_of_not_lt hi)]

/-- A write right behind a prefix extends the prefix by what was written. -/
theorem slice_write_append (m : ℕ → β) (n : ℕ) (l : List β) :
    slice (write m n l) 0 (n + l.length) = slice m 0 n ++ l := by
  have hself := slice_write_self m n l
  rw [slice_add, slice_write_of_le m l (by omega : 0 + n ≤ n), Nat.zero_add, hself]

/-- **What `memcpy` requires**: no cell is both one of the `n` cells at `dst` and one of the `n` cells
at `src`. -/
def Apart (dst src n : ℕ) : Prop := ∀ i j, i < n → j < n → dst + i ≠ src + j

/-- Two ranges are apart exactly when one ends in front of the other. -/
theorem apart_iff {dst src n : ℕ} : Apart dst src n ↔ n = 0 ∨ dst + n ≤ src ∨ src + n ≤ dst := by
  constructor
  · intro h
    by_contra hcon
    -- the range that begins later begins inside the other one
    rcases Nat.le_total dst src with hle | hle
    · exact h (src - dst) 0 (by omega) (by omega) (by omega)
    · exact h 0 (dst - src) (by omega) (by omega) (by omega)
  · intro h i j hi hj
    omega

instance (dst src n : ℕ) : Decidable (Apart dst src n) := decidable_of_iff _ apart_iff.symm

end FlatMemory
