import Mathlib.Data.List.Basic
import Mathlib.Data.Nat.Notation

/-! # Regions of a buffer

What an allocator hands out of a buffer are regions. An allocator that only moves a cursor up keeps
all of them in front of it (`Below`), so that a region from the cursor on is none of the earlier
ones (`Below.disjoint`). -/

namespace FlatMemory

/-- A region of a buffer: where it begins, and how long it is. -/
structure Region where
  /-- The offset of its first cell. -/
  off : ℕ
  /-- The number of cells of the region. -/
  len : ℕ
deriving DecidableEq

namespace Region

variable {r s : Region}

/-- The offset behind the last cell. -/
def stop (r : Region) : ℕ := r.off + r.len

/-- No cell is in both regions. -/
def Disjoint (r s : Region) : Prop :=
  ∀ i, ¬((r.off ≤ i ∧ i < r.stop) ∧ s.off ≤ i ∧ i < s.stop)

/-- A region that ends in front of another one is disjoint from it. -/
theorem disjoint_of_stop_le (h : r.stop ≤ s.off) : s.Disjoint r := by
  rintro i ⟨⟨hs, -⟩, -, hr⟩
  exact absurd (Nat.lt_of_lt_of_le hr h) (Nat.not_lt.mpr hs)

end Region

/-- **The regions end in front of the cursor.** -/
def Below (rs : List Region) (cursor : ℕ) : Prop := ∀ r ∈ rs, r.stop ≤ cursor

variable {rs : List Region} {cursor : ℕ} {r : Region}

theorem below_nil (cursor : ℕ) : Below [] cursor := fun _ hr => absurd hr List.not_mem_nil

/-- A region from the cursor on is disjoint from all of them. -/
theorem Below.disjoint (h : Below rs cursor) (hr : cursor ≤ r.off) : ∀ s ∈ rs, r.Disjoint s :=
  fun s hs => Region.disjoint_of_stop_le (Nat.le_trans (h s hs) hr)

/-- It is handed out, and the cursor is moved behind it. -/
theorem Below.push (h : Below rs cursor) (hr : cursor ≤ r.off) : Below (rs ++ [r]) r.stop := by
  intro s hs
  rcases List.mem_append.mp hs with hs | hs
  · exact Nat.le_trans (h s hs) (Nat.le_trans hr (Nat.le_add_right _ _))
  · exact Nat.le_of_eq (congrArg Region.stop (List.mem_singleton.mp hs))

end FlatMemory
