import Mathlib.Data.List.Basic
import Mathlib.Data.Nat.Notation

/-! # `ezgrpc2_list` as sequences

The doubly linked lists of `ezgrpc2_list.c` hold opaque pointers from front to back. Here a list is
the sequence of its elements; an element that is `NULL` is never stored by the callers below, so
the `NULL` a function returns for "nothing" is `none`. -/

namespace Ezgrpc2

variable {α : Type*}

/-- `ezgrpc2_list_push_back`: the data goes behind all others. -/
def listPushBack (l : List α) (data : α) : List α := l ++ [data]

/-- `ezgrpc2_list_push_front`: the data goes in front of all others. -/
def listPushFront (l : List α) (data : α) : List α := data :: l

/-- `ezgrpc2_list_pop_front`: the first element, if there is one, and the list without it. -/
def listPopFront : List α → Option α × List α
  | [] => (none, [])
  | data :: l => (some data, l)

/-- `ezgrpc2_list_pop_back`: the last element, if there is one, and the list without it. -/
def listPopBack (l : List α) : Option α × List α := (l.getLast?, l.dropLast)

/-- `ezgrpc2_list_find`: the first element `cmp` accepts. -/
def listFind (cmp : α → Bool) (l : List α) : Option α := l.find? cmp

/-- `ezgrpc2_list_peek_front`: the first data, which stays in the list. -/
def listPeekFront (l : List α) : Option α := l.head?

/-- `ezgrpc2_list_peek_back`: the last data, which stays in the list. -/
def listPeekBack (l : List α) : Option α := l.getLast?

/-- `ezgrpc2_list_is_empty`: whether the list has no data. -/
def listIsEmpty (l : List α) : Bool := l.length == 0

/-- `ezgrpc2_list_remove`: the first element `cmp` accepts (a `cmp` of 0), if there is one, and the
list without it. `none` is a `cmp` that follows an invalid pointer. -/
def listRemove (cmp : α → Option Bool) : List α → Option (Option α × List α)
  | [] => some (none, [])
  | data :: l =>
      match cmp data with
      | none => none
      | some true => some (some data, l)
      | some false => (listRemove cmp l).map fun r => (r.1, data :: r.2)

/-- `ezgrpc2_list_concat_and_empty_src`: `dst` with `src` behind it, and the emptied `src`. -/
def listConcatAndEmptySrc (dst src : List α) : List α × List α :=
  if src.length = 0 then (dst, src) else (dst ++ src, [])

/-- **`concat` appends and empties**, whether or not `src` was empty already. -/
@[simp] theorem listConcatAndEmptySrc_eq (dst src : List α) :
    listConcatAndEmptySrc dst src = (dst ++ src, []) := by
  rw [listConcatAndEmptySrc]
  by_cases h : src.length = 0
  · rw [if_pos h, List.length_eq_zero_iff.mp h, List.append_nil]
  · rw [if_neg h]

@[simp] theorem listIsEmpty_eq_true (l : List α) : listIsEmpty l = true ↔ l = [] := by
  rw [listIsEmpty, beq_iff_eq, List.length_eq_zero_iff]

/-- `remove` takes out the first element `cmp` accepts and nothing else. -/
theorem listRemove_append {cmp : α → Option Bool} {l : List α} {data : α} (r : List α)
    (h : ∀ a ∈ l, cmp a = some false) (hdata : cmp data = some true) :
    listRemove cmp (l ++ data :: r) = some (some data, l ++ r) := by
  induction l with
  | nil => simp [listRemove, hdata]
  | cons a l ih =>
      have ha := h a List.mem_cons_self
      have htail := ih fun b hb => h b (List.mem_cons_of_mem a hb)
      simp [listRemove, ha, htail]

/-- Without an accepted element nothing is removed. -/
theorem listRemove_of_forall {cmp : α → Option Bool} {l : List α}
    (h : ∀ a ∈ l, cmp a = some false) : listRemove cmp l = some (none, l) := by
  induction l with
  | nil => rfl
  | cons a l ih =>
      have ha := h a List.mem_cons_self
      have htail := ih fun b hb => h b (List.mem_cons_of_mem a hb)
      simp [listRemove, ha, htail]

end Ezgrpc2
