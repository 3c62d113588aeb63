import Mathlib.Data.List.AList
import Mathlib.Data.List.Induction

/-! # Doubly linked nodes in a memory

Nodes live at addresses, 0 is the null pointer. `Segment m prev cs next` says that the memory `m`
holds the nodes `cs`, given as addresses and data, linked in both directions between the neighbours
`prev` and `next`. A segment splits where its list of nodes does (`segment_append`), depends on its
own nodes only (`Segment.congr`), and can be walked both ways (`Segment.walk_next`,
`Segment.walk_prev`). -/

namespace LinkedMemory

variable {δ : Type*}

/-! ## (1) Nodes -/

/-- A node of a doubly linked list. -/
structure Node (δ : Type*) where
  /-- The address of the next node. -/
  next : ℕ
  /-- The address of the node before. -/
  prev : ℕ
  /-- The data that the node holds. -/
  data : δ

/-- A memory of nodes, by their addresses. -/
abbrev Nodes (δ : Type*) := AList fun _ : ℕ => Node δ

/-- Store into the field `next` of a node; `none` when there is no node at the address. -/
def setNext (m : Nodes δ) (p v : ℕ) : Option (Nodes δ) :=
  (m.lookup p).map fun n => m.insert p { n with next := v }

/-- Stores into the field `prev` of a node, if there is one at the address. -/
def setPrev (m : Nodes δ) (p v : ℕ) : Option (Nodes δ) :=
  (m.lookup p).map fun n => m.insert p { n with prev := v }

/-- The addresses met by following the field `link` from `p` to the null pointer. A walk of more
steps than there are nodes has met one of them twice and does not end: it is `none`, as is a walk
that leaves the memory. -/
def walk (link : Node δ → ℕ) (m : Nodes δ) (p : ℕ) : Option (List ℕ) :=
  go m.keys.length p
where
  /-- A walk of at most `n` steps. -/
  go : ℕ → ℕ → Option (List ℕ)
    | _, 0 => some []
    | 0, _ + 1 => none
    | n + 1, p + 1 =>
        (m.lookup (p + 1)).bind fun node => (go n (link node)).map fun ps => (p + 1) :: ps

/-! ## (2) Segments -/

/-- The address of the first node, `next` if there is none. -/
def firstOf : List (ℕ × δ) → ℕ → ℕ
  | [], next => next
  | c :: _, _ => c.1

/-- The address of the last node, `prev` if there is none. -/
def lastOf : List (ℕ × δ) → ℕ → ℕ
  | [], prev => prev
  | c :: cs, _ => lastOf cs c.1

/-- **The memory holds the nodes `cs`**, linked in both directions, behind `prev` and in front of
`next`. -/
def Segment (m : Nodes δ) : ℕ → List (ℕ × δ) → ℕ → Prop
  | _, [], _ => True
  | prev, c :: cs, next =>
      c.1 ≠ 0 ∧ m.lookup c.1 = some ⟨firstOf cs next, prev, c.2⟩ ∧ Segment m c.1 cs next

@[simp] theorem firstOf_nil (next : ℕ) : firstOf ([] : List (ℕ × δ)) next = next := rfl

@[simp] theorem firstOf_cons (c : ℕ × δ) (cs : List (ℕ × δ)) (next : ℕ) :
    firstOf (c :: cs) next = c.1 := rfl

@[simp] theorem lastOf_nil (prev : ℕ) : lastOf ([] : List (ℕ × δ)) prev = prev := rfl

@[simp] theorem lastOf_cons (c : ℕ × δ) (cs : List (ℕ × δ)) (prev : ℕ) :
    lastOf (c :: cs) prev = lastOf cs c.1 := rfl

theorem firstOf_append (cs ds : List (ℕ × δ)) (next : ℕ) :
    firstOf (cs ++ ds) next = firstOf cs (firstOf ds next) := by
  cases cs <;> rfl

theorem lastOf_append (cs ds : List (ℕ × δ)) (prev : ℕ) :
    lastOf (cs ++ ds) prev = lastOf ds (lastOf cs prev) := by
  induction cs generalizing prev with
  | nil => rfl
  | cons c cs ih => exact ih c.1

@[simp] theorem lastOf_concat (cs : List (ℕ × δ)) (c : ℕ × δ) (prev : ℕ) :
    lastOf (cs ++ [c]) prev = c.1 := by
  rw [lastOf_append]
  rfl

/-- The neighbour behind the segment does not matter where there is a first node. -/
theorem firstOf_eq {cs : List (ℕ × δ)} (h : cs ≠ []) (a b : ℕ) : firstOf cs a = firstOf cs b := by
  cases cs with
  | nil => exact absurd rfl h
  | cons c cs => rfl

theorem lastOf_eq {cs : List (ℕ × δ)} (h : cs ≠ []) (a b : ℕ) : lastOf cs a = lastOf cs b := by
  cases cs with
  | nil => exact absurd rfl h
  | cons c cs => rfl

/-- The last address of a list without repetitions is not met before. -/
theorem notMem_of_nodup_concat {cs : List (ℕ × δ)} {c : ℕ × δ}
    (h : ((cs ++ [c]).map Prod.fst).Nodup) : c.1 ∉ cs.map Prod.fst := by
  rw [List.map_append, List.nodup_append] at h
  exact fun hc => h.2.2 _ hc _ List.mem_cons_self rfl

@[simp] theorem segment_nil (m : Nodes δ) (prev next : ℕ) : Segment m prev [] next := trivial

theorem segment_cons {m : Nodes δ} {prev next : ℕ} {c : ℕ × δ} {cs : List (ℕ × δ)} :
    Segment m prev (c :: cs) next ↔ c.1 ≠ 0 ∧
      m.lookup c.1 = some ⟨firstOf cs next, prev, c.2⟩ ∧ Segment m c.1 cs next := Iff.rfl

/-- **A segment splits** into two that are linked to each other. -/
theorem segment_append {m : Nodes δ} {prev next : ℕ} {cs ds : List (ℕ × δ)} :
    Segment m prev (cs ++ ds) next ↔
      Segment m prev cs (firstOf ds next) ∧ Segment m (lastOf cs prev) ds next := by
  induction cs generalizing prev with
  | nil => simp
  | cons c cs ih =>
      rw [List.cons_append, segment_cons, segment_cons, ih, firstOf_append, lastOf_cons]
      simp only [and_assoc]

/-- **A segment depends on its own nodes only.** -/
theorem Segment.congr {m m' : Nodes δ} {prev next : ℕ} {cs : List (ℕ × δ)}
    (h : Segment m prev cs next) (hsame : ∀ p ∈ cs.map Prod.fst, m'.lookup p = m.lookup p) :
    Segment m' prev cs next := by
  induction cs generalizing prev with
  | nil => trivial
  | cons c cs ih =>
      obtain ⟨hne, hlookup, hrest⟩ := h
      refine ⟨hne, ?_, ih hrest fun p hp => hsame p (List.mem_cons_of_mem _ hp)⟩
      rw [hsame _ List.mem_cons_self, hlookup]

/-- The nodes of a segment are in the memory, and none of them is the null pointer. -/
theorem Segment.exists_lookup {m : Nodes δ} {prev next : ℕ} {cs : List (ℕ × δ)}
    (h : Segment m prev cs next) {p : ℕ} (hp : p ∈ cs.map Prod.fst) :
    p ≠ 0 ∧ ∃ n, m.lookup p = some n := by
  induction cs generalizing prev with
  | nil => cases hp
  | cons c cs ih =>
      obtain ⟨hne, hlookup, hrest⟩ := h
      rcases List.mem_cons.mp hp with rfl | hp
      · exact ⟨hne, _, hlookup⟩
      · exact ih hrest hp

/-- The address of the last node is not the null pointer. -/
theorem Segment.lastOf_ne_zero {m : Nodes δ} {prev next : ℕ} {cs : List (ℕ × δ)}
    (h : Segment m prev cs next) (hcs : cs ≠ []) : lastOf cs 0 ≠ 0 := by
  obtain ⟨init, c, rfl⟩ := (List.eq_nil_or_concat' cs).resolve_left hcs
  rw [lastOf_concat]
  exact (h.exists_lookup (by simp)).1

/-- The address of the first cell is not null, if there is one. -/
theorem Segment.firstOf_ne_zero {m : Nodes δ} {prev next : ℕ} {cs : List (ℕ × δ)}
    (h : Segment m prev cs next) (hcs : cs ≠ []) : firstOf cs 0 ≠ 0 := by
  cases cs with
  | nil => exact absurd rfl hcs
  | cons c cs => exact h.1

/-- There are no more nodes in a segment than in the memory. -/
theorem Segment.length_le {m : Nodes δ} {prev next : ℕ} {cs : List (ℕ × δ)}
    (h : Segment m prev cs next) (hnodup : (cs.map Prod.fst).Nodup) :
    cs.length ≤ m.keys.length := by
  rw [← List.length_map (f := Prod.fst)]
  refine (List.subperm_of_subset hnodup fun p hp => ?_).length_le
  obtain ⟨-, n, hn⟩ := h.exists_lookup hp
  rw [← AList.mem_keys, ← AList.lookup_isSome, hn]
  rfl

/-! ## (3) Links are changed -/

theorem setNext_of_lookup {m : Nodes δ} {p : ℕ} {n : Node δ} (h : m.lookup p = some n) (v : ℕ) :
    setNext m p v = some (m.insert p { n with next := v }) := by
  rw [setNext, h]
  rfl

theorem setPrev_of_lookup {m : Nodes δ} {p : ℕ} {n : Node δ} (h : m.lookup p = some n) (v : ℕ) :
    setPrev m p v = some (m.insert p { n with prev := v }) := by
  rw [setPrev, h]
  rfl

/-- **The last node is linked to another successor**; the other nodes are not touched. -/
theorem Segment.setNext {m : Nodes δ} {prev next : ℕ} {cs : List (ℕ × δ)} {c : ℕ × δ}
    (h : Segment m prev (cs ++ [c]) next) (hc : c.1 ∉ cs.map Prod.fst) (v : ℕ) :
    ∃ m', LinkedMemory.setNext m c.1 v = some m' ∧ Segment m' prev (cs ++ [c]) v ∧
      ∀ p, p ≠ c.1 → m'.lookup p = m.lookup p := by
  obtain ⟨hinit, hne, hlookup, -⟩ := segment_append.mp h
  refine ⟨_, setNext_of_lookup hlookup v, ?_, fun p hp => AList.lookup_insert_ne hp⟩
  refine segment_append.mpr ⟨hinit.congr fun p hp => ?_, hne, AList.lookup_insert _, trivial⟩
  exact AList.lookup_insert_ne fun heq => hc (heq ▸ hp)

/-- **The first node is linked to another predecessor.** -/
theorem Segment.setPrev {m : Nodes δ} {prev next : ℕ} {cs : List (ℕ × δ)} {c : ℕ × δ}
    (h : Segment m prev (c :: cs) next) (hc : c.1 ∉ cs.map Prod.fst) (v : ℕ) :
    ∃ m', LinkedMemory.setPrev m c.1 v = some m' ∧ Segment m' v (c :: cs) next ∧
      ∀ p, p ≠ c.1 → m'.lookup p = m.lookup p := by
  obtain ⟨hne, hlookup, hrest⟩ := h
  refine ⟨_, setPrev_of_lookup hlookup v, ?_, fun p hp => AList.lookup_insert_ne hp⟩
  refine ⟨hne, AList.lookup_insert _, hrest.congr fun p hp => ?_⟩
  exact AList.lookup_insert_ne fun heq => hc (heq ▸ hp)

/-- The last node of a segment is linked to `v`, if there is one. -/
theorem Segment.linkNext {m : Nodes δ} {next : ℕ} {cs : List (ℕ × δ)} (h : Segment m 0 cs next)
    (hnodup : (cs.map Prod.fst).Nodup) (v : ℕ) :
    ∃ m', (if lastOf cs 0 ≠ 0 then LinkedMemory.setNext m (lastOf cs 0) v else some m) = some m' ∧
      Segment m' 0 cs v ∧ ∀ p ∉ cs.map Prod.fst, m'.lookup p = m.lookup p := by
  rcases List.eq_nil_or_concat' cs with rfl | ⟨init, c, rfl⟩
  · exact ⟨m, rfl, trivial, fun _ _ => rfl⟩
  · obtain ⟨m', hm', hseg, hsame⟩ := h.setNext (notMem_of_nodup_concat hnodup) v
    refine ⟨m', ?_, hseg, fun p hp => hsame p fun heq => hp (by rw [heq]; simp)⟩
    rw [if_pos (h.lastOf_ne_zero (by simp)), lastOf_concat, hm']

/-- The first node of a segment is linked to `v`, if there is one. -/
theorem Segment.linkPrev {m : Nodes δ} {prev : ℕ} {cs : List (ℕ × δ)} (h : Segment m prev cs 0)
    (hnodup : (cs.map Prod.fst).Nodup) (v : ℕ) :
    ∃ m', (if firstOf cs 0 ≠ 0 then LinkedMemory.setPrev m (firstOf cs 0) v else some m) = some m' ∧
      Segment m' v cs 0 ∧ ∀ p ∉ cs.map Prod.fst, m'.lookup p = m.lookup p := by
  cases cs with
  | nil => exact ⟨m, rfl, trivial, fun _ _ => rfl⟩
  | cons c cs =>
      rw [List.map_cons, List.nodup_cons] at hnodup
      obtain ⟨m', hm', hseg, hsame⟩ := h.setPrev hnodup.1 v
      refine ⟨m', ?_, hseg, fun p hp => hsame p fun heq => hp (by rw [heq]; simp)⟩
      rw [firstOf_cons, if_pos h.1, hm']

/-- **Two segments are linked to each other**, whatever they were linked to before. -/
theorem Segment.link {m : Nodes δ} {prev next : ℕ} {cs ds : List (ℕ × δ)}
    (hcs : Segment m 0 cs next) (hds : Segment m prev ds 0)
    (hnodup : ((cs ++ ds).map Prod.fst).Nodup) :
    ∃ m₁ m₂, (if lastOf cs 0 ≠ 0 then LinkedMemory.setNext m (lastOf cs 0) (firstOf ds 0)
        else some m) = some m₁ ∧
      (if firstOf ds 0 ≠ 0 then LinkedMemory.setPrev m₁ (firstOf ds 0) (lastOf cs 0)
        else some m₁) = some m₂ ∧
      Segment m₂ 0 (cs ++ ds) 0 ∧
      ∀ p ∉ (cs ++ ds).map Prod.fst, m₂.lookup p = m.lookup p := by
  rw [List.map_append, List.nodup_append] at hnodup
  obtain ⟨hncs, hnds, hdisj⟩ := hnodup
  obtain ⟨m₁, hm₁, hseg₁, hsame₁⟩ := hcs.linkNext hncs (firstOf ds 0)
  -- the other segment is not touched
  have hds₁ := hds.congr fun p hp => hsame₁ p fun hp' => hdisj p hp' p hp rfl
  obtain ⟨m₂, hm₂, hseg₂, hsame₂⟩ := hds₁.linkPrev hnds (lastOf cs 0)
  refine ⟨m₁, m₂, hm₁, hm₂, segment_append.mpr ⟨?_, hseg₂⟩, fun p hp => ?_⟩
  · exact hseg₁.congr fun p hp => hsame₂ p fun hp' => hdisj p hp p hp' rfl
  · rw [List.map_append, List.mem_append, not_or] at hp
    rw [hsame₂ p hp.2, hsame₁ p hp.1]

/-! ## (4) Walks -/

/-- Walking forward from the first cell of a segment that ends in null visits its cells in order. -/
theorem Segment.go_next {m : Nodes δ} {prev : ℕ} {cs : List (ℕ × δ)} (h : Segment m prev cs 0)
    {n : ℕ} (hn : cs.length ≤ n) : walk.go Node.next m n (firstOf cs 0) = some (cs.map Prod.fst) := by
  induction cs generalizing prev n with
  | nil => cases n <;> rfl
  | cons c cs ih =>
      obtain ⟨hne, hlookup, hrest⟩ := h
      obtain ⟨p, hp⟩ := Nat.exists_eq_succ_of_ne_zero hne
      cases n with
      | zero => exact absurd hn (by simp)
      | succ n =>
          have htail := ih hrest (Nat.le_of_succ_le_succ hn)
          rw [hp] at hlookup
          rw [firstOf_cons, hp, walk.go, hlookup]
          simp only [Option.bind_some, htail, Option.map_some, List.map_cons, hp]

/-- Walking backward from the last cell of a segment that begins at null visits them in reverse. -/
theorem Segment.go_prev {m : Nodes δ} {next : ℕ} {cs : List (ℕ × δ)} (h : Segment m 0 cs next)
    {n : ℕ} (hn : cs.length ≤ n) :
    walk.go Node.prev m n (lastOf cs 0) = some (cs.map Prod.fst).reverse := by
  induction cs using List.reverseRecOn generalizing next n with
  | nil => cases n <;> rfl
  | append_singleton cs c ih =>
      obtain ⟨hinit, hne, hlookup, -⟩ := segment_append.mp h
      obtain ⟨p, hp⟩ := Nat.exists_eq_succ_of_ne_zero hne
      rw [List.length_append, List.length_singleton] at hn
      cases n with
      | zero => omega
      | succ n =>
          have htail := ih hinit (Nat.le_of_succ_le_succ hn)
          rw [hp] at hlookup
          rw [lastOf_concat, hp, walk.go, hlookup]
          simp only [Option.bind_some, htail, Option.map_some, List.map_append, List.map_cons,
            List.map_nil, List.reverse_append, List.reverse_singleton, List.singleton_append, hp]

/-- **Following `next`** meets the nodes of a list in their order. -/
theorem Segment.walk_next {m : Nodes δ} {prev : ℕ} {cs : List (ℕ × δ)} (h : Segment m prev cs 0)
    (hnodup : (cs.map Prod.fst).Nodup) :
    walk Node.next m (firstOf cs 0) = some (cs.map Prod.fst) := h.go_next (h.length_le hnodup)

/-- **Following `prev`** meets them in the opposite order. -/
theorem Segment.walk_prev {m : Nodes δ} {next : ℕ} {cs : List (ℕ × δ)} (h : Segment m 0 cs next)
    (hnodup : (cs.map Prod.fst).Nodup) :
    walk Node.prev m (lastOf cs 0) = some (cs.map Prod.fst).reverse :=
  h.go_prev (h.length_le hnodup)

end LinkedMemory
