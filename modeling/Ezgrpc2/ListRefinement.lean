import Ezgrpc2.ListHeap
import Mathlib.Data.List.Nodup

/-! # The lists in memory are sequences

`ListHeap.Ok` describes a memory by the nodes of each list: the list is a segment between null
pointers, its fields are those of the segment, and no node is in two lists. For each function of
`ezgrpc2_list.c` one lemma says that it returns, what it returns and which nodes the lists have
then; `listRun_refines` puts them together for every sequence of calls on any family of lists. -/

namespace Ezgrpc2

open LinkedMemory StepRuns

namespace ListHeap

/-! ## (1) The invariant -/

/-- The header of the list that has the cells `cs`. -/
def ezlistOf (cs : List (ℕ × ℕ)) : Ezlist := ⟨firstOf cs 0, lastOf cs 0, cs.length⟩

/-- **The memory holds a family of lists**, `cells` gives the nodes of each. -/
structure Ok (h : ListHeap) (cells : ℕ → Option (List (ℕ × ℕ))) : Prop where
  /-- The lists that are there, and their fields. -/
  lists : ∀ l, h.lists l = (cells l).map ezlistOf
  /-- A list is a segment between null pointers. -/
  segment : ∀ l cs, cells l = some cs → Segment h.nodes 0 cs 0
  /-- No node is twice in a list. -/
  nodup : ∀ l cs, cells l = some cs → (cs.map Prod.fst).Nodup
  /-- No node is in two lists. -/
  separate : ∀ l l' cs cs', l ≠ l' → cells l = some cs → cells l' = some cs' →
    (cs.map Prod.fst).Disjoint (cs'.map Prod.fst)
  /-- An address has 64 bits and is not the null pointer. -/
  address : ∀ p n, h.nodes.lookup p = some n → p ≠ 0 ∧ p < 2 ^ 64

/-- There are fewer than `2 ^ 64` addresses. -/
theorem length_lt_of_addresses {cs : List (ℕ × ℕ)} (hnodup : (cs.map Prod.fst).Nodup)
    (haddr : ∀ p ∈ cs.map Prod.fst, p ≠ 0 ∧ p < 2 ^ 64) : cs.length < 2 ^ 64 := by
  have hsub : cs.map Prod.fst ⊆ List.range' 1 (2 ^ 64 - 1) := by
    intro p hp
    have := haddr p hp
    rw [List.mem_range'_1]
    omega
  have hle := (List.subperm_of_subset hnodup hsub).length_le
  rw [List.length_map, List.length_range'] at hle
  omega

namespace Ok

variable {h : ListHeap} {cells : ℕ → Option (List (ℕ × ℕ))} {l : ℕ} {cs : List (ℕ × ℕ)}

/-- The header of a list holds its first cell, its last cell and its length. -/
theorem list_eq (hok : h.Ok cells) (hl : cells l = some cs) : h.lists l = some (ezlistOf cs) := by
  rw [hok.lists, hl]
  rfl

/-- The addresses of the nodes of a list. -/
theorem mem_address (hok : h.Ok cells) (hl : cells l = some cs) {p : ℕ}
    (hp : p ∈ cs.map Prod.fst) : p ≠ 0 ∧ p < 2 ^ 64 := by
  obtain ⟨-, n, hn⟩ := (hok.segment l cs hl).exists_lookup hp
  exact hok.address p n hn

/-- **One list changes**: its new nodes are old ones of its own or in no list, and the memory is the
same outside of them. -/
theorem setList (hok : h.Ok cells) (hl : cells l = some cs) (cs' : List (ℕ × ℕ)) (nodes : Nodes ℕ)
    (hseg : Segment nodes 0 cs' 0) (hnodup : (cs'.map Prod.fst).Nodup)
    (hcs' : ∀ p ∈ cs'.map Prod.fst, p ∈ cs.map Prod.fst ∨
      (p < 2 ^ 64 ∧ ∀ l' ds, cells l' = some ds → p ∉ ds.map Prod.fst))
    (hsame : ∀ p, p ∉ cs.map Prod.fst → p ∉ cs'.map Prod.fst →
      nodes.lookup p = h.nodes.lookup p) :
    Ok (ListHeap.setList { h with nodes := nodes } l (ezlistOf cs'))
      (Function.update cells l (some cs')) := by
  -- the nodes of another list are not touched
  have hother : ∀ l' ds, l' ≠ l → cells l' = some ds → ∀ p ∈ ds.map Prod.fst,
      p ∉ cs.map Prod.fst ∧ p ∉ cs'.map Prod.fst := by
    intro l' ds hne hds p hp
    have hcs : p ∉ cs.map Prod.fst := hok.separate l' l ds cs hne hds hl hp
    refine ⟨hcs, fun hp' => ?_⟩
    rcases hcs' p hp' with hmem | ⟨-, hfree⟩
    · exact hcs hmem
    · exact hfree l' ds hds hp
  constructor
  · intro l'
    show Function.update h.lists l (some (ezlistOf cs')) l' = _
    by_cases hl' : l' = l
    · rw [hl', Function.update_self, Function.update_self]
      rfl
    · rw [Function.update_of_ne hl', Function.update_of_ne hl']
      exact hok.lists l'
  · intro l' ds hds
    by_cases hl' : l' = l
    · rw [hl', Function.update_self, Option.some.injEq] at hds
      rw [← hds]
      exact hseg
    · rw [Function.update_of_ne hl'] at hds
      apply (hok.segment l' ds hds).congr
      intro p hp
      exact hsame p (hother l' ds hl' hds p hp).1 (hother l' ds hl' hds p hp).2
  · intro l' ds hds
    by_cases hl' : l' = l
    · rw [hl', Function.update_self, Option.some.injEq] at hds
      rw [← hds]
      exact hnodup
    · rw [Function.update_of_ne hl'] at hds
      exact hok.nodup l' ds hds
  · intro a b ds es hab hds hes
    by_cases ha : a = l
    · have hb : b ≠ l := fun hb => hab (ha.trans hb.symm)
      rw [ha, Function.update_self, Option.some.injEq] at hds
      rw [Function.update_of_ne hb] at hes
      rw [← hds]
      exact fun p hp hp' => (hother b es hb hes p hp').2 hp
    · rw [Function.update_of_ne ha] at hds
      by_cases hb : b = l
      · rw [hb, Function.update_self, Option.some.injEq] at hes
        rw [← hes]
        exact fun p hp => (hother a ds ha hds p hp).2
      · rw [Function.update_of_ne hb] at hes
        exact hok.separate a b ds es hab hds hes
  · intro p n hn
    by_cases hp : p ∈ cs.map Prod.fst
    · exact hok.mem_address hl hp
    · by_cases hp' : p ∈ cs'.map Prod.fst
      · exact ⟨(hseg.exists_lookup hp').1, ((hcs' p hp').resolve_left hp).1⟩
      · exact hok.address p n ((hsame p hp hp').symm.trans hn)

/-- A list grows by a node at a free address. -/
theorem grow (hok : h.Ok cells) (hl : cells l = some cs) {p d : ℕ} (hp0 : p ≠ 0) (hp : p < 2 ^ 64)
    (hfree : h.nodes.lookup p = none) {cs' : List (ℕ × ℕ)} (hperm : cs'.Perm ((p, d) :: cs)) :
    p ∉ cs.map Prod.fst ∧ (cs'.map Prod.fst).Nodup ∧ sizeT (cs.length + 1) = cs'.length ∧
      ∀ q ∈ cs'.map Prod.fst, q ∈ cs.map Prod.fst ∨
        (q < 2 ^ 64 ∧ ∀ l' ds, cells l' = some ds → q ∉ ds.map Prod.fst) := by
  -- a free address is in no list, since every node of a list is allocated
  have hnew : ∀ l' ds, cells l' = some ds → p ∉ ds.map Prod.fst := by
    intro l' ds hds hmem
    obtain ⟨-, n, hn⟩ := (hok.segment l' ds hds).exists_lookup hmem
    rw [hfree] at hn
    cases hn
  have hmem : ∀ q, q ∈ cs'.map Prod.fst ↔ q = p ∨ q ∈ cs.map Prod.fst := by
    intro q
    rw [(hperm.map Prod.fst).mem_iff, List.map_cons, List.mem_cons]
  have hnodup : (cs'.map Prod.fst).Nodup := by
    rw [(hperm.map Prod.fst).nodup_iff, List.map_cons, List.nodup_cons]
    exact ⟨hnew l cs hl, hok.nodup l cs hl⟩
  have hlen : cs'.length = cs.length + 1 := hperm.length_eq
  refine ⟨hnew l cs hl, hnodup, ?_, ?_⟩
  · rw [← hlen]
    apply sizeT_of_lt
    -- the nodes have different addresses, so the count cannot wrap
    apply length_lt_of_addresses hnodup
    intro q hq
    rcases (hmem q).mp hq with rfl | hq
    · exact ⟨hp0, hp⟩
    · exact hok.mem_address hl hq
  · intro q hq
    rcases (hmem q).mp hq with rfl | hq
    · exact Or.inr ⟨hp, hnew⟩
    · exact Or.inl hq

/-- **`push_back` appends** the data to the cells of its list, and leaves the other lists. -/
theorem listPushBack (hok : h.Ok cells) (hl : cells l = some cs) {p : ℕ} (hp0 : p ≠ 0)
    (hp : p < 2 ^ 64) (hfree : h.nodes.lookup p = none) (d : ℕ) :
    ∃ h', h.listPushBack l d p = some h' ∧
      h'.Ok (Function.update cells l (some (cs ++ [(p, d)]))) := by
  obtain ⟨hnew, hnodup, hcount, hcs'⟩ :=
    hok.grow hl hp0 hp hfree (List.perm_append_singleton (p, d) cs)
  have hmem : p ∈ (cs ++ [(p, d)]).map Prod.fst := by simp
  have hsame : ∀ q, q ∉ (cs ++ [(p, d)]).map Prod.fst →
      (h.nodes.insert p ⟨0, 0, d⟩).lookup q = h.nodes.lookup q :=
    fun q hq => AList.lookup_insert_ne fun heq => hq (heq ▸ hmem)
  rcases List.eq_nil_or_concat' cs with hnil | ⟨init, c, hcs⟩
  · refine ⟨_, ?_, hok.setList hl _ (h.nodes.insert p ⟨0, 0, d⟩) ?_ hnodup hcs'
      fun q _ hq => hsame q hq⟩
    · rw [hnil] at hcount
      simp_all [ListHeap.listPushBack, hok.list_eq hl, ezlistOf]
    · rw [hnil]
      exact ⟨hp0, AList.lookup_insert _, trivial⟩
  · -- the last node and the new one are linked to each other
    have hne : lastOf cs 0 ≠ 0 := (hok.segment l cs hl).lastOf_ne_zero (by rw [hcs]; simp)
    have hold : Segment (h.nodes.insert p ⟨0, 0, d⟩) 0 cs 0 := by
      apply (hok.segment l cs hl).congr
      exact fun q hq => AList.lookup_insert_ne fun heq => hnew (heq ▸ hq)
    have hsingle : Segment (h.nodes.insert p ⟨0, 0, d⟩) 0 [(p, d)] 0 :=
      ⟨hp0, AList.lookup_insert _, trivial⟩
    obtain ⟨m₁, m₂, hm₁, hm₂, hseg, hrest⟩ := hold.link hsingle hnodup
    refine ⟨_, ?_, hok.setList hl _ _ hseg hnodup hcs' fun q _ hq => ?_⟩
    · rw [if_pos hne] at hm₁
      rw [firstOf_cons, if_pos hp0] at hm₂
      rw [ListHeap.listPushBack, hok.list_eq hl]
      simp only [ezlistOf, Option.bind_eq_bind, Option.bind_some, ne_eq, hne, not_false_eq_true,
        if_true, hcount, lastOf_concat, firstOf_append]
      rw [show setNext _ (lastOf cs 0) p = _ from hm₁, Option.bind_some,
        show setPrev m₁ p (lastOf cs 0) = _ from hm₂, Option.bind_some,
        firstOf_eq (by rw [hcs]; simp) 0 (firstOf [(p, d)] 0)]
    · rw [hrest q hq, hsame q hq]

/-- **`push_front` puts the data in front** of the cells of its list, and leaves the other lists. -/
theorem listPushFront (hok : h.Ok cells) (hl : cells l = some cs) {p : ℕ} (hp0 : p ≠ 0)
    (hp : p < 2 ^ 64) (hfree : h.nodes.lookup p = none) (d : ℕ) :
    ∃ h', h.listPushFront l d p = some h' ∧
      h'.Ok (Function.update cells l (some ((p, d) :: cs))) := by
  obtain ⟨hnew, hnodup, hcount, hcs'⟩ := hok.grow hl hp0 hp hfree (List.Perm.refl ((p, d) :: cs))
  have hold : Segment (h.nodes.insert p ⟨firstOf cs 0, 0, d⟩) 0 cs 0 := by
    apply (hok.segment l cs hl).congr
    exact fun q hq => AList.lookup_insert_ne fun heq => hnew (heq ▸ hq)
  obtain ⟨m, hm, hseg, hsame⟩ := hold.linkPrev (hok.nodup l cs hl) p
  have hlookup : m.lookup p = some ⟨firstOf cs 0, 0, d⟩ :=
    (hsame p hnew).trans (AList.lookup_insert _)
  refine ⟨_, ?_, hok.setList hl _ _ ⟨hp0, hlookup, hseg⟩ hnodup hcs' fun q hq hq' => ?_⟩
  · rw [ListHeap.listPushFront, hok.list_eq hl]
    simp only [ezlistOf, Option.bind_eq_bind, Option.bind_some, hcount, firstOf_cons, lastOf_cons]
    by_cases hne : firstOf cs 0 ≠ 0
    · rw [if_pos hne] at hm ⊢
      have hcs : cs ≠ [] := fun hnil => hne (by rw [hnil]; rfl)
      rw [hm, Option.bind_some, lastOf_eq hcs 0 p]
    · have hcs : cs = [] := by
        by_contra hcs
        exact hne ((hok.segment l cs hl).firstOf_ne_zero hcs)
      rw [if_neg hne, Option.some.injEq] at hm
      rw [if_neg hne, hm, hcs]
      rfl
  · have hqp : q ≠ p := fun heq => hq' (by rw [heq]; exact List.mem_cons_self)
    rw [hsame q hq, AList.lookup_insert_ne hqp]

/-- A list that loses nodes has different ones still, and those of the other lists are not among
them. -/
theorem shrink (hok : h.Ok cells) (hl : cells l = some cs) {cs' : List (ℕ × ℕ)}
    (hsub : cs'.Sublist cs) :
    (cs'.map Prod.fst).Nodup ∧ ∀ q ∈ cs'.map Prod.fst, q ∈ cs.map Prod.fst ∨
      (q < 2 ^ 64 ∧ ∀ l' ds, cells l' = some ds → q ∉ ds.map Prod.fst) :=
  ⟨(hok.nodup l cs hl).sublist (hsub.map _), fun _ hq => Or.inl ((hsub.map _).subset hq)⟩

/-- **`pop_back` takes off the last element**; its assertion holds. -/
theorem listPopBack (hok : h.Ok cells) {init : List (ℕ × ℕ)} {c : ℕ × ℕ}
    (hl : cells l = some (init ++ [c])) :
    ∃ h', h.listPopBack l = some (c.2, h') ∧ h'.Ok (Function.update cells l (some init)) := by
  obtain ⟨hnodup, hcs'⟩ := hok.shrink hl (List.sublist_append_left init [c])
  obtain ⟨hinit, -, hlookup, -⟩ := segment_append.mp (hok.segment l _ hl)
  have hcount : sizePred (init ++ [c]).length = init.length := by
    rw [List.length_append, List.length_singleton, sizePred_succ]
  obtain ⟨m, hm, hseg, hsame⟩ := hinit.linkNext hnodup 0
  refine ⟨_, ?_, hok.setList hl _ _ hseg hnodup hcs' fun q _ hq => hsame q hq⟩
  rw [ListHeap.listPopBack, hok.list_eq hl]
  simp only [ezlistOf, Option.bind_eq_bind, Option.bind_some, lastOf_concat, hlookup, hcount]
  rw [if_neg (by simp)]
  by_cases hne : lastOf init 0 ≠ 0
  · rw [if_pos hne] at hm ⊢
    have hcs : init ≠ [] := fun hnil => hne (by rw [hnil]; rfl)
    rw [hm, Option.bind_some, firstOf_append, firstOf_eq hcs (firstOf [c] 0) 0]
  · have hcs : init = [] := by
      by_contra hcs
      exact hne (hinit.lastOf_ne_zero hcs)
    rw [if_neg hne, Option.some.injEq] at hm
    rw [if_neg hne, ← hm, hcs]
    rfl

/-- **`pop_front` takes off the first element**; its assertion holds. -/
theorem listPopFront (hok : h.Ok cells) {c : ℕ × ℕ} (hl : cells l = some (c :: cs)) :
    ∃ h', h.listPopFront l = some (c.2, h') ∧ h'.Ok (Function.update cells l (some cs)) := by
  obtain ⟨hnodup, hcs'⟩ := hok.shrink hl (List.sublist_cons_self c cs)
  obtain ⟨-, hlookup, hrest⟩ := hok.segment l _ hl
  have hcount : sizePred (c :: cs).length = cs.length := by
    rw [List.length_cons, sizePred_succ]
  obtain ⟨m, hm, hseg, hsame⟩ := hrest.linkPrev hnodup 0
  refine ⟨_, ?_, hok.setList hl _ _ hseg hnodup hcs' fun q _ hq => hsame q hq⟩
  rw [ListHeap.listPopFront, hok.list_eq hl]
  simp only [ezlistOf, Option.bind_eq_bind, Option.bind_some, firstOf_cons, lastOf_cons, hlookup,
    hcount]
  rw [if_neg (by simp)]
  by_cases hne : firstOf cs 0 ≠ 0
  · rw [if_pos hne] at hm ⊢
    have hcs : cs ≠ [] := fun hnil => hne (by rw [hnil]; rfl)
    rw [hm, Option.bind_some, lastOf_eq hcs c.1 0]
  · have hcs : cs = [] := by
      by_contra hcs
      exact hne (hrest.firstOf_ne_zero hcs)
    rw [if_neg hne, Option.some.injEq] at hm
    rw [if_neg hne, ← hm, hcs]
    rfl

end Ok

/-- The loop finds the first node that `cmp` accepts. -/
theorem findNode_go {nodes : Nodes ℕ} {prev : ℕ} {cs : List (ℕ × ℕ)} (hseg : Segment nodes prev cs 0)
    (cmp : ℕ → ℤ) {n : ℕ} (hn : cs.length ≤ n) :
    findNode.go nodes cmp n (firstOf cs 0)
      = some (((cs.find? fun c => cmp c.2 == 0).map Prod.fst).getD 0) := by
  induction cs generalizing prev n with
  | nil => cases n <;> rfl
  | cons c cs ih =>
      obtain ⟨hne, hlookup, hrest⟩ := hseg
      obtain ⟨p, hp⟩ := Nat.exists_eq_succ_of_ne_zero hne
      cases n with
      | zero => exact absurd hn (by simp)
      | succ n =>
          have htail := ih hrest (Nat.le_of_succ_le_succ hn)
          rw [hp] at hlookup
          rw [firstOf_cons, hp, findNode.go, hlookup]
          by_cases hcmp : cmp c.2 = 0
          · simp [hcmp, hp]
          · simp [hcmp, htail]

namespace Ok

variable {h : ListHeap} {cells : ℕ → Option (List (ℕ × ℕ))} {l : ℕ} {cs : List (ℕ × ℕ)}

theorem findNode_eq (hok : h.Ok cells) (hl : cells l = some cs) (cmp : ℕ → ℤ) :
    findNode h.nodes cmp (firstOf cs 0)
      = some (((cs.find? fun c => cmp c.2 == 0).map Prod.fst).getD 0) :=
  findNode_go (hok.segment l cs hl) cmp
    ((hok.segment l cs hl).length_le (hok.nodup l cs hl))

/-- The data of a node of a list. -/
theorem lookup_data (hok : h.Ok cells) {pre post : List (ℕ × ℕ)} {c : ℕ × ℕ}
    (hl : cells l = some (pre ++ c :: post)) :
    h.nodes.lookup c.1 = some ⟨firstOf post 0, lastOf pre 0, c.2⟩ ∧ c.1 ≠ 0 := by
  obtain ⟨-, hne, hlookup, -⟩ := segment_append.mp (hok.segment l _ hl)
  exact ⟨hlookup, hne⟩

/-- **`find` returns the first data that matches**, or null. -/
theorem listFind (hok : h.Ok cells) (hl : cells l = some cs) (cmp : ℕ → ℤ) :
    h.listFind l cmp = some ((Ezgrpc2.listFind (cmp · == 0) (cs.map Prod.snd)).getD 0) := by
  rw [ListHeap.listFind, hok.list_eq hl, Ezgrpc2.listFind, List.find?_map]
  simp only [ezlistOf, Option.bind_eq_bind, Option.bind_some, hok.findNode_eq hl cmp]
  cases hfind : cs.find? fun c => cmp c.2 == 0 with
  | none =>
      rw [show cs.find? ((cmp · == 0) ∘ Prod.snd) = none from hfind]
      rfl
  | some c =>
      obtain ⟨-, pre, post, hsplit, -⟩ := List.find?_eq_some_iff_append.mp hfind
      obtain ⟨hlookup, hne⟩ := hok.lookup_data (hsplit ▸ hl)
      rw [show cs.find? ((cmp · == 0) ∘ Prod.snd) = some c from hfind]
      simp [hne, hlookup]

/-- **`remove` deletes the first element accepted**: the node is unlinked and freed. -/
theorem listRemove_of_split (hok : h.Ok cells) {pre post : List (ℕ × ℕ)} {c : ℕ × ℕ}
    (hl : cells l = some (pre ++ c :: post)) {cmp : ℕ → ℤ} (hpre : ∀ a ∈ pre, cmp a.2 ≠ 0)
    (hc : cmp c.2 = 0) :
    ∃ h', h.listRemove l cmp = some (c.2, h') ∧
      h'.Ok (Function.update cells l (some (pre ++ post))) := by
  have hsub : (pre ++ post).Sublist (pre ++ c :: post) :=
    (List.sublist_cons_self c post).append_left pre
  obtain ⟨hnodup, hcs'⟩ := hok.shrink hl hsub
  obtain ⟨hlookup, hne⟩ := hok.lookup_data hl
  -- the two parts around the node are segments, and unlinking joins them
  obtain ⟨hseg₁, -, -, hseg₂⟩ := segment_append.mp (hok.segment l _ hl)
  obtain ⟨m₁, m₂, hm₁, hm₂, hseg, hsame⟩ := hseg₁.link hseg₂ hnodup
  have hcnot : c.1 ∉ (pre ++ post).map Prod.fst := by
    have hperm : (pre ++ c :: post).Perm (c :: (pre ++ post)) := List.perm_middle
    have hnodup' := hok.nodup l _ hl
    rw [(hperm.map Prod.fst).nodup_iff, List.map_cons, List.nodup_cons] at hnodup'
    exact hnodup'.1
  -- freeing the node leaves the nodes that remain as they are
  have herase : ∀ q, q ≠ c.1 → (m₂.erase c.1).lookup q = m₂.lookup q :=
    fun q hq => AList.lookup_erase_ne hq
  have hfind : (pre ++ c :: post).find? (fun c => cmp c.2 == 0) = some c := by
    rw [List.find?_eq_some_iff_append]
    exact ⟨by simp [hc], pre, post, rfl, by simpa using hpre⟩
  have hlen : (pre ++ c :: post).length = (pre ++ post).length + 1 := by
    rw [List.length_append, List.length_append, List.length_cons, Nat.add_assoc]
  have hcount : sizePred (pre ++ c :: post).length = (pre ++ post).length := by
    rw [hlen, sizePred_succ]
  -- `head` moves only when the node was the first one, `tail` only when it was the last
  have hfront : (if lastOf pre 0 ≠ 0 then firstOf (pre ++ c :: post) 0 else firstOf post 0)
      = firstOf (pre ++ post) 0 := by
    cases pre with
    | nil => rfl
    | cons a pre =>
        rw [if_pos (hseg₁.lastOf_ne_zero (by simp))]
        rfl
  have hback : (if firstOf post 0 ≠ 0 then lastOf (pre ++ c :: post) 0 else lastOf pre 0)
      = lastOf (pre ++ post) 0 := by
    cases post with
    | nil => rw [List.append_nil]; rfl
    | cons b post =>
        rw [if_pos (hseg₂.firstOf_ne_zero (by simp)), lastOf_append, lastOf_append]
        rfl
  refine ⟨_, ?_, hok.setList hl _ (m₂.erase c.1) ?_ hnodup hcs' fun q hq hq' => ?_⟩
  · rw [ListHeap.listRemove, hok.list_eq hl]
    simp only [ezlistOf, Option.bind_eq_bind, Option.bind_some, hok.findNode_eq hl cmp, hfind,
      Option.map_some, Option.getD_some, hlookup, hm₁, hm₂, hfront, hback, hcount]
    rw [if_pos hne]
  · exact hseg.congr fun q hq => herase q fun heq => hcnot (heq ▸ hq)
  · have hqc : q ≠ c.1 := fun heq => hq (by rw [heq]; simp)
    rw [herase q hqc, hsame q hq']

/-- Nothing is removed when no element is accepted. -/
theorem listRemove_of_forall (hok : h.Ok cells) (hl : cells l = some cs) {cmp : ℕ → ℤ}
    (hall : ∀ a ∈ cs, cmp a.2 ≠ 0) : h.listRemove l cmp = some (0, h) := by
  have hfind : cs.find? (fun c => cmp c.2 == 0) = none := by
    rw [List.find?_eq_none]
    simpa using hall
  rw [ListHeap.listRemove, hok.list_eq hl]
  simp [ezlistOf, hok.findNode_eq hl cmp, hfind]

/-- **`peek_front` returns the first data**, or null. -/
theorem listPeekFront (hok : h.Ok cells) (hl : cells l = some cs) :
    h.listPeekFront l = some ((Ezgrpc2.listPeekFront (cs.map Prod.snd)).getD 0) := by
  rw [ListHeap.listPeekFront, hok.list_eq hl, Ezgrpc2.listPeekFront]
  cases cs with
  | nil => rfl
  | cons c cs =>
      obtain ⟨hne, hlookup, -⟩ := hok.segment l _ hl
      simp [ezlistOf, hne, hlookup]

/-- **`peek_back` returns the last data**, or null. -/
theorem listPeekBack (hok : h.Ok cells) (hl : cells l = some cs) :
    h.listPeekBack l = some ((Ezgrpc2.listPeekBack (cs.map Prod.snd)).getD 0) := by
  rw [ListHeap.listPeekBack, hok.list_eq hl, Ezgrpc2.listPeekBack]
  rcases List.eq_nil_or_concat' cs with rfl | ⟨init, c, rfl⟩
  · rfl
  · obtain ⟨hlookup, hne⟩ := hok.lookup_data hl
    simp [ezlistOf, hne, hlookup]

/-- Two lists are stored in either order. -/
theorem setList_comm (h : ListHeap) {l l' : ℕ} (hne : l ≠ l') (a b : Ezlist) :
    (ListHeap.setList (h.setList l a) l' b) = ListHeap.setList (h.setList l' b) l a := by
  unfold ListHeap.setList
  simp only [Function.update_comm hne]

/-- **`concat_and_empty_src` puts the cells of `src` behind those of `dst`** and leaves `src`
empty. -/
theorem listConcatAndEmptySrc (hok : h.Ok cells) {dst src : ℕ} (hne : dst ≠ src)
    {ds : List (ℕ × ℕ)} (hdst : cells dst = some ds) (hsrc : cells src = some cs) :
    ∃ h', h.listConcatAndEmptySrc dst src = some h' ∧
      h'.Ok (Function.update (Function.update cells src (some [])) dst (some (ds ++ cs))) := by
  -- first the nodes of `src` are in no list, then they are in `dst`
  have hempty : Ok (h.setList src ⟨0, 0, 0⟩) (Function.update cells src (some [])) :=
    hok.setList hsrc [] h.nodes trivial List.nodup_nil (fun _ hp => absurd hp List.not_mem_nil)
      fun _ _ _ => rfl
  have hdst' : Function.update cells src (some []) dst = some ds := by
    rw [Function.update_of_ne hne, hdst]
  have hdisj := hok.separate dst src ds cs hne hdst hsrc
  have hnodup : ((ds ++ cs).map Prod.fst).Nodup := by
    rw [List.map_append]
    exact (hok.nodup dst ds hdst).append (hok.nodup src cs hsrc) hdisj
  have hcount : sizeT (ds.length + cs.length) = (ds ++ cs).length := by
    rw [← List.length_append]
    apply sizeT_of_lt
    apply length_lt_of_addresses hnodup
    intro p hp
    rw [List.map_append, List.mem_append] at hp
    exact hp.elim (hok.mem_address hdst) (hok.mem_address hsrc)
  have hnew : ∀ p ∈ (ds ++ cs).map Prod.fst, p ∈ ds.map Prod.fst ∨
      (p < 2 ^ 64 ∧ ∀ l' es, Function.update cells src (some []) l' = some es →
        p ∉ es.map Prod.fst) := by
    intro p hp
    rw [List.map_append, List.mem_append] at hp
    refine hp.imp_right fun hp => ⟨(hok.mem_address hsrc hp).2, fun l' es hes => ?_⟩
    by_cases hl' : l' = src
    · rw [hl', Function.update_self, Option.some.injEq] at hes
      rw [← hes]
      exact List.not_mem_nil
    · rw [Function.update_of_ne hl'] at hes
      exact fun hp' => hok.separate l' src es cs hl' hes hsrc hp' hp
  have hsegd := hok.segment dst ds hdst
  have hsegs := hok.segment src cs hsrc
  by_cases hcs : cs = []
  · -- nothing to do
    refine ⟨h, ?_, ?_⟩
    · rw [ListHeap.listConcatAndEmptySrc, hok.list_eq hsrc, hcs]
      rfl
    · rw [hcs] at hsrc ⊢
      rw [List.append_nil, ← hsrc, Function.update_eq_self, ← hdst, Function.update_eq_self]
      exact hok
  · have hlen : cs.length ≠ 0 := fun hzero => hcs (List.length_eq_zero_iff.mp hzero)
    by_cases hds : ds = []
    · refine ⟨_, ?_, hempty.setList hdst' (ds ++ cs) h.nodes ?_ hnodup hnew
        fun _ _ _ => rfl⟩
      · rw [ListHeap.listConcatAndEmptySrc, hok.list_eq hsrc, hok.list_eq hdst]
        simp only [ezlistOf, Option.bind_eq_bind, Option.bind_some, hlen, if_false, hcount]
        rw [hds]
        simp only [firstOf_nil, lastOf_nil, ne_eq, not_true_eq_false, if_false, List.nil_append]
        rw [setList_comm _ hne]
        rfl
      · rw [hds]
        exact hsegs
    · obtain ⟨m₁, m₂, hm₁, hm₂, hseg, hsame⟩ := hsegd.link hsegs hnodup
      refine ⟨_, ?_, hempty.setList hdst' _ _ hseg hnodup hnew fun p _ hp => hsame p hp⟩
      rw [if_pos (hsegd.lastOf_ne_zero hds)] at hm₁
      rw [if_pos (hsegs.firstOf_ne_zero hcs)] at hm₂
      rw [ListHeap.listConcatAndEmptySrc, hok.list_eq hsrc, hok.list_eq hdst]
      simp only [ezlistOf, Option.bind_eq_bind, Option.bind_some, hlen, if_false, hcount,
        if_pos (hsegd.lastOf_ne_zero hds), if_pos (hsegd.firstOf_ne_zero hds), hm₁, hm₂]
      rw [setList_comm _ hne, lastOf_append, lastOf_eq hcs 0 (lastOf ds 0), firstOf_append,
        firstOf_eq hds 0 (firstOf cs 0)]
      rfl

end Ok

end ListHeap

/-! ## (3) Calls -/

/-- The lists in memory, each as its sequence of data. -/
abbrev ListSeqs := ℕ → Option (List ℕ)

/-- A call on one list of a family. -/
def ListSeqs.on (seqs : ListSeqs) (ezlist : ℕ) (f : List ℕ → ℕ × List ℕ) : Option (ℕ × ListSeqs) :=
  (seqs ezlist).map fun xs => ((f xs).1, Function.update seqs ezlist (some (f xs).2))

/-- A call of a function of `ezgrpc2_list.c`; an address that `malloc` returns is an argument. -/
inductive ListCall where
  /-- A call of `ezgrpc2_list_new`, which returns a new header. -/
  | new (ezlist : ℕ)
  /-- A call of `ezgrpc2_list_push_back`, with the node that `malloc` returns. -/
  | pushBack (ezlist data newNode : ℕ)
  /-- A call of `ezgrpc2_list_push_front`, with the node that `malloc` returns. -/
  | pushFront (ezlist data newNode : ℕ)
  /-- A call of `ezgrpc2_list_pop_back` on a list. -/
  | popBack (ezlist : ℕ)
  /-- A call of `ezgrpc2_list_pop_front` on a list. -/
  | popFront (ezlist : ℕ)
  /-- A call of `ezgrpc2_list_find` with a comparison. -/
  | find (ezlist : ℕ) (cmp : ℕ → ℤ)
  /-- A call of `ezgrpc2_list_remove` with a comparison. -/
  | remove (ezlist : ℕ) (cmp : ℕ → ℤ)
  /-- A call of `ezgrpc2_list_peek_front` on a list. -/
  | peekFront (ezlist : ℕ)
  /-- A call of `ezgrpc2_list_peek_back` on a list. -/
  | peekBack (ezlist : ℕ)
  /-- A call of `ezgrpc2_list_count` on a list. -/
  | count (ezlist : ℕ)
  /-- A call of `ezgrpc2_list_concat_and_empty_src` on two lists. -/
  | concatAndEmptySrc (dst src : ℕ)

namespace ListCall

/-- What the callers keep to: they give lists that exist, and two different ones to `concat`; and
`malloc` returns an address that is not in use. -/
def Legal (h : ListHeap) : ListCall → Prop
  | new ezlist => h.lists ezlist = none
  | pushBack ezlist _ newNode | pushFront ezlist _ newNode =>
      (h.lists ezlist).isSome = true ∧ newNode ≠ 0 ∧ newNode < 2 ^ 64 ∧ h.nodes.lookup newNode = none
  | popBack ezlist | popFront ezlist | find ezlist _ | remove ezlist _ | peekFront ezlist
  | peekBack ezlist | count ezlist => (h.lists ezlist).isSome = true
  | concatAndEmptySrc dst src =>
      (h.lists dst).isSome = true ∧ (h.lists src).isSome = true ∧ dst ≠ src

instance (h : ListHeap) : (c : ListCall) → Decidable (c.Legal h)
  | new ezlist => decidable_of_iff ((h.lists ezlist).isNone = true) Option.isNone_iff_eq_none
  | pushBack ezlist _ newNode | pushFront ezlist _ newNode =>
      decidable_of_iff ((h.lists ezlist).isSome = true ∧ newNode ≠ 0 ∧ newNode < 2 ^ 64 ∧
        (h.nodes.lookup newNode).isNone = true) (by simp only [Option.isNone_iff_eq_none]; rfl)
  | popBack ezlist | popFront ezlist | find ezlist _ | remove ezlist _ | peekFront ezlist
  | peekBack ezlist | count ezlist => inferInstanceAs (Decidable ((h.lists ezlist).isSome = true))
  | concatAndEmptySrc dst src =>
      inferInstanceAs (Decidable ((h.lists dst).isSome = true ∧ (h.lists src).isSome = true ∧
        dst ≠ src))

/-- The call in the code: the value returned, 0 where there is none, and the memory. -/
def exec (h : ListHeap) : ListCall → Option (ℕ × ListHeap)
  | new ezlist => some (ezlist, h.listNew ezlist)
  | pushBack ezlist data newNode => (h.listPushBack ezlist data newNode).map fun h => (0, h)
  | pushFront ezlist data newNode => (h.listPushFront ezlist data newNode).map fun h => (0, h)
  | popBack ezlist => h.listPopBack ezlist
  | popFront ezlist => h.listPopFront ezlist
  | find ezlist cmp => (h.listFind ezlist cmp).map fun data => (data, h)
  | remove ezlist cmp => h.listRemove ezlist cmp
  | peekFront ezlist => (h.listPeekFront ezlist).map fun data => (data, h)
  | peekBack ezlist => (h.listPeekBack ezlist).map fun data => (data, h)
  | count ezlist => (h.listCount ezlist).map fun n => (n, h)
  | concatAndEmptySrc dst src => (h.listConcatAndEmptySrc dst src).map fun h => (0, h)

/-- The call on sequences; a null pointer is returned for "nothing". -/
def spec (seqs : ListSeqs) : ListCall → Option (ℕ × ListSeqs)
  | new ezlist => some (ezlist, Function.update seqs ezlist (some []))
  | pushBack ezlist data _ => seqs.on ezlist fun xs => (0, listPushBack xs data)
  | pushFront ezlist data _ => seqs.on ezlist fun xs => (0, listPushFront xs data)
  | popBack ezlist => seqs.on ezlist fun xs => ((listPopBack xs).1.getD 0, (listPopBack xs).2)
  | popFront ezlist => seqs.on ezlist fun xs => ((listPopFront xs).1.getD 0, (listPopFront xs).2)
  | find ezlist cmp => seqs.on ezlist fun xs => ((listFind (cmp · == 0) xs).getD 0, xs)
  | remove ezlist cmp =>
      (seqs ezlist).bind fun xs => (listRemove (fun data => some (cmp data == 0)) xs).map fun r =>
        (r.1.getD 0, Function.update seqs ezlist (some r.2))
  | peekFront ezlist => seqs.on ezlist fun xs => ((listPeekFront xs).getD 0, xs)
  | peekBack ezlist => seqs.on ezlist fun xs => ((listPeekBack xs).getD 0, xs)
  | count ezlist => seqs.on ezlist fun xs => (xs.length, xs)
  | concatAndEmptySrc dst src =>
      (seqs dst).bind fun xs => (seqs src).map fun ys =>
        let r := listConcatAndEmptySrc xs ys
        (0, Function.update (Function.update seqs src (some r.2)) dst (some r.1))

end ListCall

/-- The sequences in a memory given by its nodes. -/
def seqsOf (cells : ℕ → Option (List (ℕ × ℕ))) : ListSeqs :=
  fun l => (cells l).map (List.map Prod.snd)

theorem seqsOf_update (cells : ℕ → Option (List (ℕ × ℕ))) (l : ℕ) (cs : List (ℕ × ℕ)) :
    seqsOf (Function.update cells l (some cs))
      = Function.update (seqsOf cells) l (some (cs.map Prod.snd)) := by
  funext l'
  unfold seqsOf
  by_cases hl' : l' = l
  · rw [hl', Function.update_self, Function.update_self]
    rfl
  · rw [Function.update_of_ne hl', Function.update_of_ne hl']

theorem seqsOf_eq {cells : ℕ → Option (List (ℕ × ℕ))} {l : ℕ} {cs : List (ℕ × ℕ)}
    (hl : cells l = some cs) : seqsOf cells l = some (cs.map Prod.snd) := by
  rw [seqsOf, hl]
  rfl

/-- A call that changes one list changes the sequence of that list only. -/
theorem on_seqsOf {cells : ℕ → Option (List (ℕ × ℕ))} {l : ℕ} {cs cs' : List (ℕ × ℕ)}
    (hl : cells l = some cs) {f : List ℕ → ℕ × List ℕ} {ret : ℕ}
    (hf : f (cs.map Prod.snd) = (ret, cs'.map Prod.snd)) :
    (seqsOf cells).on l f = some (ret, seqsOf (Function.update cells l (some cs'))) := by
  rw [ListSeqs.on, seqsOf_eq hl, Option.map_some, hf, seqsOf_update]

/-- A call that only returns a value of the sequence changes no sequence. -/
theorem on_seqsOf_same {cells : ℕ → Option (List (ℕ × ℕ))} {l : ℕ} {cs : List (ℕ × ℕ)}
    (hl : cells l = some cs) (g : List ℕ → ℕ) :
    (seqsOf cells).on l (fun xs => (g xs, xs)) = some (g (cs.map Prod.snd), seqsOf cells) := by
  rw [ListSeqs.on, seqsOf_eq hl, Option.map_some, ← seqsOf_eq hl, Function.update_eq_self]

namespace ListHeap.Ok

variable {h : ListHeap} {cells : ℕ → Option (List (ℕ × ℕ))}

/-- A list that is in memory has its cells. -/
theorem exists_cells (hok : h.Ok cells) {l : ℕ} (hl : (h.lists l).isSome = true) :
    ∃ cs, cells l = some cs := by
  rw [hok.lists, Option.isSome_map] at hl
  exact Option.isSome_iff_exists.mp hl

/-- A new list has no cells, and the other lists stay. -/
theorem listNew (hok : h.Ok cells) (l : ℕ) :
    (h.listNew l).Ok (Function.update cells l (some [])) := by
  have hcells : ∀ l' cs, Function.update cells l (some []) l' = some cs →
      cs = [] ∨ cells l' = some cs := by
    intro l' cs hcs
    by_cases hl' : l' = l
    · rw [hl', Function.update_self, Option.some.injEq] at hcs
      exact Or.inl hcs.symm
    · rw [Function.update_of_ne hl'] at hcs
      exact Or.inr hcs
  constructor
  · intro l'
    show Function.update h.lists l (some ⟨0, 0, 0⟩) l' = _
    by_cases hl' : l' = l
    · rw [hl', Function.update_self, Function.update_self]
      rfl
    · rw [Function.update_of_ne hl', Function.update_of_ne hl']
      exact hok.lists l'
  · intro l' cs hcs
    rcases hcells l' cs hcs with rfl | hcs
    · trivial
    · exact hok.segment l' cs hcs
  · intro l' cs hcs
    rcases hcells l' cs hcs with rfl | hcs
    · exact List.nodup_nil
    · exact hok.nodup l' cs hcs
  · intro a b cs ds hab hcs hds
    rcases hcells a cs hcs with rfl | hcs
    · exact List.disjoint_nil_left _
    · rcases hcells b ds hds with rfl | hds
      · exact List.disjoint_nil_right _
      · exact hok.separate a b cs ds hab hcs hds
  · exact hok.address

/-- **Every legal call returns, with the value the sequences give, and leaves a memory that holds the
sequences of behind the call.** -/
theorem exec (hok : h.Ok cells) {c : ListCall} (hlegal : c.Legal h) :
    ∃ ret h' cells', c.exec h = some (ret, h') ∧
      c.spec (seqsOf cells) = some (ret, seqsOf cells') ∧ h'.Ok cells' := by
  cases c with
  | new ezlist =>
      refine ⟨ezlist, _, _, rfl, ?_, hok.listNew ezlist⟩
      rw [ListCall.spec, seqsOf_update]
      rfl
  | pushBack ezlist data newNode =>
      obtain ⟨hsome, hp0, hp, hfree⟩ := hlegal
      obtain ⟨cs, hl⟩ := hok.exists_cells hsome
      obtain ⟨h', hrun, hok'⟩ := hok.listPushBack hl hp0 hp hfree data
      refine ⟨0, h', _, by rw [ListCall.exec, hrun]; rfl, on_seqsOf hl ?_, hok'⟩
      rw [List.map_append]
      rfl
  | pushFront ezlist data newNode =>
      obtain ⟨hsome, hp0, hp, hfree⟩ := hlegal
      obtain ⟨cs, hl⟩ := hok.exists_cells hsome
      obtain ⟨h', hrun, hok'⟩ := hok.listPushFront hl hp0 hp hfree data
      exact ⟨0, h', _, by rw [ListCall.exec, hrun]; rfl, on_seqsOf hl rfl, hok'⟩
  | popBack ezlist =>
      obtain ⟨cs, hl⟩ := hok.exists_cells hlegal
      rcases List.eq_nil_or_concat' cs with rfl | ⟨init, c, rfl⟩
      · have hsame : Function.update cells ezlist (some []) = cells := by
          rw [← hl, Function.update_eq_self]
        refine ⟨0, h, _, ?_, on_seqsOf hl rfl, hsame.symm ▸ hok⟩
        rw [ListCall.exec, ListHeap.listPopBack, hok.list_eq hl]
        rfl
      · obtain ⟨h', hrun, hok'⟩ := hok.listPopBack hl
        refine ⟨c.2, h', _, hrun, on_seqsOf hl ?_, hok'⟩
        simp [Ezgrpc2.listPopBack]
  | popFront ezlist =>
      obtain ⟨cs, hl⟩ := hok.exists_cells hlegal
      cases cs with
      | nil =>
          -- an empty list stays as it is, and the call returns `NULL`
          have hsame : Function.update cells ezlist (some []) = cells := by
            rw [← hl, Function.update_eq_self]
          refine ⟨0, h, _, ?_, on_seqsOf hl rfl, hsame.symm ▸ hok⟩
          rw [ListCall.exec, ListHeap.listPopFront, hok.list_eq hl]
          rfl
      | cons c cs =>
          obtain ⟨h', hrun, hok'⟩ := hok.listPopFront hl
          exact ⟨c.2, h', _, hrun, on_seqsOf hl rfl, hok'⟩
  | find ezlist cmp =>
      obtain ⟨cs, hl⟩ := hok.exists_cells hlegal
      refine ⟨_, h, cells, ?_, on_seqsOf_same hl _, hok⟩
      rw [ListCall.exec, hok.listFind hl]
      rfl
  | remove ezlist cmp =>
      obtain ⟨cs, hl⟩ := hok.exists_cells hlegal
      cases hfind : cs.find? fun c => cmp c.2 == 0 with
      | none =>
          have hall : ∀ a ∈ cs, cmp a.2 ≠ 0 := by simpa using List.find?_eq_none.mp hfind
          refine ⟨0, h, cells, hok.listRemove_of_forall hl hall, ?_, hok⟩
          rw [ListCall.spec, seqsOf_eq hl, Option.bind_some, Ezgrpc2.listRemove_of_forall,
            Option.map_some, ← seqsOf_eq hl, Function.update_eq_self]
          · rfl
          · simpa using fun d p hp => hall (p, d) hp
      | some c =>
          -- the first element accepted splits the list
          obtain ⟨hc, pre, post, rfl, hpre⟩ := List.find?_eq_some_iff_append.mp hfind
          have hc' : cmp c.2 = 0 := by simpa using hc
          have hpre' : ∀ a ∈ pre, cmp a.2 ≠ 0 := by simpa using hpre
          obtain ⟨h', hrun, hok'⟩ := hok.listRemove_of_split hl hpre' hc'
          refine ⟨c.2, h', _, hrun, ?_, hok'⟩
          rw [ListCall.spec, seqsOf_eq hl, Option.bind_some, List.map_append, List.map_cons,
            listRemove_append, Option.map_some, seqsOf_update, List.map_append]
          · rfl
          · simpa using fun d p hp => hpre' (p, d) hp
          · simpa using hc'
  | peekFront ezlist =>
      obtain ⟨cs, hl⟩ := hok.exists_cells hlegal
      refine ⟨_, h, cells, ?_, on_seqsOf_same hl _, hok⟩
      rw [ListCall.exec, hok.listPeekFront hl]
      rfl
  | peekBack ezlist =>
      obtain ⟨cs, hl⟩ := hok.exists_cells hlegal
      refine ⟨_, h, cells, ?_, on_seqsOf_same hl _, hok⟩
      rw [ListCall.exec, hok.listPeekBack hl]
      rfl
  | count ezlist =>
      obtain ⟨cs, hl⟩ := hok.exists_cells hlegal
      refine ⟨_, h, cells, ?_, on_seqsOf_same hl _, hok⟩
      rw [ListCall.exec, ListHeap.listCount, hok.list_eq hl, List.length_map]
      rfl
  | concatAndEmptySrc dst src =>
      obtain ⟨hdst, hsrc, hne⟩ := hlegal
      obtain ⟨ds, hds⟩ := hok.exists_cells hdst
      obtain ⟨cs, hcs⟩ := hok.exists_cells hsrc
      obtain ⟨h', hrun, hok'⟩ := hok.listConcatAndEmptySrc hne hds hcs
      refine ⟨0, h', _, by rw [ListCall.exec, hrun]; rfl, ?_, hok'⟩
      rw [ListCall.spec, seqsOf_eq hds, seqsOf_eq hcs, Option.bind_some, Option.map_some,
        listConcatAndEmptySrc_eq, seqsOf_update, seqsOf_update, List.map_append]
      rfl

end ListHeap.Ok

/-! ## (4) Runs -/

/-- **The list at `ezlist` is the sequence `xs`**, in the nodes `ps`. -/
structure ListHeap.Holds (h : ListHeap) (l : Ezlist) (ps : List ℕ) (xs : List ℕ) : Prop where
  /-- Following `next` from `front` meets the nodes. -/
  forward : walk Node.next h.nodes l.front = some ps
  /-- Following `prev` from `back` meets them in the opposite order. -/
  backward : walk Node.prev h.nodes l.back = some ps.reverse
  /-- The data of the nodes is the sequence. -/
  data : ps.map (fun p => (h.nodes.lookup p).map Node.data) = xs.map some
  /-- The node in front has no node before it. -/
  front : ∀ n, h.nodes.lookup l.front = some n → n.prev = 0
  /-- The node at the back has no node behind it. -/
  back : ∀ n, h.nodes.lookup l.back = some n → n.next = 0
  /-- The count is the length of the sequence. -/
  count : l.count = xs.length

/-- **The pointer structures refine the sequences.** -/
structure ListHeap.Refines (h : ListHeap) (seqs : ListSeqs) : Prop where
  /-- The lists in memory are those of the abstract state. -/
  lists : ∀ l, (h.lists l).isSome = (seqs l).isSome
  /-- Each list holds its sequence. -/
  holds : ∀ l ezlist xs, h.lists l = some ezlist → seqs l = some xs →
    ∃ ps, h.Holds ezlist ps xs ∧ ps.Nodup
  /-- No node belongs to two lists. -/
  separate : ∀ l l' ezlist ezlist' ps ps', l ≠ l' → h.lists l = some ezlist →
    h.lists l' = some ezlist' → walk Node.next h.nodes ezlist.front = some ps →
    walk Node.next h.nodes ezlist'.front = some ps' → ps.Disjoint ps'

/-- The data at the addresses of a segment. -/
theorem segment_data {m : Nodes ℕ} {prev next : ℕ} {cs : List (ℕ × ℕ)}
    (h : Segment m prev cs next) :
    (cs.map Prod.fst).map (fun p => (m.lookup p).map Node.data) = (cs.map Prod.snd).map some := by
  induction cs generalizing prev with
  | nil => rfl
  | cons c cs ih =>
      obtain ⟨-, hlookup, hrest⟩ := h
      simp only [List.map_cons, hlookup, Option.map_some, ih hrest]

namespace ListHeap.Ok

variable {h : ListHeap} {cells : ℕ → Option (List (ℕ × ℕ))}

/-- There is no node at the null pointer. -/
theorem lookup_null (hok : h.Ok cells) : h.nodes.lookup 0 = none := by
  cases hn : h.nodes.lookup 0 with
  | none => rfl
  | some n => exact absurd rfl (hok.address 0 n hn).1

theorem holds (hok : h.Ok cells) {l : ℕ} {cs : List (ℕ × ℕ)} (hl : cells l = some cs) :
    h.Holds (ezlistOf cs) (cs.map Prod.fst) (cs.map Prod.snd) where
  forward := (hok.segment l cs hl).walk_next (hok.nodup l cs hl)
  backward := (hok.segment l cs hl).walk_prev (hok.nodup l cs hl)
  data := segment_data (hok.segment l cs hl)
  front n hn := by
    have hseg := hok.segment l cs hl
    cases cs with
    | nil =>
        rw [ezlistOf, firstOf_nil, hok.lookup_null] at hn
        cases hn
    | cons c cs =>
        rw [ezlistOf, firstOf_cons, hseg.2.1, Option.some.injEq] at hn
        rw [← hn]
  back n hn := by
    have hseg := hok.segment l cs hl
    rcases List.eq_nil_or_concat' cs with rfl | ⟨init, c, rfl⟩
    · rw [ezlistOf, lastOf_nil, hok.lookup_null] at hn
      cases hn
    · have hlast := (segment_append.mp hseg).2
      rw [ezlistOf, lastOf_concat, hlast.2.1, Option.some.injEq] at hn
      rw [← hn]
      rfl
  count := (List.length_map Prod.snd).symm

/-- A memory that holds a family of lists refines their sequences. -/
theorem refines (hok : h.Ok cells) : h.Refines (seqsOf cells) where
  lists l := by rw [hok.lists, seqsOf, Option.isSome_map, Option.isSome_map]
  holds l ezlist xs hlist hxs := by
    rw [hok.lists] at hlist
    obtain ⟨cs, hl, rfl⟩ := Option.map_eq_some_iff.mp hlist
    rw [seqsOf_eq hl, Option.some.injEq] at hxs
    rw [← hxs]
    exact ⟨cs.map Prod.fst, hok.holds hl, hok.nodup l cs hl⟩
  separate l l' ezlist ezlist' ps ps' hne hlist hlist' hps hps' := by
    rw [hok.lists] at hlist hlist'
    obtain ⟨cs, hl, rfl⟩ := Option.map_eq_some_iff.mp hlist
    obtain ⟨cs', hl', rfl⟩ := Option.map_eq_some_iff.mp hlist'
    -- the addresses met are those of the nodes
    rw [(hok.holds hl).forward, Option.some.injEq] at hps
    rw [(hok.holds hl').forward, Option.some.injEq] at hps'
    rw [← hps, ← hps']
    exact hok.separate l l' cs cs' hne hl hl'

end ListHeap.Ok

/-- The memory and, beside it, the sequences. -/
structure ListState where
  /-- The memory of the program, with all lists. -/
  heap : ListHeap
  /-- The sequences that the lists stand for. -/
  seqs : ListSeqs

/-- The state in which there is no list and no node. -/
def listStart : ListState := ⟨⟨∅, fun _ => none⟩, fun _ => none⟩

/-- A call, in memory and on the sequences. -/
def listStep (st : ListState) (c : ListCall) : Option ListState := do
  let (_, heap) ← c.exec st.heap
  let (_, seqs) ← c.spec st.seqs
  some ⟨heap, seqs⟩

/-- **The call refines the one on sequences**: it returns, no assertion fails, the value is that of
the call on sequences, and the memory then holds the sequences of behind the call. -/
def ListCall.Refined (st : ListState) (c : ListCall) : Prop :=
  ∃ ret heap seqs, c.exec st.heap = some (ret, heap) ∧ c.spec st.seqs = some (ret, seqs) ∧
    heap.Refines seqs

/-- The memory holds a family of lists, and the sequences are theirs. -/
def ListState.Ok (st : ListState) : Prop :=
  ∃ cells, st.heap.Ok cells ∧ st.seqs = seqsOf cells

/-- At the start there is no list and no node. -/
theorem listStart_ok : listStart.Ok := by
  refine ⟨fun _ => none, ?_, rfl⟩
  constructor
  · intro l
    rfl
  · intro l cs hl
    cases hl
  · intro l cs hl
    cases hl
  · intro l l' cs cs' _ hl
    cases hl
  · intro p n hn
    rw [listStart, AList.lookup_empty] at hn
    cases hn

/-- A legal call refines the one on sequences and keeps the invariant. -/
theorem ListState.Ok.step {st : ListState} (hok : st.Ok) {c : ListCall}
    (hlegal : c.Legal st.heap) :
    c.Refined st ∧ ∀ st', listStep st c = some st' → st'.Ok := by
  obtain ⟨cells, hcells, hseqs⟩ := hok
  obtain ⟨ret, heap, cells', hexec, hspec, hok'⟩ := hcells.exec hlegal
  rw [← hseqs] at hspec
  refine ⟨⟨ret, heap, _, hexec, hspec, hok'.refines⟩, fun st' h => ?_⟩
  rw [listStep, hexec, Option.bind_eq_bind, Option.bind_some, hspec] at h
  obtain rfl := Option.some.inj h
  exact ⟨cells', hok', rfl⟩

/-- **The pointer structures refine sequences, in every run.** Starting from no list, as long as the
calls are legal (on lists that exist, with fresh memory for a new node, and a concatenation of two
different lists) each of them refines its counterpart on sequences. -/
theorem listRun_refines (calls : List ListCall)
    (hlegal : Along listStep (fun st c => c.Legal st.heap) listStart calls) :
    Along listStep (fun st c => c.Refined st) listStart calls := by
  apply hlegal.imp _ listStart_ok
  intro st c hok hc
  exact hok.step hc

/-- Two lists, a node at either end of the first, and one of the second that moves over. -/
theorem listRun_refines_concat :
    Along listStep (fun st c => c.Refined st) listStart
      [.new 100, .new 200, .pushBack 100 7 1, .pushFront 100 8 2, .pushBack 200 9 3,
        .concatAndEmptySrc 100 200, .remove 100 fun data => if data = 7 then 0 else 1,
        .popBack 100, .popFront 100] :=
  listRun_refines _ (by decide +kernel)

end Ezgrpc2
