import Ezgrpc2.Lib.Handles
import Mathlib.Data.Finset.Dedup
import Mathlib.Data.List.Nodup
import Mathlib.Logic.Function.Basic

/-! # Owned objects

A program allocates objects, changes them in place and frees them. `Owned` relates the memory, a list
of owners, by address, and the calls made so far: each object in memory has one owner, an address is
handed out only while it is free, and no object is freed twice. `Owned.alloc`, `Owned.set` and
`Owned.free` say what one operation does to it, `Owned.perm` that who the owners are matters and not
where in the list they stand.

`contents f heap owners` is what the owned objects carry (blocks, messages, references), as `f` lists
it; the lemmas on it follow the same operations. -/

namespace Ownership

open Handles

variable {κ α β : Type*} [DecidableEq κ]

/-- **Every object in memory has one owner**, and the calls that led there are in order. -/
structure Owned (heap : κ → Option α) (owners : List κ) (calls : List (Call κ)) : Prop where
  /-- No object has two owners, as no address is in the list twice. -/
  nodup : owners.Nodup
  /-- What is owned is in memory, and nothing else. -/
  live : ∀ p, (heap p).isSome = true ↔ p ∈ owners
  /-- An address that is handed out is free. -/
  fresh : AcquiresFresh calls
  /-- Only objects that are allocated are freed, so none is freed twice. -/
  releases : ReleasesOpen calls
  /-- What is open is what is owned. -/
  opened : ∀ p, p ∈ openAfter calls ↔ p ∈ owners

namespace Owned

variable {heap : κ → Option α} {owners owners' rest : List κ} {calls : List (Call κ)} {p : κ} {a : α}

/-- An empty memory has no owners and no calls. -/
theorem empty : Owned (fun _ : κ => (none : Option α)) [] [] where
  nodup := List.nodup_nil
  live p := by simp
  fresh := trivial
  releases := trivial
  opened p := by simp

/-- The order of the owners does not matter. -/
theorem perm (h : Owned heap owners calls) (hperm : owners.Perm owners') :
    Owned heap owners' calls where
  nodup := hperm.nodup_iff.mp h.nodup
  live q := (h.live q).trans hperm.mem_iff
  fresh := h.fresh
  releases := h.releases
  opened q := (h.opened q).trans hperm.mem_iff

/-- An address at which nothing is allocated has no owner. -/
theorem notMem (h : Owned heap owners calls) (hfree : heap p = none) : p ∉ owners := by
  intro hp
  rw [← h.live, hfree] at hp
  cases hp

/-- **An object that is allocated** gets an owner, and the others keep theirs. -/
theorem alloc (h : Owned heap owners calls) (hfree : heap p = none) (a : α) :
    Owned (Function.update heap p (some a)) (p :: owners) (calls ++ [.acquire p]) where
  nodup := List.nodup_cons.mpr ⟨h.notMem hfree, h.nodup⟩
  live q := by
    rw [List.mem_cons, ← h.live]
    by_cases hq : q = p
    · subst hq
      simp
    · simp [hq]
  fresh := by
    refine (along_handleStep_concat calls _).mpr ⟨h.fresh, ?_⟩
    intro hp
    exact h.notMem hfree ((h.opened p).mp hp)
  releases := (along_handleStep_concat calls _).mpr ⟨h.releases, trivial⟩
  opened q := by
    rw [openAfter_acquire, Finset.mem_insert, h.opened, List.mem_cons]

/-- **An object that changes in place** keeps its owner. -/
theorem set (h : Owned heap owners calls) (hp : p ∈ owners) (a : α) :
    Owned (Function.update heap p (some a)) owners calls where
  nodup := h.nodup
  live q := by
    by_cases hq : q = p
    · subst hq
      simp [hp]
    · rw [Function.update_of_ne hq, h.live]
  fresh := h.fresh
  releases := h.releases
  opened := h.opened

/-- **An object that is freed** loses its owner, and the others keep theirs. -/
theorem free (h : Owned heap (p :: rest) calls) :
    Owned (Function.update heap p none) rest (calls ++ [.release p]) where
  nodup := (List.nodup_cons.mp h.nodup).2
  live q := by
    by_cases hq : q = p
    · subst hq
      simp [(List.nodup_cons.mp h.nodup).1]
    · rw [Function.update_of_ne hq, h.live, List.mem_cons]
      exact or_iff_right hq
  fresh := (along_handleStep_concat calls _).mpr ⟨h.fresh, trivial⟩
  releases := by
    refine (along_handleStep_concat calls _).mpr ⟨h.releases, ?_⟩
    exact (h.opened p).mpr List.mem_cons_self
  opened q := by
    rw [openAfter_release, Finset.mem_erase, h.opened, List.mem_cons]
    constructor
    · rintro ⟨hne, hq⟩
      exact hq.resolve_left hne
    · intro hq
      refine ⟨?_, Or.inr hq⟩
      rintro rfl
      exact (List.nodup_cons.mp h.nodup).1 hq

end Owned

/-! ## What the objects carry -/

/-- What the objects at the addresses carry. -/
def contents (f : α → List β) (heap : κ → Option α) (owners : List κ) : List β :=
  owners.flatMap fun p => (heap p).elim [] f

section Contents

variable {f : α → List β} {heap : κ → Option α} {owners owners' : List κ} {p : κ} {a : α}

omit [DecidableEq κ] in
@[simp] theorem contents_nil (f : α → List β) (heap : κ → Option α) :
    contents f heap [] = [] := rfl

omit [DecidableEq κ] in
theorem contents_cons (h : heap p = some a) :
    contents f heap (p :: owners) = f a ++ contents f heap owners := by
  rw [contents, List.flatMap_cons, h]
  rfl

omit [DecidableEq κ] in
/-- The owners in another order carry the same. -/
theorem contents_perm (f : α → List β) (heap : κ → Option α) (hperm : owners.Perm owners') :
    (contents f heap owners).Perm (contents f heap owners') := hperm.flatMap_right _

/-- An object that is not asked for does not matter. -/
theorem contents_update_of_notMem (hp : p ∉ owners) (a : Option α) :
    contents f (Function.update heap p a) owners = contents f heap owners := by
  induction owners with
  | nil => rfl
  | cons q owners ih =>
      rw [List.mem_cons, not_or] at hp
      simp only [contents, List.flatMap_cons] at ih ⊢
      rw [ih hp.2, Function.update_of_ne (Ne.symm hp.1)]

end Contents

end Ownership
