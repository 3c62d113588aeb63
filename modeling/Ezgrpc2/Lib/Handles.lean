import Ezgrpc2.Lib.Runs
import Mathlib.Data.Finset.Basic
import Mathlib.Data.Finset.Insert

/-! # Handles that are acquired and released

The calls of a program that acquires handles (descriptors, blocks of memory, locks) and releases them,
and what is open after them. A handle may be acquired again once it was released. `AcquiresFresh` is
what the other side keeps to: it never hands out a handle that is open. `ReleasesOpen` is what the
program should keep to: it never releases a handle that is not. -/

namespace Handles

open StepRuns

variable {η : Type*} [DecidableEq η]

/-- A call that acquires or releases a handle. -/
inductive Call (η : Type*) where
  /-- The call returns a handle to its caller. -/
  | acquire (h : η)
  /-- The call gives a handle back. -/
  | release (h : η)
deriving DecidableEq

/-- The handles that are open behind a call. -/
def after (s : Finset η) : Call η → Finset η
  | .acquire h => insert h s
  | .release h => s.erase h

/-- A call as a step on what is open. -/
def handleStep (s : Finset η) (c : Call η) : Option (Finset η) := some (after s c)

/-- The handles that are open behind the calls, if none was before. -/
def openAfter (cs : List (Call η)) : Finset η := cs.foldl after ∅

@[simp] theorem openAfter_nil : openAfter ([] : List (Call η)) = ∅ := rfl

@[simp] theorem openAfter_acquire (cs : List (Call η)) (h : η) :
    openAfter (cs ++ [.acquire h]) = insert h (openAfter cs) := by
  simp [openAfter, after]

@[simp] theorem openAfter_release (cs : List (Call η)) (h : η) :
    openAfter (cs ++ [.release h]) = (openAfter cs).erase h := by
  simp [openAfter, after]

/-- The run of the calls never stops. -/
theorem run_handleStep (s : Finset η) (cs : List (Call η)) :
    run handleStep s cs = some (cs.foldl after s) := by
  induction cs generalizing s with
  | nil => rfl
  | cons c cs ih => exact ih (after s c)

/-- A handle is acquired that is not open. -/
def AcquireFresh (s : Finset η) : Call η → Prop
  | .acquire h => h ∉ s
  | .release _ => True

/-- A handle is released that is open. -/
def ReleaseOpen (s : Finset η) : Call η → Prop
  | .acquire _ => True
  | .release h => h ∈ s

instance (s : Finset η) : (c : Call η) → Decidable (AcquireFresh s c)
  | .acquire h => inferInstanceAs (Decidable (h ∉ s))
  | .release _ => isTrue trivial

instance (s : Finset η) : (c : Call η) → Decidable (ReleaseOpen s c)
  | .acquire _ => isTrue trivial
  | .release h => inferInstanceAs (Decidable (h ∈ s))

/-- **No handle is handed out twice**: each call that acquires one finds it not open. -/
def AcquiresFresh (cs : List (Call η)) : Prop := Along handleStep AcquireFresh ∅ cs

/-- **No handle is released twice**: each call that releases one finds it open. -/
def ReleasesOpen (cs : List (Call η)) : Prop := Along handleStep ReleaseOpen ∅ cs

instance (cs : List (Call η)) : Decidable (AcquiresFresh cs) :=
  inferInstanceAs (Decidable (Along _ _ _ _))

instance (cs : List (Call η)) : Decidable (ReleasesOpen cs) :=
  inferInstanceAs (Decidable (Along _ _ _ _))

/-- One more call, of which `P` is asked where it stands. -/
theorem along_handleStep_concat {P : Finset η → Call η → Prop} (cs : List (Call η)) (c : Call η) :
    Along handleStep P ∅ (cs ++ [c]) ↔ Along handleStep P ∅ cs ∧ P (openAfter cs) c := by
  rw [along_append, run_handleStep]
  constructor
  · rintro ⟨hcs, hc⟩
    exact ⟨hcs, (hc _ rfl).1⟩
  · rintro ⟨hcs, hc⟩
    refine ⟨hcs, fun s hs => ?_⟩
    obtain rfl := Option.some.inj hs
    exact ⟨hc, fun _ _ => trivial⟩

/-- What holds along more calls holds along fewer. -/
theorem AcquiresFresh.of_append {cs ds : List (Call η)} (h : AcquiresFresh (cs ++ ds)) :
    AcquiresFresh cs := ((along_append _ _).mp h).1

end Handles
