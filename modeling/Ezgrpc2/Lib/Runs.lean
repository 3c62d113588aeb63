import Mathlib.Data.List.Basic
import Mathlib.Data.Nat.Notation

/-! # Runs of a partial step function

`step s a` is the state after the action `a` in the state `s`, or `none` when the step is not taken
(the program aborts, or the action is not possible there). `run` folds it over a list of actions.
`run_invariant` is the rule for safety: what holds at the start and is preserved by a step holds in
every state a run reaches. `along_iff` is the rule for exact conditions: when an invariant is
kept by the steps that meet a condition, and under it the condition is equivalent to the step
being right, then every step of a run is right exactly when every step meets the condition. -/

namespace StepRuns

variable {σ α : Type*} (step : σ → α → Option σ)

/-- The state after a list of actions, or `none` when one of them is not taken. -/
def run (s : σ) : List α → Option σ
  | [] => some s
  | a :: as => (step s a).bind fun s' => run s' as

@[simp] theorem run_nil (s : σ) : run step s [] = some s := rfl

theorem run_cons (s : σ) (a : α) (as : List α) :
    run step s (a :: as) = (step s a).bind fun s' => run step s' as := rfl

/-- A run that is not stopped takes its first step. -/
theorem run_cons_eq_some {step : σ → α → Option σ} {s s' : σ} {a : α} {as : List α} :
    run step s (a :: as) = some s' ↔ ∃ s₁, step s a = some s₁ ∧ run step s₁ as = some s' :=
  Option.bind_eq_some_iff

/-- A run splits at any point into two runs. -/
theorem run_append (s : σ) (as bs : List α) :
    run step s (as ++ bs) = (run step s as).bind fun s' => run step s' bs := by
  induction as generalizing s with
  | nil => rfl
  | cons a as ih =>
      rw [List.cons_append, run_cons, run_cons]
      cases step s a with
      | none => rfl
      | some s' => exact ih s'

/-- **The invariant rule**: a property kept by every step holds wherever a run leads. -/
theorem run_invariant {I : σ → Prop} (hstep : ∀ s a s', I s → step s a = some s' → I s')
    {s s' : σ} {as : List α} (hs : I s) (hrun : run step s as = some s') : I s' := by
  induction as generalizing s with
  | nil =>
      obtain rfl : s = s' := Option.some.inj hrun
      exact hs
  | cons a as ih =>
      obtain ⟨s₁, hs₁, hrest⟩ := run_cons_eq_some.mp hrun
      exact ih (hstep s a s₁ hs hs₁) hrest

/-- **`s` is reachable** from `s₀`: some run leads there. -/
def Reachable (s₀ s : σ) : Prop := ∃ as, run step s₀ as = some s

/-- The invariant rule for reachable states. -/
theorem Reachable.invariant {step : σ → α → Option σ} {I : σ → Prop} {s₀ s : σ}
    (h : Reachable step s₀ s) (hinit : I s₀)
    (hstep : ∀ s a s', I s → step s a = some s' → I s') : I s := by
  obtain ⟨as, hrun⟩ := h
  exact run_invariant step hstep hinit hrun

/-- `P` holds of every action of the run, with the state it is taken in. -/
def Along (P : σ → α → Prop) : σ → List α → Prop
  | _, [] => True
  | s, a :: as => P s a ∧ ∀ s', step s a = some s' → Along P s' as

variable {step}

/-- What holds behind a step that is taken. -/
theorem forall_step_iff {Q : σ → Prop} {s s' : σ} {a : α} (h : step s a = some s') :
    (∀ s₁, step s a = some s₁ → Q s₁) ↔ Q s' := by
  rw [h]
  refine ⟨fun hall => hall s' rfl, fun hQ s₁ hs₁ => ?_⟩
  rwa [← Option.some.inj hs₁]

/-- Along a run whose first step is taken. -/
theorem along_cons_of_step {P : σ → α → Prop} {s s' : σ} {a : α} {as : List α}
    (h : step s a = some s') : Along step P s (a :: as) ↔ P s a ∧ Along step P s' as :=
  and_congr_right' (forall_step_iff h)

/-- What holds of every step holds along a run. -/
theorem along_of_forall {P : σ → α → Prop} (h : ∀ s a, P s a) (s : σ) (as : List α) :
    Along step P s as := by
  induction as generalizing s with
  | nil => trivial
  | cons a as ih => exact ⟨h s a, fun s' _ => ih s'⟩

/-- The rule for exact conditions, for a run with the assumption `L` along it. -/
theorem Along.iff_of {I : σ → Prop} {L P C : σ → α → Prop} {s : σ} {as : List α}
    (hL : Along step L s as)
    (hstep : ∀ s a s', I s → C s a → step s a = some s' → I s')
    (hiff : ∀ s a, I s → L s a → (P s a ↔ C s a)) (hs : I s) :
    Along step P s as ↔ Along step C s as := by
  induction as generalizing s with
  | nil => exact Iff.rfl
  | cons a as ih =>
      have hhead := hiff s a hs hL.1
      have htail : C s a → ∀ s', step s a = some s' →
          (Along step P s' as ↔ Along step C s' as) :=
        fun hC s' h => ih (hL.2 s' h) (hstep s a s' hs hC h)
      constructor
      · rintro ⟨hP, hrest⟩
        have hC := hhead.mp hP
        exact ⟨hC, fun s' h => (htail hC s' h).mp (hrest s' h)⟩
      · rintro ⟨hC, hrest⟩
        exact ⟨hhead.mpr hC, fun s' h => (htail hC s' h).mpr (hrest s' h)⟩

/-- **The rule for exact conditions.** If the steps that meet `C` keep `I`, and under `I` a step
is right exactly when it meets `C`, then all steps of a run are right exactly when all meet `C`. -/
theorem along_iff {I : σ → Prop} {P C : σ → α → Prop}
    (hstep : ∀ s a s', I s → C s a → step s a = some s' → I s')
    (hiff : ∀ s a, I s → (P s a ↔ C s a)) {s : σ} (hs : I s) (as : List α) :
    Along step P s as ↔ Along step C s as :=
  (along_of_forall (fun _ _ => trivial) s as : Along step (fun _ _ => True) s as).iff_of hstep
    (fun s a h _ => hiff s a h) hs

/-- Every list of actions goes through: a condition on the actions alone is one on the list. -/
theorem along_forall_iff {C : α → Prop} (htotal : ∀ s a, ∃ s', step s a = some s') {s : σ}
    {as : List α} : Along step (fun _ a => C a) s as ↔ ∀ a ∈ as, C a := by
  induction as generalizing s with
  | nil => exact iff_of_true trivial fun _ ha => absurd ha List.not_mem_nil
  | cons a as ih =>
      obtain ⟨s', hs'⟩ := htotal s a
      rw [List.forall_mem_cons, along_cons_of_step hs', ih]

/-- What holds along a run splits at any point. -/
theorem along_append {P : σ → α → Prop} {s : σ} (as bs : List α) :
    Along step P s (as ++ bs) ↔
      Along step P s as ∧ ∀ s', run step s as = some s' → Along step P s' bs := by
  induction as generalizing s with
  | nil => simp [Along]
  | cons a as ih =>
      simp only [List.cons_append, Along, ih, run_cons, Option.bind_eq_some_iff]
      constructor
      · rintro ⟨ha, hrest⟩
        exact ⟨⟨ha, fun s' h => (hrest s' h).1⟩, fun s' ⟨s₁, h, hrun⟩ => (hrest s₁ h).2 s' hrun⟩
      · rintro ⟨⟨ha, hrest⟩, hbs⟩
        exact ⟨ha, fun s₁ h => ⟨hrest s₁ h, fun s' hrun => hbs s' ⟨s₁, h, hrun⟩⟩⟩

/-- Whether `P` holds along a run can be computed. -/
instance Along.decidable {P : σ → α → Prop} [∀ s a, Decidable (P s a)] (s : σ) :
    (as : List α) → Decidable (Along step P s as)
  | [] => isTrue trivial
  | a :: as =>
      match h : step s a with
      | none =>
          decidable_of_iff (P s a)
            ⟨fun hP => ⟨hP, fun _ h' => Option.noConfusion rfl (heq_of_eq (h.symm.trans h'))⟩, And.left⟩
      | some s' =>
          have := Along.decidable (P := P) s' as
          decidable_of_iff (P s a ∧ Along step P s' as)
            ⟨fun hP => ⟨hP.1, fun _ h' => Option.some.inj (h.symm.trans h') ▸ hP.2⟩,
              fun hP => ⟨hP.1, hP.2 s' h⟩⟩

/-- Two conditions that hold along a run hold together along it. -/
theorem Along.and {P Q : σ → α → Prop} {s : σ} {as : List α} (hP : Along step P s as)
    (hQ : Along step Q s as) : Along step (fun s a => P s a ∧ Q s a) s as := by
  induction as generalizing s with
  | nil => trivial
  | cons a as ih => exact ⟨⟨hP.1, hQ.1⟩, fun s' h => ih (hP.2 s' h) (hQ.2 s' h)⟩

/-- **The rule for assumptions along a run**: if under an invariant the steps that meet `C` are right
and keep it, a run all of whose steps meet `C` is right. -/
theorem Along.imp {I : σ → Prop} {C P : σ → α → Prop} {s : σ} {as : List α}
    (hC : Along step C s as)
    (hstep : ∀ s a, I s → C s a → P s a ∧ ∀ s', step s a = some s' → I s') (hs : I s) :
    Along step P s as := by
  induction as generalizing s with
  | nil => trivial
  | cons a as ih =>
      obtain ⟨hP, hnext⟩ := hstep s a hs hC.1
      exact ⟨hP, fun s' h => ih (hC.2 s' h) (hnext s' h)⟩

/-- What the steps meeting `C` keep holds at the end of a run all of whose steps meet `C`. -/
theorem Along.invariant {I : σ → Prop} {C : σ → α → Prop}
    (hstep : ∀ s a s', I s → C s a → step s a = some s' → I s') {s s' : σ} {as : List α}
    (hs : I s) (hC : Along step C s as) (hrun : run step s as = some s') : I s' := by
  induction as generalizing s with
  | nil =>
      obtain rfl : s = s' := Option.some.inj hrun
      exact hs
  | cons a as ih =>
      obtain ⟨s₁, hs₁, hrest⟩ := run_cons_eq_some.mp hrun
      exact ih (hstep s a s₁ hs hC.1 hs₁) (hC.2 s₁ hs₁) hrest

/-- **The rule for progress**: if under an invariant the actions that meet `C` are taken and keep it, a
run all of whose actions meet `C` goes through. -/
theorem Along.exists_run {I : σ → Prop} {C : σ → α → Prop} {s : σ} {as : List α}
    (hC : Along step C s as)
    (hstep : ∀ s, ∀ a ∈ as, I s → C s a → ∃ s', step s a = some s' ∧ I s') (hs : I s) :
    ∃ s', run step s as = some s' ∧ I s' := by
  induction as generalizing s with
  | nil => exact ⟨s, rfl, hs⟩
  | cons a as ih =>
      obtain ⟨s₁, hs₁, hI⟩ := hstep s a List.mem_cons_self hs hC.1
      obtain ⟨s', hrun, hI'⟩ := ih (hC.2 s₁ hs₁)
        (fun s b hb => hstep s b (List.mem_cons_of_mem a hb)) hI
      exact ⟨s', run_cons_eq_some.mpr ⟨s₁, hs₁, hrun⟩, hI'⟩

/-- **The rule for variants**: a variant that every step lowers by one counts the steps of a run. -/
theorem run_variant {I : σ → Prop} {m : σ → ℕ}
    (hstep : ∀ s a s', I s → step s a = some s' → I s' ∧ m s = m s' + 1) {s s' : σ} {as : List α}
    (hs : I s) (hrun : run step s as = some s') : m s = m s' + as.length := by
  induction as generalizing s with
  | nil =>
      obtain rfl : s = s' := Option.some.inj hrun
      rfl
  | cons a as ih =>
      obtain ⟨s₁, hs₁, hrest⟩ := run_cons_eq_some.mp hrun
      obtain ⟨hI, hm⟩ := hstep s a s₁ hs hs₁
      rw [hm, ih hI hrest, List.length_cons, Nat.add_assoc]

/-- If some step lowers the variant by one as long as it is positive, some run lowers it to zero. -/
theorem exists_run_variant {I : σ → Prop} {m : σ → ℕ}
    (hnext : ∀ s, I s → 0 < m s → ∃ a s', step s a = some s' ∧ I s' ∧ m s = m s' + 1) {s : σ}
    (hs : I s) : ∃ as s', run step s as = some s' ∧ I s' ∧ m s' = 0 := by
  induction hm : m s generalizing s with
  | zero => exact ⟨[], s, rfl, hs, hm⟩
  | succ n ih =>
      obtain ⟨a, s₁, hs₁, hI, hm₁⟩ := hnext s hs (hm ▸ Nat.succ_pos n)
      obtain ⟨as, s', hrun, hs', hzero⟩ := ih hI (by omega)
      exact ⟨a :: as, s', run_cons_eq_some.mpr ⟨s₁, hs₁, hrun⟩, hs', hzero⟩

/-- `P` holds in every state of the run, the first one included. -/
def Throughout (step : σ → α → Option σ) (P : σ → Prop) : σ → List α → Prop
  | s, [] => P s
  | s, a :: as => P s ∧ ∀ s', step s a = some s' → Throughout step P s' as

/-- **The rule for exact conditions on states.** If `P` holds under `I`, a step that meets `C` keeps
`I` and one that does not leads to a state without `P`, then `P` holds throughout a run that goes
through exactly when all its steps meet `C`. -/
theorem throughout_iff {I P : σ → Prop} {C : σ → α → Prop} (hP : ∀ s, I s → P s)
    (hgood : ∀ s a s', I s → C s a → step s a = some s' → I s')
    (hbad : ∀ s a s', I s → ¬C s a → step s a = some s' → ¬P s') {s s' : σ} {as : List α}
    (hs : I s) (hrun : run step s as = some s') :
    Throughout step P s as ↔ Along step C s as := by
  induction as generalizing s with
  | nil => exact ⟨fun _ => trivial, fun _ => hP s hs⟩
  | cons a as ih =>
      obtain ⟨s₁, hs₁, hrest⟩ := run_cons_eq_some.mp hrun
      rw [Throughout, forall_step_iff hs₁, along_cons_of_step hs₁]
      constructor
      · rintro ⟨-, hall⟩
        have hC : C s a := by
          by_contra hnot
          refine hbad s a s₁ hs hnot hs₁ ?_
          cases as with
          | nil => exact hall
          | cons _ _ => exact hall.1
        exact ⟨hC, (ih (hgood s a s₁ hs hC hs₁) hrest).mp hall⟩
      · rintro ⟨hC, hall⟩
        exact ⟨hP s hs, (ih (hgood s a s₁ hs hC hs₁) hrest).mpr hall⟩

/-- **The projection rule.** `R` relates a run of everybody's actions to a run of one party's own. If
the other run can follow every own action, and need not move for any other, then it makes the own
actions of every run and stays related. -/
theorem run_filter {R : σ → σ → Prop} {own : α → Bool}
    (hown : ∀ s t a s', R s t → own a = true → step s a = some s' →
      ∃ t', step t a = some t' ∧ R s' t')
    (hother : ∀ s t a s', R s t → own a = false → step s a = some s' → R s' t) {s s' t : σ}
    {as : List α} (h : R s t) (hrun : run step s as = some s') :
    ∃ t', run step t (as.filter own) = some t' ∧ R s' t' := by
  induction as generalizing s t with
  | nil =>
      obtain rfl : s = s' := Option.some.inj hrun
      exact ⟨t, rfl, h⟩
  | cons a as ih =>
      obtain ⟨s₁, hs₁, hrest⟩ := run_cons_eq_some.mp hrun
      cases ha : own a with
      | true =>
          obtain ⟨t₁, ht₁, hR⟩ := hown s t a s₁ h ha hs₁
          obtain ⟨t', hrun', hR'⟩ := ih hR hrest
          refine ⟨t', ?_, hR'⟩
          rw [List.filter_cons_of_pos ha, run_cons, ht₁]
          exact hrun'
      | false =>
          rw [List.filter_cons_of_neg (by rw [ha]; exact Bool.false_ne_true)]
          exact ih (hother s t a s₁ h ha hs₁) hrest

end StepRuns
