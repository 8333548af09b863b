import Mathlib.Data.List.Basic

/-!
# Computations that log their steps

A traced computation yields a value together with the steps that were taken to
compute it.  What holds of every step, and what the steps of some kind are, is
derived from the parts of the computation.
-/

/-- A value and the steps that were taken to compute it, in their order. -/
structure Traced.{u, v} (ε : Type u) (α : Type v) where
  value : α
  steps : List ε

namespace Traced

universe u v w

variable {ε : Type u} {α β : Type v} {κ : Type w}

instance : Monad (Traced.{u, v} ε) where
  pure value := ⟨value, []⟩
  bind run next :=
    ⟨(next run.value).value, run.steps ++ (next run.value).steps⟩

/-- Log a step. -/
def log (step : ε) : Traced ε PUnit.{v + 1} :=
  ⟨PUnit.unit, [step]⟩

@[simp] theorem value_pure (value : α) :
    (pure value : Traced ε α).value = value := rfl

@[simp] theorem value_bind (run : Traced ε α) (next : α → Traced ε β) :
    (run >>= next).value = (next run.value).value := rfl

/-- What follows a run matters at the value of the run. -/
theorem bind_congr {run : Traced ε α} {next other : α → Traced ε β}
    (same : next run.value = other run.value) :
    run >>= next = run >>= other :=
  congrArg
    (fun rest => (⟨rest.value, run.steps ++ rest.steps⟩ : Traced ε β)) same

/-! ## Conditions on all steps -/

/-- Every step meets a condition. -/
def All (condition : ε → Prop) (run : Traced ε α) : Prop :=
  ∀ step ∈ run.steps, condition step

variable {condition : ε → Prop}

theorem All.pure (value : α) :
    All condition (Pure.pure value : Traced ε α) :=
  fun _ member => absurd member List.not_mem_nil

theorem All.bind {run : Traced ε α} {next : α → Traced ε β}
    (first : All condition run) (second : All condition (next run.value)) :
    All condition (run >>= next) := by
  intro step member
  rcases List.mem_append.mp member with inRun | inNext
  · exact first step inRun
  · exact second step inNext

theorem All.log {step : ε} (met : condition step) :
    All condition (Traced.log step) := by
  intro other member
  rw [List.mem_singleton.mp member]
  exact met

theorem All.ite {c : Prop} [Decidable c] {first second : Traced ε α}
    (inFirst : c → All condition first)
    (inSecond : ¬c → All condition second) :
    All condition (if c then first else second) := by
  split
  next holds => exact inFirst holds
  next fails => exact inSecond fails

theorem All.dite {c : Prop} [Decidable c] {first : c → Traced ε α}
    {second : ¬c → Traced ε α} (inFirst : ∀ holds, All condition (first holds))
    (inSecond : ∀ fails, All condition (second fails)) :
    All condition (if holds : c then first holds else second holds) := by
  split
  next holds => exact inFirst holds
  next fails => exact inSecond fails

theorem All.mono {weaker : ε → Prop} {run : Traced ε α}
    (all : All condition run) (weakens : ∀ step, condition step → weaker step) :
    All weaker run :=
  fun step member => weakens step (all step member)

/-! ## Steps of one kind -/

/-- The steps of a kind, with what a selection makes of them. -/
def collect (select : ε → Option κ) (run : Traced ε α) : List κ :=
  run.steps.filterMap select

variable (select : ε → Option κ)

@[simp] theorem collect_pure (value : α) :
    collect select (Pure.pure value : Traced ε α) = [] := rfl

@[simp] theorem collect_bind (run : Traced ε α) (next : α → Traced ε β) :
    collect select (run >>= next) =
      collect select run ++ collect select (next run.value) :=
  List.filterMap_append

/-- A run without steps of a kind. -/
theorem collect_eq_nil {run : Traced ε α}
    (none : All (fun step => select step = none) run) :
    collect select run = [] :=
  List.filterMap_eq_nil_iff.mpr none

end Traced
