import Mathlib

/-!
# Totals over the cycles of a counter

Items are numbered in order, and `length` consecutive numbers make one cycle. The total of a cycle
only depends on the items whose number lies in it, so an item that comes later than the cycle adds
nothing to it.
-/

namespace PoleProtocol.Framework

/-- The sum of the weights whose number lies in the cycle; the first weight has number `first`. -/
def cycleTotal (length cycle : ℕ) : (first : ℕ) → List ℕ → ℕ
  | _, [] => 0
  | first, weight :: weights =>
      (if first / length = cycle then weight else 0) + cycleTotal length cycle (first + 1) weights

variable {length cycle : ℕ}

@[simp] theorem cycleTotal_nil (first : ℕ) : cycleTotal length cycle first [] = 0 := rfl

theorem cycleTotal_append (first : ℕ) (earlier later : List ℕ) :
    cycleTotal length cycle first (earlier ++ later) =
      cycleTotal length cycle first earlier +
        cycleTotal length cycle (first + earlier.length) later := by
  induction earlier generalizing first with
  | nil => simp
  | cons weight earlier ih =>
      have hnumber : first + (weight :: earlier).length = first + 1 + earlier.length := by
        rw [List.length_cons]
        omega
      rw [List.cons_append, cycleTotal, cycleTotal, ih, hnumber]
      exact (Nat.add_assoc _ _ _).symm

/-- What is numbered from a later cycle on adds nothing. -/
theorem cycleTotal_of_lt {first : ℕ} (hlater : cycle < first / length) (weights : List ℕ) :
    cycleTotal length cycle first weights = 0 := by
  induction weights generalizing first with
  | nil => rfl
  | cons weight weights ih =>
      have hnext : first / length ≤ (first + 1) / length := Nat.div_le_div_right (by omega)
      have hother : first / length ≠ cycle := by omega
      rw [cycleTotal, if_neg hother, ih (by omega)]

/-- Where every weight outside the cycle is zero, the cycle has them all. -/
theorem cycleTotal_of_inside {first : ℕ} {weights : List ℕ}
    (hinside : ∀ numbered ∈ weights.zipIdx first, numbered.1 = 0 ∨ numbered.2 / length = cycle) :
    cycleTotal length cycle first weights = weights.sum := by
  induction weights generalizing first with
  | nil => rfl
  | cons weight weights ih =>
      rw [List.zipIdx_cons, List.forall_mem_cons] at hinside
      obtain ⟨hfirst, hrest⟩ := hinside
      rw [cycleTotal, List.sum_cons, ih hrest]
      rcases hfirst with hzero | hcycle
      · have hweight : weight = 0 := hzero
        simp [hweight]
      · have hnumber : first / length = cycle := hcycle
        rw [if_pos hnumber]

/-- Then every other cycle has nothing. -/
theorem cycleTotal_of_outside {first other : ℕ} {weights : List ℕ}
    (hinside : ∀ numbered ∈ weights.zipIdx first, numbered.1 = 0 ∨ numbered.2 / length = cycle)
    (hother : other ≠ cycle) : cycleTotal length other first weights = 0 := by
  induction weights generalizing first with
  | nil => rfl
  | cons weight weights ih =>
      rw [List.zipIdx_cons, List.forall_mem_cons] at hinside
      obtain ⟨hfirst, hrest⟩ := hinside
      rw [cycleTotal, ih hrest, Nat.add_zero]
      rcases hfirst with hzero | hcycle
      · have hweight : weight = 0 := hzero
        simp [hweight]
      · have hnumber : first / length = cycle := hcycle
        rw [if_neg (by omega)]

end PoleProtocol.Framework
