import Mathlib

/-!
# Newton's iteration for the square root

One step takes the mean of a guess and of the quotient by it, rounded down. A step from any guess
leads to the root or above it, and a guess that a step does not lower is not above the root.
-/

namespace PoleProtocol.Framework

def newtonStep (n guess : ℕ) : ℕ := (guess + n / guess) / 2

/-- A step never leads below the root. -/
theorem sqrt_le_newtonStep (n : ℕ) {guess : ℕ} (hpos : 0 < guess) :
    n.sqrt ≤ newtonStep n guess := by
  have hmean : (2 * n.sqrt - guess) * guess ≤ n.sqrt * n.sqrt := by
    rcases Nat.le_total (2 * n.sqrt) guess with hle | hle
    · rw [Nat.sub_eq_zero_of_le hle, Nat.zero_mul]
      exact Nat.zero_le _
    · obtain ⟨rest, hrest⟩ := Nat.exists_eq_add_of_le hle
      rw [hrest, Nat.add_sub_cancel_left]
      have htwice : (guess + rest) * (guess + rest) = 4 * (n.sqrt * n.sqrt) := by
        rw [← hrest]
        ring
      have hsquare : 4 * (rest * guess) ≤ (guess + rest) * (guess + rest) := by
        nlinarith [sq_nonneg ((guess : ℤ) - rest)]
      omega
  have hquotient : 2 * n.sqrt - guess ≤ n / guess :=
    (Nat.le_div_iff_mul_le hpos).mpr (hmean.trans (Nat.sqrt_le n))
  unfold newtonStep
  omega

/-- A guess that a step does not lower is at most the root. -/
theorem le_sqrt_of_le_newtonStep {n guess : ℕ} (h : guess ≤ newtonStep n guess) :
    guess ≤ n.sqrt := by
  rcases Nat.eq_zero_or_pos guess with hzero | hpos
  · rw [hzero]
    exact Nat.zero_le _
  · have hquotient : guess ≤ n / guess := by
      unfold newtonStep at h
      omega
    exact Nat.le_sqrt.mpr ((Nat.le_div_iff_mul_le hpos).mp hquotient)

/-- A guess and the quotient by it are at most one more than the number. -/
theorem add_div_le_succ {n guess : ℕ} (hpos : 0 < guess) (hle : guess ≤ n) :
    guess + n / guess ≤ n + 1 := by
  have hquotient : 0 < n / guess := Nat.div_pos hle hpos
  obtain ⟨a, rfl⟩ := Nat.exists_eq_add_of_lt hpos
  obtain ⟨b, hb⟩ := Nat.exists_eq_add_of_lt hquotient
  have hproduct : n / (0 + a + 1) * (0 + a + 1) ≤ n := Nat.div_mul_le_self n _
  rw [hb] at hproduct ⊢
  have hcross : (0 + b + 1) * (0 + a + 1) = b * a + b + a + 1 := by ring
  omega

/-- The root of a scaled word is below the scaled root of the word's range. -/
theorem sqrt_scaled_lt {n bound scale : ℕ} (h : n < bound * bound) (hscale : 0 < scale) :
    (n * (scale * scale)).sqrt < bound * scale := by
  rw [Nat.sqrt_lt]
  calc n * (scale * scale) < bound * bound * (scale * scale) :=
        Nat.mul_lt_mul_of_pos_right h (Nat.mul_pos hscale hscale)
    _ = bound * scale * (bound * scale) := by ring

end PoleProtocol.Framework
