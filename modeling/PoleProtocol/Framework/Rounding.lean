import PoleProtocol.Framework.Word

/-!
# Rounded ratios

Ratios of natural numbers as exact rationals, rounded to a whole number, and the integer divisions
that compute them. A word holds a number exactly when the number is below its modulus.
-/

namespace PoleProtocol.Framework

theorem wrap64_eq_iff {n : ℕ} : wrap64 n = n ↔ n < 2 ^ 64 := Nat.mod_eq_iff_lt (by decide)

/-- A reduced number has the quotient of the whole one only where nothing is reduced. -/
theorem wrap64_div_eq_iff {n d : ℕ} (hpos : 0 < d) (hword : d ≤ 2 ^ 64) :
    wrap64 n / d = n / d ↔ n < 2 ^ 64 := by
  constructor
  · intro hsame
    by_contra hlarge
    have hwrap : wrap64 n + 2 ^ 64 ≤ n := by
      unfold wrap64
      omega
    have hstep : wrap64 n / d + 1 ≤ n / d :=
      calc wrap64 n / d + 1 = (wrap64 n + d) / d := (Nat.add_div_right _ hpos).symm
        _ ≤ n / d := Nat.div_le_div_right (by omega)
    omega
  · intro hfits
    rw [wrap64_of_lt hfits]

/-- The ratio of two numbers in units of `1 / scale`, rounded down. -/
def ratioFloor (a b scale : ℕ) : ℕ := ⌊(a / b * scale : ℚ)⌋₊

theorem ratioFloor_eq (a b scale : ℕ) : ratioFloor a b scale = a * scale / b := by
  have hratio : (a / b * scale : ℚ) = ((a * scale : ℕ) : ℚ) / b := by
    push_cast
    ring
  rw [ratioFloor, hratio, Nat.floor_div_eq_div]

/-- The ratio of two numbers, rounded up. -/
def ratioCeil (a b : ℕ) : ℕ := ⌈(a / b : ℚ)⌉₊

theorem ratioCeil_eq (a : ℕ) {b : ℕ} (hb : 0 < b) : ratioCeil a b = (a + b - 1) / b := by
  have hpositive : (0 : ℚ) < b := Nat.cast_pos.mpr hb
  refine eq_of_forall_ge_iff fun n => ?_
  rw [ratioCeil, Nat.ceil_le, div_le_iff₀ hpositive, ← Nat.cast_mul, Nat.cast_le,
    Nat.div_le_iff_le_mul_add_pred hb, Nat.mul_comm]
  omega

/-- A part never makes up more than the whole. -/
theorem ratioFloor_le {a b : ℕ} (scale : ℕ) (h : a ≤ b) : ratioFloor a b scale ≤ scale := by
  rw [ratioFloor_eq]
  exact Nat.div_le_of_le_mul (Nat.mul_le_mul_right scale h)

/-- Shares that are rounded down one by one come to at most the rounded share of all. -/
theorem sum_shares_le_div (pool : ℕ) (weights : List ℕ) (total : ℕ) :
    (weights.map fun weight => pool * weight / total).sum ≤ pool * weights.sum / total := by
  induction weights with
  | nil => exact Nat.zero_le _
  | cons weight weights ih =>
      rw [List.map_cons, List.sum_cons, List.sum_cons, Nat.mul_add]
      calc pool * weight / total + (weights.map fun weight => pool * weight / total).sum
          ≤ pool * weight / total + pool * weights.sum / total := Nat.add_le_add_left ih _
        _ ≤ (pool * weight + pool * weights.sum) / total := Nat.div_add_div_le_add_div

end PoleProtocol.Framework
