import Mathlib

/-!
# Fixed-width arithmetic

Unsigned machine words are natural numbers; an operation that can leave its width is reduced
explicitly. Shares are given in basis points, and their product is reduced before the division,
as a fixed-width multiplication does.
-/

namespace PoleProtocol.Framework

/-- Reduction to a 64-bit word. -/
def wrap64 (n : ℕ) : ℕ := n % 2 ^ 64

/-- Reduction to a 32-bit word. -/
def wrap32 (n : ℕ) : ℕ := n % 2 ^ 32

@[simp] theorem wrap64_of_lt {n : ℕ} (h : n < 2 ^ 64) : wrap64 n = n := Nat.mod_eq_of_lt h

/-- A 64-bit word read as a signed number. -/
def toInt64 (n : ℕ) : ℤ := (BitVec.ofNat 64 n).toInt

theorem toInt64_of_lt {n : ℕ} (h : n < 2 ^ 63) : toInt64 n = n := by
  have hword : (BitVec.ofNat 64 n).toNat = n := by
    rw [BitVec.toNat_ofNat, Nat.mod_eq_of_lt (by omega)]
  rw [toInt64, BitVec.toInt_eq_toNat_of_lt (by omega), hword]

theorem wrap64_le (n : ℕ) : wrap64 n ≤ n := Nat.mod_le _ _

/-- Subtraction of 64-bit words. -/
def sub64 (a b : ℕ) : ℕ := if b ≤ a then a - b else a + 2 ^ 64 - b

@[simp] theorem sub64_of_le {a b : ℕ} (h : b ≤ a) : sub64 a b = a - b := if_pos h

/-- What an addition does when its result leaves the word: a build with overflow checks panics, a
build without them wraps. -/
inductive Overflow where
  | panic
  | wrap
  deriving DecidableEq

/-- Addition of words of the given width; no result is a panic. -/
def Overflow.add (policy : Overflow) (width a b : ℕ) : Option ℕ :=
  if a + b < 2 ^ width then some (a + b)
  else match policy with
    | .panic => none
    | .wrap => some ((a + b) % 2 ^ width)

theorem Overflow.add_of_lt (policy : Overflow) {width a b : ℕ} (h : a + b < 2 ^ width) :
    policy.add width a b = some (a + b) := if_pos h

theorem Overflow.eq_of_add {policy : Overflow} {width a b c : ℕ} (hfits : a + b < 2 ^ width)
    (h : policy.add width a b = some c) : c = a + b := by
  rw [policy.add_of_lt hfits] at h
  exact (Option.some.inj h).symm

/-- A sum that wraps is too small, never too large. -/
theorem Overflow.add_le {policy : Overflow} {width a b c : ℕ}
    (h : policy.add width a b = some c) : c ≤ a + b := by
  unfold Overflow.add at h
  split at h
  · cases h
    exact le_rfl
  · cases policy with
    | panic => cases h
    | wrap =>
        cases h
        exact Nat.mod_le _ _

/-- A sum is a word. -/
theorem Overflow.add_lt {policy : Overflow} {width a b c : ℕ}
    (h : policy.add width a b = some c) : c < 2 ^ width := by
  unfold Overflow.add at h
  split at h
  · next hfits =>
      cases h
      exact hfits
  · cases policy with
    | panic => cases h
    | wrap =>
        cases h
        exact Nat.mod_lt _ (Nat.two_pow_pos width)

/-- The addition does not panic. -/
def Overflow.Adds (policy : Overflow) (width a b : ℕ) : Prop :=
  policy = .wrap ∨ a + b < 2 ^ width

instance (policy : Overflow) (width a b : ℕ) : Decidable (policy.Adds width a b) :=
  inferInstanceAs (Decidable (_ ∨ _))

theorem Overflow.adds_iff {policy : Overflow} {width a b : ℕ} :
    policy.Adds width a b ↔ ∃ c, policy.add width a b = some c := by
  unfold Overflow.Adds Overflow.add
  split
  · next hfits => simp [hfits]
  · next hfits => cases policy <;> simp [hfits]

/-- A build with overflow checks only returns exact sums. -/
theorem Overflow.panic_add {width a b c : ℕ} :
    Overflow.panic.add width a b = some c ↔ a + b < 2 ^ width ∧ c = a + b := by
  unfold Overflow.add
  split
  · next h => simp [h, eq_comm]
  · next h => simp [h]

/-- Adding one to a word changes it. -/
theorem Overflow.add_one_ne (policy : Overflow) {width a c : ℕ} (h : policy.add width a 1 = some c)
    (hwidth : 0 < width) : c ≠ a := by
  have hword : 1 < 2 ^ width := Nat.one_lt_two_pow (by omega)
  unfold Overflow.add at h
  split at h
  · cases h
    omega
  · next hover =>
      cases policy with
      | panic => cases h
      | wrap =>
          cases h
          have hmod := Nat.mod_lt (a + 1) (show 0 < 2 ^ width by omega)
          intro heq
          have hfull : a + 1 = 2 ^ width := by omega
          rw [hfull, Nat.mod_self] at heq
          omega

/-- Multiplication of words of the given width; no result is a panic. -/
def Overflow.mul (policy : Overflow) (width a b : ℕ) : Option ℕ :=
  if a * b < 2 ^ width then some (a * b)
  else match policy with
    | .panic => none
    | .wrap => some (a * b % 2 ^ width)

theorem Overflow.mul_of_lt (policy : Overflow) {width a b : ℕ} (h : a * b < 2 ^ width) :
    policy.mul width a b = some (a * b) := if_pos h

theorem Overflow.mul_panic_of_le {width a b : ℕ} (h : 2 ^ width ≤ a * b) :
    Overflow.panic.mul width a b = none := if_neg (Nat.not_lt.mpr h)

theorem Overflow.add_panic_of_le {width a b : ℕ} (h : 2 ^ width ≤ a + b) :
    Overflow.panic.add width a b = none := if_neg (Nat.not_lt.mpr h)

/-- Without overflow checks there is always a result. -/
theorem Overflow.mul_wrap (width a b : ℕ) :
    Overflow.wrap.mul width a b = some (a * b % 2 ^ width) := by
  unfold Overflow.mul
  split
  · next hfits => rw [Nat.mod_eq_of_lt hfits]
  · rfl

theorem Overflow.add_wrap (width a b : ℕ) :
    Overflow.wrap.add width a b = some ((a + b) % 2 ^ width) := by
  unfold Overflow.add
  split
  · next hfits => rw [Nat.mod_eq_of_lt hfits]
  · rfl

/-- Addition of 64-bit words that stops at the largest one. -/
def saturatingAdd64 (a b : ℕ) : ℕ := min (a + b) (2 ^ 64 - 1)

/-- Addition of 128-bit words that stops at the largest one. -/
def saturatingAdd128 (a b : ℕ) : ℕ := min (a + b) (2 ^ 128 - 1)

/-- Multiplication of 128-bit words that stops at the largest one. -/
def saturatingMul128 (a b : ℕ) : ℕ := min (a * b) (2 ^ 128 - 1)

theorem saturatingAdd64_of_lt {a b : ℕ} (h : a + b < 2 ^ 64) : saturatingAdd64 a b = a + b := by
  unfold saturatingAdd64
  omega

theorem saturatingAdd128_of_lt {a b : ℕ} (h : a + b < 2 ^ 128) :
    saturatingAdd128 a b = a + b := by
  unfold saturatingAdd128
  omega

theorem saturatingMul128_of_lt {a b : ℕ} (h : a * b < 2 ^ 128) : saturatingMul128 a b = a * b := by
  unfold saturatingMul128
  omega

/-- A sum that has stopped stays where it is. -/
theorem saturatingAdd128_min (a b : ℕ) :
    saturatingAdd128 (min a (2 ^ 128 - 1)) b = min (a + b) (2 ^ 128 - 1) := by
  unfold saturatingAdd128
  omega

/-- A share of `amount` in basis points, computed in 64-bit words. -/
def bpsShare64 (amount bps : ℕ) : ℕ := wrap64 (amount * bps) / 10000

/-- A reduced product only makes a share smaller, so it never exceeds the amount. -/
theorem bpsShare64_le {amount bps : ℕ} (hbps : bps ≤ 10000) : bpsShare64 amount bps ≤ amount := by
  have hwrap : wrap64 (amount * bps) ≤ amount * 10000 :=
    (wrap64_le _).trans (Nat.mul_le_mul_left amount hbps)
  unfold bpsShare64
  omega

end PoleProtocol.Framework
