import PoleProtocol.Framework.Word

/-!
# Sums of machine words

Words are added up one after the other. A sum that fits its word is exact; otherwise a build with
overflow checks stops, and one without them keeps the sum up to a multiple of the word.
-/

namespace PoleProtocol.Framework

/-- The words added one after the other to `start`; no result is a panic. -/
def Overflow.sumFrom (policy : Overflow) (width start : ℕ) (words : List ℕ) : Option ℕ :=
  words.foldlM (policy.add width) start

variable {policy : Overflow} {width start : ℕ} {words : List ℕ}

theorem Overflow.sumFrom_cons (w : ℕ) :
    policy.sumFrom width start (w :: words) =
      (policy.add width start w).bind fun next => policy.sumFrom width next words := rfl

theorem Overflow.sumFrom_of_lt (h : start + words.sum < 2 ^ width) :
    policy.sumFrom width start words = some (start + words.sum) := by
  induction words generalizing start with
  | nil => rfl
  | cons w words ih =>
      rw [List.sum_cons, ← Nat.add_assoc] at h ⊢
      rw [Overflow.sumFrom_cons, policy.add_of_lt (by omega), Option.bind_some, ih h]

/-- With overflow checks the sum is exact. -/
theorem Overflow.sumFrom_panic {total : ℕ} (hstart : start < 2 ^ width)
    (h : Overflow.panic.sumFrom width start words = some total) :
    start + words.sum < 2 ^ width ∧ total = start + words.sum := by
  induction words generalizing start with
  | nil =>
      cases h
      exact ⟨hstart, rfl⟩
  | cons w words ih =>
      rw [Overflow.sumFrom_cons] at h
      obtain ⟨next, hnext, hrest⟩ := Option.bind_eq_some_iff.mp h
      obtain ⟨hfits, rfl⟩ := Overflow.panic_add.mp hnext
      rw [List.sum_cons, ← Nat.add_assoc]
      exact ih hfits hrest

end PoleProtocol.Framework
