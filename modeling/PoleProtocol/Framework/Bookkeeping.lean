import Mathlib.Algebra.BigOperators.Finsupp.Basic
import Mathlib.Algebra.BigOperators.Group.List.Basic
import PoleProtocol.Framework.Run

/-!
# Bookkeeping

A machine keeps books when every step adds an amount to them. A whole run then adds the sum of its
amounts, and books over infinitely many accounts are settled on the finitely many that a run
touches.
-/

namespace PoleProtocol.Framework

section Runs

variable {σ ι : Type*} {M : Type*} [AddMonoid M] {next : σ → ι → σ} {amount : σ → ι → M}

/-- Books kept by every step are kept by a run. -/
theorem run_accumulates (R : σ → σ → M → Prop) (hrefl : ∀ s, R s s 0)
    (htrans : ∀ {s t u : σ} {x y : M}, R s t x → R t u y → R s u (x + y))
    (hstep : ∀ s i, R s (next s i) (amount s i)) :
    ∀ (s : σ) (inputs : List ι), R s (run next s inputs) (trail next amount s inputs).sum
  | s, [] => by simpa using hrefl s
  | s, input :: inputs => by
      have hrest := run_accumulates R hrefl htrans hstep (next s input) inputs
      simpa using htrans (hstep s input) hrest

end Runs

section Accounts

variable {α : Type*} {accounts accounts' : α → ℤ} {change : α →₀ ℤ}

/-- Accounts outside the support of a change are untouched; the others change by its sum. -/
theorem accounts_settled (h : ∀ a, accounts' a = accounts a + change a) :
    (∀ a ∉ change.support, accounts' a = accounts a) ∧
      ∑ a ∈ change.support, accounts' a =
        ∑ a ∈ change.support, accounts a + change.sum fun _ amount => amount := by
  constructor
  · intro a ha
    rw [h, Finsupp.notMem_support_iff.mp ha, add_zero]
  · rw [Finsupp.sum, ← Finset.sum_add_distrib]
    exact Finset.sum_congr rfl fun a _ => h a

end Accounts

end PoleProtocol.Framework
