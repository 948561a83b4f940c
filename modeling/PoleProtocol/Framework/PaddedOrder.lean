import Mathlib

/-!
# Lists compared with missing entries read as least

Lists of unequal length are compared entry by entry, the shorter one followed by least entries. The
plain lexicographic order agrees with this one except on a list that another one continues by least
entries only.
-/

namespace PoleProtocol.Framework

variable {α : Type*} [LinearOrder α] [OrderBot α]

/-- At the first place where they differ, missing entries read as the least one, `a` is the greater
list. -/
def GreaterPadded (a b : List α) : Prop :=
  ∃ i : ℕ, b.getD i ⊥ < a.getD i ⊥ ∧ ∀ j < i, a.getD j ⊥ = b.getD j ⊥

/-- The lists differ by least entries at the end of the first. -/
def ExtendsByLeast (a b : List α) : Prop := ∃ n, a = b ++ List.replicate (n + 1) ⊥

theorem getD_tail (a : List α) (i : ℕ) : a.tail.getD i ⊥ = a.getD (i + 1) ⊥ := by
  cases a with
  | nil => rfl
  | cons x a => rfl

theorem headD_eq_getD (a : List α) : a.headD ⊥ = a.getD 0 ⊥ := by
  cases a with
  | nil => rfl
  | cons x a => rfl

/-- The heads decide unless they are equal. -/
theorem greaterPadded_iff_head {a b : List α} :
    GreaterPadded a b ↔
      b.headD ⊥ < a.headD ⊥ ∨ (a.headD ⊥ = b.headD ⊥ ∧ GreaterPadded a.tail b.tail) := by
  rw [headD_eq_getD, headD_eq_getD]
  constructor
  · rintro ⟨i, hi, hbefore⟩
    cases i with
    | zero => exact Or.inl hi
    | succ i =>
        refine Or.inr ⟨hbefore 0 (Nat.succ_pos i), i, ?_, fun j hj => ?_⟩
        · rw [getD_tail, getD_tail]
          exact hi
        · rw [getD_tail, getD_tail]
          exact hbefore (j + 1) (Nat.succ_lt_succ hj)
  · rintro (hhead | ⟨hhead, i, hi, hbefore⟩)
    · exact ⟨0, hhead, fun j hj => absurd hj (Nat.not_lt_zero j)⟩
    · refine ⟨i + 1, ?_, fun j hj => ?_⟩
      · rw [← getD_tail, ← getD_tail]
        exact hi
      · cases j with
        | zero => exact hhead
        | succ j =>
            rw [← getD_tail, ← getD_tail]
            exact hbefore j (Nat.lt_of_succ_lt_succ hj)

theorem greaterPadded_cons_cons {x y : α} {a b : List α} :
    GreaterPadded (x :: a) (y :: b) ↔ y < x ∨ (x = y ∧ GreaterPadded a b) :=
  greaterPadded_iff_head

/-- Nothing is below the missing entries. -/
theorem not_greaterPadded_nil (b : List α) : ¬ GreaterPadded [] b := by
  rintro ⟨i, hi, -⟩
  exact not_lt_bot hi

/-- A list is above the empty one unless all its entries are least. -/
theorem greaterPadded_nil_or {a : List α} :
    GreaterPadded a [] ∨ a = List.replicate a.length ⊥ := by
  induction a with
  | nil => exact Or.inr rfl
  | cons x a ih =>
      rcases eq_or_ne x ⊥ with hx | hx
      · rcases ih with hgreater | hleast
        · exact Or.inl (greaterPadded_iff_head.mpr (Or.inr ⟨hx, hgreater⟩))
        · refine Or.inr ?_
          rw [List.length_cons, List.replicate_succ, ← hleast, hx]
      · exact Or.inl (greaterPadded_iff_head.mpr (Or.inl (bot_lt_iff_ne_bot.mpr hx)))

/-- Least entries at the end are read in any case. -/
theorem not_greaterPadded_of_extends {a b : List α} (h : ExtendsByLeast a b) :
    ¬ GreaterPadded a b := by
  obtain ⟨n, rfl⟩ := h
  induction b with
  | nil =>
      rintro ⟨i, hi, -⟩
      have hleast : (List.replicate (n + 1) (⊥ : α)).getD i ⊥ = ⊥ := by
        rw [List.getD_eq_getElem?_getD, List.getElem?_replicate]
        split <;> rfl
      rw [List.nil_append, hleast] at hi
      exact not_lt_bot hi
  | cons y b ih =>
      rw [List.cons_append, greaterPadded_cons_cons]
      rintro (hlt | ⟨-, hrest⟩)
      · exact lt_irrefl y hlt
      · exact ih hrest

theorem extendsByLeast_cons {x y : α} {a b : List α} :
    ExtendsByLeast (x :: a) (y :: b) ↔ x = y ∧ ExtendsByLeast a b := by
  constructor
  · rintro ⟨n, h⟩
    rw [List.cons_append, List.cons_eq_cons] at h
    exact ⟨h.1, n, h.2⟩
  · rintro ⟨rfl, n, rfl⟩
    exact ⟨n, rfl⟩

/-- The lexicographic order puts a list above those it is above entry by entry, and above those it
continues by least entries. -/
theorem lex_iff {a b : List α} :
    List.Lex (· < ·) b a ↔ GreaterPadded a b ∨ ExtendsByLeast a b := by
  induction a generalizing b with
  | nil =>
      constructor
      · intro h
        cases h
      · rintro (h | ⟨n, hn⟩)
        · exact absurd h (not_greaterPadded_nil b)
        · cases b <;> cases hn
  | cons x a ih =>
      cases b with
      | nil =>
          constructor
          · intro _
            rcases @greaterPadded_nil_or _ _ _ (x :: a) with hgreater | hleast
            · exact Or.inl hgreater
            · exact Or.inr ⟨a.length, hleast⟩
          · intro _
            exact List.Lex.nil
      | cons y b =>
          have hparts : List.Lex (· < ·) (y :: b) (x :: a) ↔
              y < x ∨ y = x ∧ List.Lex (· < ·) b a := List.cons_lex_cons_iff
          rw [hparts, ih, greaterPadded_cons_cons, extendsByLeast_cons, eq_comm (a := y)]
          tauto

end PoleProtocol.Framework
