import Mathlib

/-!
# Sequences of checks

A handler that either refuses with an error or returns a result is a computation in `Except`.
The rules read a successful handler backwards: every check passed, and every intermediate
result exists.
-/

namespace PoleProtocol.Framework

variable {ε α β : Type}

/-- Refuse with `error` unless `p` holds. -/
def ensure (p : Prop) [Decidable p] (error : ε) : Except ε Unit :=
  if p then .ok () else .error error

/-- The stored value, or a refusal when there is none. -/
def require (x : Option α) (error : ε) : Except ε α :=
  match x with
  | some a => .ok a
  | none => .error error

@[simp] theorem bind_eq_ok {x : Except ε α} {f : α → Except ε β} {b : β} :
    (x >>= f) = .ok b ↔ ∃ a, x = .ok a ∧ f a = .ok b := by
  cases x <;> simp [bind, Except.bind]

theorem bind_eq_error {x : Except ε α} {f : α → Except ε β} {e : ε} :
    (x >>= f) = .error e ↔ x = .error e ∨ ∃ a, x = .ok a ∧ f a = .error e := by
  cases x <;> simp [bind, Except.bind]

@[simp] theorem pure_eq_ok {a b : α} : (pure a : Except ε α) = .ok b ↔ a = b := by
  simp [pure, Except.pure]

@[simp] theorem ensure_eq_ok {p : Prop} [Decidable p] {e : ε} {u : Unit} :
    ensure p e = .ok u ↔ p := by
  by_cases h : p <;> simp [ensure, h]

theorem ensure_eq_error {p : Prop} [Decidable p] {e e' : ε} :
    ensure p e = .error e' ↔ ¬ p ∧ e = e' := by
  by_cases h : p <;> simp [ensure, h]

theorem ensure_of {p : Prop} [Decidable p] {e : ε} (h : p) : ensure p e = .ok () := if_pos h

@[simp] theorem ok_bind {a : α} {f : α → Except ε β} : (Except.ok a >>= f) = f a := rfl

@[simp high] theorem ensure_bind_eq_ok {p : Prop} [Decidable p] {e : ε}
    {f : Unit → Except ε β} {b : β} : (ensure p e >>= f) = .ok b ↔ p ∧ f () = .ok b := by
  by_cases h : p <;> simp [ensure, h, bind, Except.bind]

@[simp] theorem require_eq_ok {x : Option α} {e : ε} {a : α} :
    require x e = .ok a ↔ x = some a := by
  cases x <;> simp [require]

theorem require_eq_error {x : Option α} {e e' : ε} :
    require x e = .error e' ↔ x = none ∧ e = e' := by
  cases x <;> simp [require]

/-- A list of calls succeeds when each of them does, with their results in order. -/
theorem mapM_eq_ok {f : α → Except ε β} {xs : List α} {ys : List β} :
    xs.mapM f = .ok ys ↔ List.Forall₂ (fun x y => f x = .ok y) xs ys := by
  induction xs generalizing ys with
  | nil => simp [pure, Except.pure, eq_comm]
  | cons x xs ih =>
      simp only [List.mapM_cons, bind_eq_ok, pure_eq_ok, List.forall₂_cons_left_iff, ih]
      constructor
      · rintro ⟨y, hy, zs, hzs, rfl⟩
        exact ⟨y, zs, hy, hzs, rfl⟩
      · rintro ⟨y, zs, hy, hzs, rfl⟩
        exact ⟨y, hy, zs, hzs, rfl⟩

theorem exists_of_forall₂ {R : α → β → Prop} {xs : List α} {ys : List β}
    (h : List.Forall₂ R xs ys) : ∀ x ∈ xs, ∃ y ∈ ys, R x y := by
  induction h with
  | nil => simp
  | cons hxy _ ih =>
      rw [List.forall_mem_cons]
      refine ⟨⟨_, List.mem_cons_self, hxy⟩, fun x hx => ?_⟩
      obtain ⟨y, hy, hrelated⟩ := ih x hx
      exact ⟨y, List.mem_cons_of_mem _ hy, hrelated⟩

/-- Every element of a checked list passed its check. -/
theorem ok_of_mapM_ok {f : α → Except ε β} {xs : List α} {ys : List β}
    (h : xs.mapM f = .ok ys) : ∀ x ∈ xs, ∃ y ∈ ys, f x = .ok y :=
  exists_of_forall₂ (mapM_eq_ok.mp h)

/-- Every result of a checked list comes from an element that passed its check. -/
theorem mem_of_mapM_ok {f : α → Except ε β} {xs : List α} {ys : List β}
    (h : xs.mapM f = .ok ys) : ∀ y ∈ ys, ∃ x ∈ xs, f x = .ok y :=
  exists_of_forall₂ (R := fun y x => f x = .ok y) (mapM_eq_ok.mp h).flip

/-- A list that was written element by element is read as what each element means. -/
theorem mapM_written_meaning {γ : Type} {write : α → β} {read : β → Option γ} {meaning : α → γ}
    {xs : List α} (h : ∀ x ∈ xs, read (write x) = some (meaning x)) :
    (xs.map write).mapM read = some (xs.map meaning) := by
  induction xs with
  | nil => rfl
  | cons x xs ih =>
      obtain ⟨hhead, htail⟩ := List.forall_mem_cons.mp h
      rw [List.map_cons, List.mapM_cons, hhead, ih htail]
      rfl

theorem mapM_written {write : α → β} {read : β → Option α} {xs : List α}
    (h : ∀ x ∈ xs, read (write x) = some x) : (xs.map write).mapM read = some xs := by
  have hread := mapM_written_meaning (γ := α) h
  rwa [List.map_id'] at hread

/-- A list of checks passes when each of them does. -/
theorem forM_eq_ok {f : α → Except ε Unit} {xs : List α} :
    xs.forM f = .ok () ↔ ∀ x ∈ xs, f x = .ok () := by
  induction xs with
  | nil => simp [pure, Except.pure]
  | cons x xs ih =>
      change (f x >>= fun _ => xs.forM f) = .ok () ↔ _
      rw [bind_eq_ok, List.forall_mem_cons, ← ih]
      constructor
      · rintro ⟨_, hfirst, hrest⟩
        exact ⟨hfirst, hrest⟩
      · rintro ⟨hfirst, hrest⟩
        exact ⟨(), hfirst, hrest⟩

@[simp] theorem throw_ne_ok {e : ε} {a : α} : (throw e : Except ε α) ≠ .ok a := by
  simp [throw, throwThe, MonadExceptOf.throw]

end PoleProtocol.Framework
