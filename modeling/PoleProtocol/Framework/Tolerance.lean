import PoleProtocol.Framework.Fallible

/-!
# Calls whose refusals are expected, and calls that do not look at a part of their state

A caller can take some refusals for an answer and go on. A change of the state commutes with a call
that neither reads nor writes what is changed.
-/

namespace PoleProtocol.Framework

variable {σ ε α β : Type}

namespace Action

/-! ## Expected refusals -/

/-- Whether the call went through, where the caller expects some of its refusals. -/
def tolerate (expected : ε → Bool) (x : Action σ ε α) : Action σ ε Bool := fun s =>
  match x.run s with
  | .ok _ s' => .ok true s'
  | .error (.refused e) s' => if expected e then .ok false s' else .error (.refused e) s'
  | .error .panic s' => .error .panic s'

theorem tolerate_run (expected : ε → Bool) (x : Action σ ε α) (s : σ) :
    (x.tolerate expected).run s = match x.run s with
      | .ok _ t => .ok true t
      | .error (.refused e) t => if expected e then .ok false t else .error (.refused e) t
      | .error .panic t => .error .panic t := rfl

theorem tolerate_ok {expected : ε → Bool} {x : Action σ ε α} {s s' : σ} {passed : Bool} :
    (x.tolerate expected).run s = .ok passed s' ↔
      passed = true ∧ (∃ a, x.run s = .ok a s') ∨
      passed = false ∧ ∃ e, expected e = true ∧ x.run s = .error (.refused e) s' := by
  rw [tolerate_run]
  rcases x.run s with ⟨a, t⟩ | ⟨e | _, t⟩
  · constructor
    · rintro ⟨⟩
      exact .inl ⟨rfl, a, rfl⟩
    · rintro (⟨rfl, _, ⟨⟩⟩ | ⟨_, _, _, ⟨⟩⟩)
      rfl
  · by_cases he : expected e = true
    · simp only [he, if_true]
      constructor
      · rintro ⟨⟩
        exact .inr ⟨rfl, e, he, rfl⟩
      · rintro (⟨_, _, ⟨⟩⟩ | ⟨rfl, _, _, ⟨⟩⟩)
        rfl
    · simp only [he, Bool.false_eq_true, if_false]
      constructor
      · rintro ⟨⟩
      · rintro (⟨_, _, ⟨⟩⟩ | ⟨_, _, hexpected, ⟨⟩⟩)
        exact absurd hexpected he
  · constructor
    · rintro ⟨⟩
    · rintro (⟨_, _, ⟨⟩⟩ | ⟨_, _, _, ⟨⟩⟩)

section Rules

variable {expected : ε → Bool} {s s' : σ} {passed : Bool}

/-- A check whose refusals are not expected has to pass. -/
theorem tolerate_lift_bind {z : Attempt ε α} {f : α → Action σ ε β}
    (hz : z.RefusesOnly fun e => expected e = false) :
    ((liftM z >>= f).tolerate expected).run s = .ok passed s' ↔
      ∃ a, z = .ok a ∧ ((f a).tolerate expected).run s = .ok passed s' := by
  simp only [tolerate_ok, lift_bind_ok, lift_bind_error]
  constructor
  · rintro (⟨hpassed, b, a, hok, hrest⟩ | ⟨hpassed, e, he, ⟨hrefused, _⟩ | ⟨a, hok, hrest⟩⟩)
    · exact ⟨a, hok, .inl ⟨hpassed, b, hrest⟩⟩
    · rw [hz e hrefused] at he
      cases he
    · exact ⟨a, hok, .inr ⟨hpassed, e, he, hrest⟩⟩
  · rintro ⟨a, hok, ⟨hpassed, b, hrest⟩ | ⟨hpassed, e, he, hrest⟩⟩
    · exact .inl ⟨hpassed, b, a, hok, hrest⟩
    · exact .inr ⟨hpassed, e, he, .inr ⟨a, hok, hrest⟩⟩

theorem tolerate_get_bind {f : σ → Action σ ε β} :
    ((get >>= f).tolerate expected).run s = .ok passed s' ↔
      ((f s).tolerate expected).run s = .ok passed s' := Iff.rfl

/-- A check passes, or its refusal is expected and all there is. -/
theorem tolerate_ensure_bind {p : Prop} [Decidable p] {reason : ε} {f : Unit → Action σ ε β} :
    ((liftM (ensure p (.refused reason) : Attempt ε Unit) >>= f).tolerate expected).run s =
        .ok passed s' ↔
      p ∧ ((f ()).tolerate expected).run s = .ok passed s' ∨
        ¬ p ∧ expected reason = true ∧ passed = false ∧ s' = s := by
  simp only [tolerate_ok, lift_bind_ok, lift_bind_error, ensure_eq_ok, ensure_eq_error]
  constructor
  · rintro (⟨hpassed, b, _, hp, hrest⟩ |
      ⟨hpassed, e, he, ⟨⟨hfails, hreason⟩, rfl⟩ | ⟨_, hp, hrest⟩⟩)
    · exact .inl ⟨hp, .inl ⟨hpassed, b, hrest⟩⟩
    · cases hreason
      exact .inr ⟨hfails, he, hpassed, rfl⟩
    · exact .inl ⟨hp, .inr ⟨hpassed, e, he, hrest⟩⟩
  · rintro (⟨hp, ⟨hpassed, b, hrest⟩ | ⟨hpassed, e, he, hrest⟩⟩ | ⟨hfails, hreason, hpassed, rfl⟩)
    · exact .inl ⟨hpassed, b, (), hp, hrest⟩
    · exact .inr ⟨hpassed, e, he, .inr ⟨(), hp, hrest⟩⟩
    · exact .inr ⟨hpassed, reason, hreason, .inl ⟨⟨hfails, rfl⟩, rfl⟩⟩

/-- A value is there, or the refusal is expected and all there is. -/
theorem tolerate_require_bind {x : Option α} {reason : ε} {f : α → Action σ ε β} :
    ((liftM (require x (.refused reason) : Attempt ε α) >>= f).tolerate expected).run s =
        .ok passed s' ↔
      (∃ a, x = some a ∧ ((f a).tolerate expected).run s = .ok passed s') ∨
        x = none ∧ expected reason = true ∧ passed = false ∧ s' = s := by
  simp only [tolerate_ok, lift_bind_ok, lift_bind_error, require_eq_ok, require_eq_error]
  constructor
  · rintro (⟨hpassed, b, a, hx, hrest⟩ | ⟨hpassed, e, he, ⟨⟨hx, hreason⟩, rfl⟩ | ⟨a, hx, hrest⟩⟩)
    · exact .inl ⟨a, hx, .inl ⟨hpassed, b, hrest⟩⟩
    · cases hreason
      exact .inr ⟨hx, he, hpassed, rfl⟩
    · exact .inl ⟨a, hx, .inr ⟨hpassed, e, he, hrest⟩⟩
  · rintro (⟨a, hx, ⟨hpassed, b, hrest⟩ | ⟨hpassed, e, he, hrest⟩⟩ | ⟨hx, hreason, hpassed, rfl⟩)
    · exact .inl ⟨hpassed, b, a, hx, hrest⟩
    · exact .inr ⟨hpassed, e, he, .inr ⟨a, hx, hrest⟩⟩
    · exact .inr ⟨hpassed, reason, hreason, .inl ⟨⟨hx, rfl⟩, rfl⟩⟩

theorem tolerate_modify {h : σ → σ} {b : β} :
    ((modify h >>= fun _ => pure b : Action σ ε β).tolerate expected).run s = .ok passed s' ↔
      passed = true ∧ s' = h s := by
  change EStateM.Result.ok true (h s) = _ ↔ _
  constructor
  · rintro ⟨⟩
    exact ⟨rfl, rfl⟩
  · rintro ⟨rfl, rfl⟩
    rfl

/-- A call none of whose refusals is expected has to go through. -/
theorem tolerate_of_refusesOnly {x : Action σ ε α}
    (hx : RefusesOnly (fun e => expected e = false) x s) :
    (x.tolerate expected).run s = .ok passed s' ↔ passed = true ∧ ∃ a, x.run s = .ok a s' := by
  rw [tolerate_ok]
  refine or_iff_left ?_
  rintro ⟨_, e, he, hrefused⟩
  rw [hx e s' hrefused] at he
  cases he

/-- A loop is refused for what its turns are refused for. -/
theorem RefusesOnly.forM {ι : Type} {p : ε → Prop} {body : ι → Action σ ε PUnit}
    (hbody : ∀ i t, RefusesOnly p (body i) t) (items : List ι) :
    RefusesOnly p (items.forM body) s := by
  induction items generalizing s with
  | nil => exact refusesOnly_pure
  | cons i items ih => exact (hbody i s).bind fun _ _ _ => ih

end Rules

/-! ## Changes that commute with a call -/

variable {change : σ → σ}

/-- The result of a call with another state. -/
def mapResult (change : σ → σ) : EStateM.Result (Failure ε) σ α → EStateM.Result (Failure ε) σ α
  | .ok a s => .ok a (change s)
  | .error e s => .error e (change s)

/-- It does not matter whether the state is changed before the call or after it. -/
def Commutes (change : σ → σ) (x : Action σ ε α) : Prop :=
  ∀ s, x.run (change s) = mapResult change (x.run s)

theorem commutes_pure (a : α) : Commutes change (pure a : Action σ ε α) := fun _ => rfl

theorem commutes_lift (z : Attempt ε α) : Commutes change (liftM z : Action σ ε α) := by
  intro s
  cases z <;> rfl

theorem commutes_modify {h : σ → σ} (hstep : ∀ s, h (change s) = change (h s)) :
    Commutes change (modify h : Action σ ε PUnit) := by
  intro s
  change EStateM.Result.ok PUnit.unit (h (change s)) = .ok PUnit.unit (change (h s))
  rw [hstep]

theorem commutes_update {read : σ → Attempt ε α} {write : σ → α → σ}
    (hread : ∀ s, read (change s) = read s)
    (hwrite : ∀ s a, write (change s) a = change (write s a)) :
    Commutes change (update read write) := by
  intro s
  simp only [update, EStateM.run, hread]
  cases read s with
  | ok a => simp only [hwrite, mapResult]
  | error e => rfl

theorem Commutes.bind {x : Action σ ε α} {f : α → Action σ ε β} (hx : Commutes change x)
    (hf : ∀ a, Commutes change (f a)) : Commutes change (x >>= f) := by
  intro s
  rw [EStateM.run_bind, EStateM.run_bind, hx s]
  cases x.run s with
  | ok a t => exact hf a t
  | error e t => rfl

theorem Commutes.after_get {f : σ → Action σ ε β} (hread : ∀ s, f (change s) = f s)
    (hf : ∀ t, Commutes change (f t)) : Commutes change (get >>= f) := by
  intro s
  rw [get_bind, get_bind, hread]
  exact hf s s

/-- A loop commutes with what each of its turns commutes with. -/
theorem Commutes.forM {ι : Type} {body : ι → Action σ ε PUnit}
    (hbody : ∀ i, Commutes change (body i)) (items : List ι) :
    Commutes change (items.forM body) := by
  induction items with
  | nil => exact commutes_pure _
  | cons i items ih => exact (hbody i).bind fun _ => ih

/-- A changed state leads to the same success. -/
theorem Commutes.ok {x : Action σ ε α} (hx : Commutes change x) {s s' : σ} {a : α}
    (h : x.run s = .ok a s') : x.run (change s) = .ok a (change s') := by
  rw [hx s, h]
  rfl

end Action

end PoleProtocol.Framework
