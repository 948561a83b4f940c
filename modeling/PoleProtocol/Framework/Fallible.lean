import PoleProtocol.Framework.Checks

/-!
# Calls that mutate their state before they fail

A call works on a state in place. It can refuse with an error after it has changed the state, and
then the change stays; it can also panic. The carrier is the state monad with errors of the
standard library, whose errors keep the state. The rules read a finished call backwards, bound
what a call does to its state whatever its outcome, account for a measured quantity along a
successful call, and compare two calls that differ in when they panic.
-/

namespace PoleProtocol.Framework

/-- Why a call stopped: it returned an error, or it panicked. -/
inductive Failure (ε : Type) where
  | refused (error : ε)
  | panic
  deriving DecidableEq

/-- A computation without access to the state. -/
abbrev Attempt (ε : Type) := Except (Failure ε)

/-- A call that works on a state of type `σ`. -/
abbrev Action (σ ε : Type) := EStateM (Failure ε) σ

variable {σ ε α β : Type}

def Action.lift (x : Attempt ε α) : Action σ ε α := fun s =>
  match x with
  | .ok a => .ok a s
  | .error e => .error e s

instance : MonadLift (Attempt ε) (Action σ ε) := ⟨Action.lift⟩

/-- Return the errors of a call as errors of its caller. -/
def Action.mapError {ε' : Type} (h : ε → ε') (x : Action σ ε α) : Action σ ε' α := fun s =>
  match x.run s with
  | .ok a s' => .ok a s'
  | .error (.refused e) s' => .error (.refused (h e)) s'
  | .error .panic s' => .error .panic s'

/-- Borrow a part of the state: compute its new value from the state, and write it back. -/
def Action.update (read : σ → Attempt ε α) (write : σ → α → σ) : Action σ ε Unit := fun s =>
  match read s with
  | .ok a => .ok () (write s a)
  | .error e => .error e s

/-- A computation that does not refuse. -/
def Attempt.Willing (z : Attempt ε α) : Prop := ∀ error, z ≠ .error (.refused error)

theorem Attempt.willing_pure (a : α) : Attempt.Willing (pure a : Attempt ε α) := by
  intro error h
  cases h

theorem Attempt.Willing.bind {z : Attempt ε α} {f : α → Attempt ε β} (hz : z.Willing)
    (hf : ∀ a, (f a).Willing) : Attempt.Willing (z >>= f) := by
  intro error h
  rcases bind_eq_error.mp h with hrefused | ⟨a, _, hrest⟩
  · exact hz error hrefused
  · exact hf a error hrest

/-- A loop none of whose turns refuses does not refuse. -/
theorem Attempt.Willing.foldlM {ι : Type} {body : α → ι → Attempt ε α}
    (hbody : ∀ a i, (body a i).Willing) (items : List ι) (a : α) :
    Attempt.Willing (items.foldlM body a) := by
  induction items generalizing a with
  | nil => exact willing_pure a
  | cons i items ih =>
      rw [List.foldlM_cons]
      exact (hbody a i).bind ih

/-- Every reason the computation is refused for satisfies `p`. -/
def Attempt.RefusesOnly (p : ε → Prop) (z : Attempt ε α) : Prop :=
  ∀ error, z = .error (.refused error) → p error

section RefusesOnly

variable {p : ε → Prop}

theorem Attempt.Willing.refusesOnly {z : Attempt ε α} (hz : z.Willing) : z.RefusesOnly p :=
  fun error hrefused => absurd hrefused (hz error)

theorem Attempt.RefusesOnly.bind {z : Attempt ε α} {f : α → Attempt ε β} (hz : z.RefusesOnly p)
    (hf : ∀ a, z = .ok a → (f a).RefusesOnly p) : Attempt.RefusesOnly p (z >>= f) := by
  intro error h
  rcases bind_eq_error.mp h with hrefused | ⟨a, hok, hrest⟩
  · exact hz error hrefused
  · exact hf a hok error hrest

theorem Attempt.refusesOnly_ensure {c : Prop} [Decidable c] {reason : ε} (h : ¬ c → p reason) :
    Attempt.RefusesOnly p (ensure c (.refused reason)) := by
  intro error hrefused
  obtain ⟨hfails, hreason⟩ := ensure_eq_error.mp hrefused
  cases hreason
  exact h hfails

theorem Attempt.refusesOnly_require {o : Option α} {reason : ε} (h : o = none → p reason) :
    Attempt.RefusesOnly p (require o (.refused reason)) := by
  intro error hrefused
  obtain ⟨hmissing, hreason⟩ := require_eq_error.mp hrefused
  cases hreason
  exact h hmissing

end RefusesOnly

/-- A check before a computation that does not refuse refuses when the check fails. -/
theorem Attempt.guard_refused {p : Prop} [Decidable p] {reason : ε} {rest : Attempt ε α}
    (hrest : rest.Willing) :
    (∃ error, (do ensure p (.refused reason); rest : Attempt ε α) = .error (.refused error)) ↔
      ¬ p := by
  constructor
  · rintro ⟨error, hrefused⟩
    rcases bind_eq_error.mp hrefused with hcheck | ⟨_, _, hlater⟩
    · exact (ensure_eq_error.mp hcheck).1
    · exact absurd hlater (hrest error)
  · intro hfails
    exact ⟨reason, bind_eq_error.mpr (.inl (ensure_eq_error.mpr ⟨hfails, rfl⟩))⟩

namespace Action

variable {x y : Action σ ε α} {f g : α → Action σ ε β} {s s' : σ} {e : Failure ε}

/-! ## Reading a finished call backwards -/

theorem bind_ok {b : β} :
    (x >>= f).run s = .ok b s' ↔ ∃ a t, x.run s = .ok a t ∧ (f a).run t = .ok b s' := by
  rw [EStateM.run_bind]
  cases x.run s <;> simp

theorem bind_error : (x >>= f).run s = .error e s' ↔
    x.run s = .error e s' ∨ ∃ a t, x.run s = .ok a t ∧ (f a).run t = .error e s' := by
  rw [EStateM.run_bind]
  cases x.run s <;> simp

/-- A call that reads the state works with the state it is called in. -/
theorem get_bind {f : σ → Action σ ε β} : (get >>= f).run s = (f s).run s := by
  rw [EStateM.run_bind]
  rfl

theorem modify_bind {h : σ → σ} {f : PUnit → Action σ ε β} :
    (modify h >>= f).run s = (f ⟨⟩).run (h s) := by
  rw [EStateM.run_bind]
  rfl

theorem lift_ok {z : Attempt ε α} {a : α} :
    (liftM z : Action σ ε α).run s = .ok a s' ↔ z = .ok a ∧ s = s' := by
  cases z <;> simp [liftM, monadLift, MonadLift.monadLift, Action.lift, EStateM.run]

theorem lift_error {z : Attempt ε α} :
    (liftM z : Action σ ε α).run s = .error e s' ↔ z = .error e ∧ s = s' := by
  cases z <;> simp [liftM, monadLift, MonadLift.monadLift, Action.lift, EStateM.run]

theorem pure_ok {a b : α} :
    (pure a : Action σ ε α).run s = .ok b s' ↔ a = b ∧ s' = s := by
  simp [pure, EStateM.pure, EStateM.run, eq_comm]

theorem update_ok {read : σ → Attempt ε α} {write : σ → α → σ} {u : Unit} :
    (update read write).run s = .ok u s' ↔ ∃ a, read s = .ok a ∧ s' = write s a := by
  simp only [update, EStateM.run]
  cases read s <;> simp [eq_comm]

theorem update_error {read : σ → Attempt ε α} {write : σ → α → σ} :
    (update read write).run s = .error e s' ↔ read s = .error e ∧ s' = s := by
  simp only [update, EStateM.run]
  cases read s <;> simp [eq_comm]

/-- A call that goes on after a check passed it. -/
theorem lift_bind_ok {z : Attempt ε α} {b : β} :
    (liftM z >>= f).run s = .ok b s' ↔ ∃ a, z = .ok a ∧ (f a).run s = .ok b s' := by
  rw [bind_ok]
  simp only [lift_ok]
  constructor
  · rintro ⟨a, _, ⟨hz, rfl⟩, hrest⟩
    exact ⟨a, hz, hrest⟩
  · rintro ⟨a, hz, hrest⟩
    exact ⟨a, s, ⟨hz, rfl⟩, hrest⟩

/-- A call fails at its check or after it. -/
theorem lift_bind_error {z : Attempt ε α} : (liftM z >>= f).run s = .error e s' ↔
    z = .error e ∧ s' = s ∨ ∃ a, z = .ok a ∧ (f a).run s = .error e s' := by
  rw [bind_error]
  simp only [lift_error, lift_ok]
  constructor
  · rintro (⟨hz, rfl⟩ | ⟨a, _, ⟨hz, rfl⟩, hrest⟩)
    · exact .inl ⟨hz, rfl⟩
    · exact .inr ⟨a, hz, hrest⟩
  · rintro (⟨hz, rfl⟩ | ⟨a, hz, hrest⟩)
    · exact .inl ⟨hz, rfl⟩
    · exact .inr ⟨a, s, ⟨hz, rfl⟩, hrest⟩

/-! ## What a call does to its state, whatever its outcome -/

/-- The state a call leaves behind. -/
def finish (x : Action σ ε α) (s : σ) : σ :=
  match x.run s with
  | .ok _ s' => s'
  | .error _ s' => s'

/-- The call returns normally. -/
def succeeds (x : Action σ ε α) (s : σ) : Bool :=
  match x.run s with
  | .ok _ _ => true
  | .error _ _ => false

theorem ok_of_succeeds {x : Action σ ε Unit} (h : x.succeeds s = true) :
    x.run s = .ok () (x.finish s) := by
  unfold succeeds at h
  unfold finish
  cases hrun : x.run s with
  | ok a t => rfl
  | error e t =>
      rw [hrun] at h
      cases h

/-- Why the call stopped, if it did. -/
def stopped (x : Action σ ε α) (s : σ) : Option (Failure ε) :=
  match x.run s with
  | .ok _ _ => none
  | .error e _ => some e

theorem error_of_stopped (h : x.stopped s = some e) : x.run s = .error e (x.finish s) := by
  unfold stopped at h
  unfold finish
  cases hrun : x.run s with
  | ok a t =>
      rw [hrun] at h
      cases h
  | error e' t =>
      rw [hrun] at h
      cases h
      rfl

/-- The state before the call is related to the state it leaves behind. -/
def Keeps (R : σ → σ → Prop) (x : Action σ ε α) : Prop := ∀ s, R s (x.finish s)

theorem finish_of_ok {a : α} (h : x.run s = .ok a s') : x.finish s = s' := by
  rw [finish, h]

theorem finish_of_error (h : x.run s = .error e s') : x.finish s = s' := by
  rw [finish, h]

theorem finish_bind : (x >>= f).finish s =
    match x.run s with
    | .ok a t => (f a).finish t
    | .error _ t => t := by
  unfold finish
  rw [EStateM.run_bind]
  cases x.run s <;> rfl

section Keeps

variable {R : σ → σ → Prop} [Std.Refl R] [IsTrans σ R]

omit [Std.Refl R] in
theorem Keeps.bind (hx : Keeps R x)
    (hf : ∀ a, Keeps R (f a)) : Keeps R (x >>= f) := by
  intro s
  rw [finish_bind]
  have hfirst := hx s
  unfold finish at hfirst
  cases hrun : x.run s with
  | ok a t =>
      rw [hrun] at hfirst
      exact IsTrans.trans _ _ _ hfirst (hf a t)
  | error e t =>
      rw [hrun] at hfirst
      exact hfirst

omit [IsTrans σ R] in
theorem keeps_pure (a : α) : Keeps R (pure a : Action σ ε α) := Std.Refl.refl

omit [IsTrans σ R] in
theorem keeps_get : Keeps R (get : Action σ ε σ) := Std.Refl.refl

omit [IsTrans σ R] in
theorem keeps_lift (z : Attempt ε α) : Keeps R (liftM z : Action σ ε α) := by
  intro s
  cases z <;> exact Std.Refl.refl s

omit [Std.Refl R] [IsTrans σ R] in
theorem keeps_modify {h : σ → σ} (hstep : ∀ s, R s (h s)) :
    Keeps R (modify h : Action σ ε PUnit) := hstep

omit [IsTrans σ R] in
theorem keeps_update {read : σ → Attempt ε α} {write : σ → α → σ}
    (hstep : ∀ s a, read s = .ok a → R s (write s a)) : Keeps R (update read write) := by
  intro s
  cases hread : read s with
  | ok a =>
      rw [finish_of_ok (a := ()) (update_ok.mpr ⟨a, hread, rfl⟩)]
      exact hstep s a hread
  | error e =>
      rw [finish_of_error (update_error.mpr ⟨hread, rfl⟩)]
      exact Std.Refl.refl s

/-- What every turn of a loop keeps, the loop keeps. -/
theorem Keeps.forM {ι : Type} {body : ι → Action σ ε PUnit} (hbody : ∀ i, Keeps R (body i))
    (items : List ι) : Keeps R (items.forM body) := by
  induction items with
  | nil => exact keeps_pure _
  | cons i items ih => exact (hbody i).bind fun _ => ih

end Keeps

/-! ## Calls that refuse without a trace -/

/-- A call in state `s` that refuses has changed nothing. -/
def Atomic (x : Action σ ε α) (s : σ) : Prop :=
  ∀ error s', x.run s = .error (.refused error) s' → s' = s

/-- A call in state `s` does not refuse. -/
def Willing (x : Action σ ε α) (s : σ) : Prop :=
  ∀ error s', x.run s ≠ .error (.refused error) s'

theorem Atomic.of_willing (h : Willing x s) : Atomic x s := by
  intro error s' hrun
  exact absurd hrun (h error s')

theorem willing_pure (a : α) : Willing (pure a : Action σ ε α) s := by
  intro error s' h
  cases h

theorem Willing.after_modify {h : σ → σ} {f : PUnit → Action σ ε β} (hf : Willing (f ⟨⟩) (h s)) :
    Willing (modify h >>= f) s := hf

theorem Willing.after_lift {z : Attempt ε α} (hz : z.Willing)
    (hf : ∀ a, z = .ok a → Willing (f a) s) : Willing (liftM z >>= f) s := by
  intro error s' h
  rcases lift_bind_error.mp h with ⟨hrefused, _⟩ | ⟨a, hok, hrest⟩
  · exact hz error hrefused
  · exact hf a hok error s' hrest

theorem Willing.bind (hx : Willing x s) (hf : ∀ a t, x.run s = .ok a t → Willing (f a) t) :
    Willing (x >>= f) s := by
  intro error s' h
  rcases bind_error.mp h with hrefused | ⟨a, t, hok, hrest⟩
  · exact hx error s' hrefused
  · exact hf a t hok error s' hrest

theorem Atomic.after_lift {z : Attempt ε α} (hf : ∀ a, z = .ok a → Atomic (f a) s) :
    Atomic (liftM z >>= f) s := by
  intro error s' h
  rcases lift_bind_error.mp h with ⟨_, hsame⟩ | ⟨a, hok, hrest⟩
  · exact hsame
  · exact hf a hok error s' hrest

theorem Atomic.after_get {f : σ → Action σ ε β} (hf : Atomic (f s) s) : Atomic (get >>= f) s := hf

/-- After its first write a call must not refuse any more. -/
theorem Atomic.bind (hx : Atomic x s) (hf : ∀ a t, x.run s = .ok a t → Willing (f a) t) :
    Atomic (x >>= f) s := by
  intro error s' h
  rcases bind_error.mp h with hrefused | ⟨a, t, hok, hrest⟩
  · exact hx error s' hrefused
  · exact absurd hrest (hf a t hok error s')

theorem atomic_update (read : σ → Attempt ε α) (write : σ → α → σ) (s : σ) :
    Atomic (update read write) s := by
  intro error s' h
  exact (update_error.mp h).2

/-- A call in state `s` refuses. -/
def Refuses (x : Action σ ε α) (s : σ) : Prop := ∃ error s', x.run s = .error (.refused error) s'

theorem refuses_pure (a : α) : Refuses (pure a : Action σ ε α) s ↔ False := by
  constructor
  · rintro ⟨error, s', h⟩
    cases h
  · exact False.elim

theorem refuses_modify_bind {h : σ → σ} {f : PUnit → Action σ ε β} :
    Refuses (modify h >>= f) s ↔ Refuses (f ⟨⟩) (h s) := Iff.rfl

theorem refuses_get_bind {f : σ → Action σ ε β} : Refuses (get >>= f) s ↔ Refuses (f s) s := Iff.rfl

theorem refuses_lift_bind {z : Attempt ε α} : Refuses (liftM z >>= f) s ↔
    (∃ error, z = .error (.refused error)) ∨ ∃ a, z = .ok a ∧ Refuses (f a) s := by
  constructor
  · rintro ⟨error, s', h⟩
    rcases lift_bind_error.mp h with ⟨hz, _⟩ | ⟨a, hz, hrest⟩
    · exact .inl ⟨error, hz⟩
    · exact .inr ⟨a, hz, error, s', hrest⟩
  · rintro (⟨error, hz⟩ | ⟨a, hz, error, s', hrest⟩)
    · exact ⟨error, s, lift_bind_error.mpr (.inl ⟨hz, rfl⟩)⟩
    · exact ⟨error, s', lift_bind_error.mpr (.inr ⟨a, hz, hrest⟩)⟩

theorem refuses_bind : Refuses (x >>= f) s ↔
    Refuses x s ∨ ∃ a t, x.run s = .ok a t ∧ Refuses (f a) t := by
  constructor
  · rintro ⟨error, s', h⟩
    rcases bind_error.mp h with hx | ⟨a, t, hx, hrest⟩
    · exact .inl ⟨error, s', hx⟩
    · exact .inr ⟨a, t, hx, error, s', hrest⟩
  · rintro (⟨error, s', hx⟩ | ⟨a, t, hx, error, s', hrest⟩)
    · exact ⟨error, s', bind_error.mpr (.inl hx)⟩
    · exact ⟨error, s', bind_error.mpr (.inr ⟨a, t, hx, hrest⟩)⟩

/-- A call whose first part went through refuses when the rest does. -/
theorem refuses_bind_of_ok {a : α} (h : x.run s = .ok a s') :
    Refuses (x >>= f) s ↔ Refuses (f a) s' := by
  unfold Refuses
  rw [EStateM.run_bind, h]

theorem not_refuses_of_ok {a : α} (h : x.run s = .ok a s') : ¬ Refuses x s := by
  rintro ⟨error, t, hrefused⟩
  rw [h] at hrefused
  cases hrefused

/-- A call whose later parts do not refuse refuses at its first part. -/
theorem refuses_bind_of_willing (hf : ∀ a t, x.run s = .ok a t → ¬ Refuses (f a) t) :
    Refuses (x >>= f) s ↔ Refuses x s := by
  rw [refuses_bind]
  refine or_iff_left ?_
  rintro ⟨a, t, hok, hrefuses⟩
  exact hf a t hok hrefuses

theorem refuses_update {read : σ → Attempt ε α} {write : σ → α → σ} :
    Refuses (update read write) s ↔ ∃ error, read s = .error (.refused error) := by
  constructor
  · rintro ⟨error, s', h⟩
    exact ⟨error, (update_error.mp h).1⟩
  · rintro ⟨error, h⟩
    exact ⟨error, s, update_error.mpr ⟨h, rfl⟩⟩

/-- A call in state `s` refuses after it has changed the state. -/
def Strays (x : Action σ ε α) (s : σ) : Prop :=
  ∃ error s', x.run s = .error (.refused error) s' ∧ s' ≠ s

theorem atomic_iff_not_strays : Atomic x s ↔ ¬ Strays x s := by
  unfold Atomic Strays
  push Not
  rfl

theorem strays_get_bind {f : σ → Action σ ε β} : Strays (get >>= f) s ↔ Strays (f s) s := Iff.rfl

theorem strays_lift_bind {z : Attempt ε α} :
    Strays (liftM z >>= f) s ↔ ∃ a, z = .ok a ∧ Strays (f a) s := by
  constructor
  · rintro ⟨error, s', h, hne⟩
    rcases lift_bind_error.mp h with ⟨_, hsame⟩ | ⟨a, hz, hrest⟩
    · exact absurd hsame hne
    · exact ⟨a, hz, error, s', hrest, hne⟩
  · rintro ⟨a, hz, error, s', hrest, hne⟩
    exact ⟨error, s', lift_bind_error.mpr (.inr ⟨a, hz, hrest⟩), hne⟩

/-- A call whose first part leaves a trace strays when a later part refuses. -/
theorem strays_bind_of_trace (hx : Atomic x s)
    (htrace : ∀ a t, x.run s = .ok a t → (f a).finish t ≠ s) :
    Strays (x >>= f) s ↔ ∃ a t, x.run s = .ok a t ∧ Refuses (f a) t := by
  constructor
  · rintro ⟨error, s', h, hne⟩
    rcases bind_error.mp h with hrefused | ⟨a, t, hok, hrest⟩
    · exact absurd (hx error s' hrefused) hne
    · exact ⟨a, t, hok, error, s', hrest⟩
  · rintro ⟨a, t, hok, error, s', hrest⟩
    refine ⟨error, s', bind_error.mpr (.inr ⟨a, t, hok, hrest⟩), ?_⟩
    have hne := htrace a t hok
    rwa [finish_of_error hrest] at hne

/-- The two states agree on a part. -/
def SameField {τ : Type} (field : σ → τ) (s s' : σ) : Prop := field s' = field s

instance {τ : Type} (field : σ → τ) : Std.Refl (SameField field) := ⟨fun _ => rfl⟩

instance {τ : Type} (field : σ → τ) : IsTrans σ (SameField field) :=
  ⟨fun _ _ _ hrs hst => hst.trans hrs⟩

/-- A part that differs stays different when nothing touches it any more. -/
theorem Keeps.finish_ne {τ : Type} {field : σ → τ} (hx : Keeps (SameField field) x)
    (hne : field s' ≠ field s) : x.finish s' ≠ s := by
  intro heq
  have hkept := hx s'
  rw [heq] at hkept
  exact hne hkept.symm

/-- A call that writes into a part and goes on without it strays when the rest refuses. -/
theorem strays_modify_bind {τ : Type} {field : σ → τ} {h : σ → σ} {f : PUnit → Action σ ε β}
    (hf : Keeps (SameField field) (f ⟨⟩)) (hne : field (h s) ≠ field s) :
    Strays (modify h >>= f) s ↔ Refuses (f ⟨⟩) (h s) := by
  constructor
  · rintro ⟨error, s', hrun, _⟩
    exact ⟨error, s', hrun⟩
  · rintro ⟨error, s', hrun⟩
    have htrace := hf.finish_ne hne
    rw [finish_of_error hrun] at htrace
    exact ⟨error, s', hrun, htrace⟩

/-! ## Calls that return -/

/-- The call returns in state `s'`, with a result or with a refusal. -/
def Returns (x : Action σ ε α) (s s' : σ) : Prop :=
  (∃ a, x.run s = .ok a s') ∨ ∃ error, x.run s = .error (.refused error) s'

/-- Every reason the call is refused for, in the given state, satisfies `p`. -/
def RefusesOnly (p : ε → Prop) (x : Action σ ε α) (s : σ) : Prop :=
  ∀ error s', x.run s = .error (.refused error) s' → p error

section RefusesOnly

variable {p : ε → Prop}

theorem refusesOnly_pure {a : α} : RefusesOnly p (pure a : Action σ ε α) s := by
  intro error s' h
  cases h

theorem RefusesOnly.after_get {f : σ → Action σ ε β} (hf : RefusesOnly p (f s) s) :
    RefusesOnly p (get >>= f) s := hf

theorem RefusesOnly.after_modify {h : σ → σ} {f : PUnit → Action σ ε β}
    (hf : RefusesOnly p (f ⟨⟩) (h s)) : RefusesOnly p (modify h >>= f) s := hf

theorem RefusesOnly.bind (hx : RefusesOnly p x s)
    (hf : ∀ a t, x.run s = .ok a t → RefusesOnly p (f a) t) : RefusesOnly p (x >>= f) s := by
  intro error s' h
  rcases bind_error.mp h with hrefused | ⟨a, t, hok, hrest⟩
  · exact hx error s' hrefused
  · exact hf a t hok error s' hrest

theorem RefusesOnly.after_lift {z : Attempt ε α} (hz : z.RefusesOnly p)
    (hf : ∀ a, z = .ok a → RefusesOnly p (f a) s) : RefusesOnly p (liftM z >>= f) s := by
  intro error s' h
  rcases lift_bind_error.mp h with ⟨hrefused, _⟩ | ⟨a, hok, hrest⟩
  · exact hz error hrefused
  · exact hf a hok error s' hrest

theorem refusesOnly_update {read : σ → Attempt ε α} {write : σ → α → σ}
    (hread : (read s).RefusesOnly p) : RefusesOnly p (update read write) s :=
  fun error _ h => hread error (update_error.mp h).1

end RefusesOnly

/-- What a call keeps, it keeps when it returns. -/
theorem Keeps.of_returns {R : σ → σ → Prop} (hx : Keeps R x) (h : Returns x s s') : R s s' := by
  have hkept := hx s
  rcases h with ⟨_, hok⟩ | ⟨_, hrefused⟩
  · rwa [finish_of_ok hok] at hkept
  · rwa [finish_of_error hrefused] at hkept

/-- The state after a call. A panic stops the program, so that nobody sees what the call did. -/
def after (x : Action σ ε α) (s : σ) : σ :=
  match x.run s with
  | .ok _ t => t
  | .error (.refused _) t => t
  | .error .panic _ => s

theorem returns_after (x : Action σ ε α) (s : σ) : Returns x s (x.after s) ∨ x.after s = s := by
  unfold after Returns
  cases hrun : x.run s with
  | ok a t => exact .inl (.inl ⟨a, rfl⟩)
  | error e t =>
      cases e with
      | refused error => exact .inl (.inr ⟨error, rfl⟩)
      | panic => exact .inr rfl

theorem Returns.bind (h : Returns (x >>= f) s s') :
    (∃ error, x.run s = .error (.refused error) s') ∨
      ∃ a t, x.run s = .ok a t ∧ Returns (f a) t s' := by
  rcases h with ⟨b, hok⟩ | ⟨error, hrefused⟩
  · obtain ⟨a, t, hx, hrest⟩ := bind_ok.mp hok
    exact .inr ⟨a, t, hx, .inl ⟨b, hrest⟩⟩
  · rcases bind_error.mp hrefused with hx | ⟨a, t, hx, hrest⟩
    · exact .inl ⟨error, hx⟩
    · exact .inr ⟨a, t, hx, .inr ⟨error, hrest⟩⟩

theorem mapError_run {ε' : Type} (h : ε → ε') (x : Action σ ε α) (s : σ) :
    (x.mapError h).run s = match x.run s with
      | .ok a t => .ok a t
      | .error (.refused e) t => .error (.refused (h e)) t
      | .error .panic t => .error .panic t := rfl

theorem mapError_ok {ε' : Type} {h : ε → ε'} {a : α} :
    (x.mapError h).run s = .ok a s' ↔ x.run s = .ok a s' := by
  rw [mapError_run]
  rcases x.run s with ⟨b, t⟩ | ⟨_ | _, t⟩ <;> simp

theorem mapError_refused {ε' : Type} {h : ε → ε'} {e' : ε'} :
    (x.mapError h).run s = .error (.refused e') s' ↔
      ∃ error, x.run s = .error (.refused error) s' ∧ h error = e' := by
  rw [mapError_run]
  rcases x.run s with ⟨b, t⟩ | ⟨_ | _, t⟩
  · simp
  · simp only [EStateM.Result.error.injEq, Failure.refused.injEq]
    constructor
    · rintro ⟨rfl, rfl⟩
      exact ⟨_, ⟨rfl, rfl⟩, rfl⟩
    · rintro ⟨_, ⟨rfl, rfl⟩, rfl⟩
      exact ⟨rfl, rfl⟩
  · simp

theorem Returns.of_mapError {ε' : Type} {h : ε → ε'} (hx : Returns (x.mapError h) s s') :
    Returns x s s' := by
  rcases hx with ⟨a, hok⟩ | ⟨_, hrefused⟩
  · exact .inl ⟨a, mapError_ok.mp hok⟩
  · obtain ⟨error, herror, _⟩ := mapError_refused.mp hrefused
    exact .inr ⟨error, herror⟩

theorem returns_pure {a : α} (h : Returns (pure a : Action σ ε α) s s') : s' = s := by
  rcases h with ⟨b, hok⟩ | ⟨error, hrefused⟩
  · cases hok
    rfl
  · cases hrefused

theorem Returns.lift_bind {z : Attempt ε α} (h : Returns (liftM z >>= f) s s') :
    (s' = s ∧ ∃ error, z = .error (.refused error)) ∨ ∃ a, z = .ok a ∧ Returns (f a) s s' := by
  rcases h.bind with ⟨error, hrefused⟩ | ⟨a, t, hok, hrest⟩
  · obtain ⟨hz, rfl⟩ := lift_error.mp hrefused
    exact .inl ⟨rfl, error, hz⟩
  · obtain ⟨hz, rfl⟩ := lift_ok.mp hok
    exact .inr ⟨a, hz, hrest⟩

theorem returns_get_bind {f : σ → Action σ ε β} :
    Returns (get >>= f) s s' ↔ Returns (f s) s s' := Iff.rfl

theorem returns_modify_bind {h : σ → σ} {f : PUnit → Action σ ε β} :
    Returns (modify h >>= f) s s' ↔ Returns (f ⟨⟩) (h s) s' := Iff.rfl

/-- A result does not show in the state. -/
theorem Returns.of_return {b : β} (h : Returns (x >>= fun _ => pure b) s s') : Returns x s s' := by
  rcases h.bind with hrefused | ⟨a, t, hok, hreturn⟩
  · exact .inr hrefused
  · obtain rfl := returns_pure hreturn
    exact .inl ⟨a, hok⟩

/-- A loop returns through the states its turns return in. -/
theorem Returns.forM {ι : Type} {R : σ → σ → Prop} [Std.Refl R] [IsTrans σ R]
    {body : ι → Action σ ε PUnit} {items : List ι}
    (hbody : ∀ i ∈ items, ∀ t t', Returns (body i) t t' → R t t')
    (h : Returns (items.forM body) s s') : R s s' := by
  induction items generalizing s with
  | nil =>
      rw [returns_pure h]
      exact Std.Refl.refl s
  | cons i items ih =>
      have hfirst := hbody i List.mem_cons_self
      have hlater := fun j hj => hbody j (List.mem_cons_of_mem i hj)
      rcases Returns.bind (f := fun _ => items.forM body) h with hrefused | ⟨u, t, hok, hrest⟩
      · exact hfirst s s' (.inr hrefused)
      · exact IsTrans.trans _ _ _ (hfirst s t (.inl ⟨u, hok⟩)) (ih hlater hrest)

theorem Returns.mapM {ι : Type} {R : σ → σ → Prop} [Std.Refl R] [IsTrans σ R]
    {body : ι → Action σ ε β} {items : List ι}
    (hbody : ∀ i ∈ items, ∀ t t', Returns (body i) t t' → R t t')
    (h : Returns (items.mapM body) s s') : R s s' := by
  induction items generalizing s with
  | nil =>
      rw [returns_pure h]
      exact Std.Refl.refl s
  | cons i items ih =>
      have hfirst := hbody i List.mem_cons_self
      have hlater := fun j hj => hbody j (List.mem_cons_of_mem i hj)
      rw [List.mapM_cons] at h
      rcases h.bind with hrefused | ⟨b, t, hok, hrest⟩
      · exact hfirst s s' (.inr hrefused)
      · refine IsTrans.trans _ _ _ (hfirst s t (.inl ⟨b, hok⟩)) ?_
        rcases hrest.bind with hrefused | ⟨bs, t', hloop, hreturn⟩
        · exact ih hlater (.inr hrefused)
        · obtain rfl := returns_pure hreturn
          exact ih hlater (.inl ⟨bs, hloop⟩)

/-- An invariant that says what is left to do holds, with nothing left, when the loop ends. -/
theorem mapM_along {ι : Type} {I : List ι → σ → Prop} {body : ι → Action σ ε β}
    (hturn : ∀ i rest t b t', I (i :: rest) t → (body i).run t = .ok b t' → I rest t')
    {items : List ι} {bs : List β} (hstart : I items s)
    (h : (items.mapM body).run s = .ok bs s') : I [] s' := by
  induction items generalizing s bs with
  | nil =>
      cases h
      exact hstart
  | cons i items ih =>
      rw [List.mapM_cons] at h
      obtain ⟨b, t, hfirst, h⟩ := bind_ok.mp h
      obtain ⟨bs', t', hloop, hreturn⟩ := bind_ok.mp h
      cases hreturn
      exact ih (hturn i items s b t hstart hfirst) hloop

/-- A loop refuses in one of its turns, with the invariant at the start of that turn. -/
theorem mapM_refused_along {ι : Type} {I : List ι → σ → Prop} {body : ι → Action σ ε β}
    (hturn : ∀ i rest t b t', I (i :: rest) t → (body i).run t = .ok b t' → I rest t')
    {items : List ι} {error : ε} (hstart : I items s)
    (h : (items.mapM body).run s = .error (.refused error) s') :
    ∃ i rest t, I (i :: rest) t ∧ (body i).run t = .error (.refused error) s' := by
  induction items generalizing s with
  | nil => cases h
  | cons i items ih =>
      rw [List.mapM_cons] at h
      rcases bind_error.mp h with hfirst | ⟨b, t, hfirst, h⟩
      · exact ⟨i, items, s, hstart, hfirst⟩
      · rcases bind_error.mp h with hloop | ⟨_, _, _, hreturn⟩
        · exact ih (hturn i items s b t hstart hfirst) hloop
        · cases hreturn

theorem forM_along {ι : Type} {I : List ι → σ → Prop} {body : ι → Action σ ε PUnit}
    (hturn : ∀ i rest t u t', I (i :: rest) t → (body i).run t = .ok u t' → I rest t')
    {items : List ι} {u : PUnit} (hstart : I items s)
    (h : (items.forM body).run s = .ok u s') : I [] s' := by
  induction items generalizing s with
  | nil =>
      cases h
      exact hstart
  | cons i items ih =>
      obtain ⟨v, t, hfirst, hloop⟩ := (bind_ok (f := fun _ => items.forM body)).mp h
      exact ih (hturn i items s v t hstart hfirst) hloop

theorem forM_refused_along {ι : Type} {I : List ι → σ → Prop} {body : ι → Action σ ε PUnit}
    (hturn : ∀ i rest t u t', I (i :: rest) t → (body i).run t = .ok u t' → I rest t')
    {items : List ι} {error : ε} (hstart : I items s)
    (h : (items.forM body).run s = .error (.refused error) s') :
    ∃ i rest t, I (i :: rest) t ∧ (body i).run t = .error (.refused error) s' := by
  induction items generalizing s with
  | nil => cases h
  | cons i items ih =>
      rcases (bind_error (f := fun _ => items.forM body)).mp h with hfirst | ⟨v, t, hfirst, hloop⟩
      · exact ⟨i, items, s, hstart, hfirst⟩
      · exact ih (hturn i items s v t hstart hfirst) hloop

theorem Returns.mapM_singleton {ι : Type} {body : ι → Action σ ε β} {i : ι}
    (h : Returns (body i) s s') : Returns ([i].mapM body) s s' := by
  rw [List.mapM_cons]
  rcases h with ⟨b, hok⟩ | ⟨error, hrefused⟩
  · exact .inl ⟨[b], bind_ok.mpr ⟨b, s', hok, rfl⟩⟩
  · exact .inr ⟨error, bind_error.mpr (.inl hrefused)⟩

theorem mapError_bind {ε' : Type} (h : ε → ε') (x : Action σ ε α) (f : α → Action σ ε β) :
    (x >>= f).mapError h = x.mapError h >>= fun a => (f a).mapError h := by
  funext s
  change ((x >>= f).mapError h).run s = (x.mapError h >>= fun a => (f a).mapError h).run s
  rw [mapError_run, EStateM.run_bind, EStateM.run_bind, mapError_run]
  rcases x.run s with ⟨a, t⟩ | ⟨_ | _, t⟩ <;> rfl

/-- Renaming the errors of every turn of a loop renames the errors of the loop. -/
theorem mapM_mapError {ι ε' : Type} (h : ε → ε') (body : ι → Action σ ε β) (items : List ι) :
    (items.mapM fun i => (body i).mapError h) = (items.mapM body).mapError h := by
  induction items with
  | nil => rfl
  | cons i items ih =>
      rw [List.mapM_cons, List.mapM_cons, mapError_bind, ih]
      refine congrArg _ (funext fun b => ?_)
      rw [mapError_bind]
      rfl

/-! ## A measured quantity along a successful call -/

/-- A successful call changes the measure by `d`. -/
def Moves (measure : σ → ℤ) (d : ℤ) (x : Action σ ε α) : Prop :=
  ∀ s a s', x.run s = .ok a s' → measure s' = measure s + d

variable {measure : σ → ℤ} {c d : ℤ}

theorem Moves.bind (hx : Moves measure c x) (hf : ∀ a, Moves measure d (f a)) :
    Moves measure (c + d) (x >>= f) := by
  intro s b s' h
  obtain ⟨a, t, hrun, hrest⟩ := bind_ok.mp h
  have hfirst := hx s a t hrun
  have hsecond := hf a t b s' hrest
  omega

/-- A part that leaves the measure alone does not count. -/
theorem Moves.bind_still (hx : Moves measure 0 x) (hf : ∀ a, Moves measure d (f a)) :
    Moves measure d (x >>= f) := by
  have h := hx.bind hf
  rwa [zero_add] at h

theorem moves_pure (a : α) : Moves measure 0 (pure a : Action σ ε α) := by
  intro s b s' h
  cases h
  exact (add_zero _).symm

theorem moves_get : Moves measure 0 (get : Action σ ε σ) := by
  intro s b s' h
  cases h
  exact (add_zero _).symm

theorem moves_lift (z : Attempt ε α) : Moves measure 0 (liftM z : Action σ ε α) := by
  intro s b s' h
  obtain ⟨_, rfl⟩ := lift_ok.mp h
  exact (add_zero _).symm

theorem moves_modify {h : σ → σ} (hstep : ∀ s, measure (h s) = measure s) :
    Moves measure 0 (modify h : Action σ ε PUnit) := by
  intro s b s' hrun
  cases hrun
  exact (hstep s).trans (add_zero _).symm

/-- A check does not count. -/
theorem Moves.after_lift {z : Attempt ε α} (hf : ∀ a, Moves measure d (f a)) :
    Moves measure d (liftM z >>= f) :=
  (moves_lift z).bind_still hf

/-- Reading the state does not count. -/
theorem Moves.after_get {f : σ → Action σ ε β} (hf : ∀ t, Moves measure d (f t)) :
    Moves measure d (get >>= f) :=
  moves_get.bind_still hf

/-- A write outside of what is measured does not count. -/
theorem Moves.after_modify {h : σ → σ} {f : PUnit → Action σ ε β}
    (hstep : ∀ s, measure (h s) = measure s) (hf : ∀ u, Moves measure d (f u)) :
    Moves measure d (modify h >>= f) :=
  (moves_modify hstep).bind_still hf

/-- Returning a value does not count. -/
theorem Moves.return (hx : Moves measure d x) (h : α → β) :
    Moves measure d (x >>= fun a => pure (h a)) := by
  have hall := hx.bind fun a => moves_pure (h a)
  rwa [add_zero] at hall

/-- A loop changes the measure by the sum over its elements. -/
theorem Moves.forM {ι : Type} {weight : ι → ℤ} {body : ι → Action σ ε PUnit}
    (hbody : ∀ i, Moves measure (weight i) (body i)) (items : List ι) :
    Moves measure (items.map weight).sum (items.forM body) := by
  induction items with
  | nil => exact moves_pure _
  | cons i items ih =>
      rw [List.map_cons, List.sum_cons]
      exact (hbody i).bind fun _ => ih

theorem Moves.mapM {ι : Type} {body : ι → Action σ ε β} (hbody : ∀ i, Moves measure 0 (body i))
    (items : List ι) : Moves measure 0 (items.mapM body) := by
  induction items with
  | nil => exact moves_pure _
  | cons i items ih =>
      rw [List.mapM_cons]
      exact (hbody i).bind_still fun b => ih.return fun bs => b :: bs

theorem moves_update {read : σ → Attempt ε α} {write : σ → α → σ}
    (hstep : ∀ s a, read s = .ok a → measure (write s a) = measure s + d) :
    Moves measure d (update read write) := by
  intro s u s' h
  obtain ⟨a, hread, rfl⟩ := update_ok.mp h
  exact hstep s a hread

/-! ## Calls that differ in when they panic -/

/-- Unless `x` panics, `y` has the same outcome. -/
def Agrees (x y : Action σ ε α) : Prop :=
  ∀ s, (∀ s', x.run s ≠ .error .panic s') → y.run s = x.run s

theorem Agrees.refl (x : Action σ ε α) : Agrees x x := fun _ _ => rfl

theorem Agrees.bind (hx : Agrees x y) (hf : ∀ a, Agrees (f a) (g a)) :
    Agrees (x >>= f) (y >>= g) := by
  intro s hcalm
  have hfirst : ∀ s', x.run s ≠ .error .panic s' := by
    intro s' hpanic
    exact hcalm s' (bind_error.mpr (.inl hpanic))
  rw [EStateM.run_bind, EStateM.run_bind, hx s hfirst]
  cases hrun : x.run s with
  | ok a t =>
      refine hf a t fun s' hpanic => hcalm s' ?_
      exact bind_error.mpr (.inr ⟨a, t, hrun, hpanic⟩)
  | error e t => rfl

/-- A call that does not stop is not a panic. -/
theorem calm_of_ok {a : α} (h : x.run s = .ok a s') : ∀ t, x.run s ≠ .error .panic t := by
  intro t hpanic
  rw [h] at hpanic
  cases hpanic

end Action

/-- Unless `x` panics, `y` has the same outcome. -/
def Attempt.Agrees (x y : Attempt ε α) : Prop := x ≠ .error .panic → y = x

theorem Attempt.Agrees.refl (x : Attempt ε α) : Attempt.Agrees x x := fun _ => rfl

theorem Attempt.Agrees.bind {x y : Attempt ε α} {f g : α → Attempt ε β}
    (hx : Attempt.Agrees x y) (hf : ∀ a, Attempt.Agrees (f a) (g a)) :
    Attempt.Agrees (x >>= f) (y >>= g) := by
  intro hcalm
  cases x with
  | ok a =>
      rw [hx (by simp)]
      exact hf a hcalm
  | error e =>
      rw [hx fun hpanic => hcalm (by rw [hpanic]; rfl)]
      rfl

theorem Attempt.Agrees.foldlM {ι : Type} {body body' : α → ι → Attempt ε α}
    (hbody : ∀ a i, Attempt.Agrees (body a i) (body' a i)) (items : List ι) (a : α) :
    Attempt.Agrees (items.foldlM body a) (items.foldlM body' a) := by
  induction items generalizing a with
  | nil => exact .refl _
  | cons i items ih =>
      rw [List.foldlM_cons, List.foldlM_cons]
      exact (hbody a i).bind ih

theorem Action.Agrees.mapM {ι : Type} {body body' : ι → Action σ ε α}
    (hbody : ∀ i, Action.Agrees (body i) (body' i)) (items : List ι) :
    Action.Agrees (items.mapM body) (items.mapM body') := by
  induction items with
  | nil => exact .refl _
  | cons i items ih =>
      rw [List.mapM_cons, List.mapM_cons]
      exact (hbody i).bind fun a => ih.bind fun rest => .refl _

theorem Action.Agrees.mapError {ε' : Type} {x y : Action σ ε α} (h : ε → ε')
    (hagrees : Action.Agrees x y) : Action.Agrees (x.mapError h) (y.mapError h) := by
  intro s hcalm
  rw [mapError_run, mapError_run, hagrees s]
  intro t hpanic
  refine hcalm t ?_
  rw [mapError_run, hpanic]

theorem Action.Agrees.update {read read' : σ → Attempt ε α} (write : σ → α → σ)
    (h : ∀ s, Attempt.Agrees (read s) (read' s)) :
    Action.Agrees (Action.update read write) (Action.update read' write) := by
  intro s hcalm
  have hread : read' s = read s := h s fun hpanic => hcalm s (update_error.mpr ⟨hpanic, rfl⟩)
  simp only [Action.update, EStateM.run, hread]

theorem Action.Agrees.lift {x y : Attempt ε α} (h : Attempt.Agrees x y) :
    Action.Agrees (liftM x : Action σ ε α) (liftM y) := by
  intro s hcalm
  rw [h fun hpanic => hcalm s (lift_error.mpr ⟨hpanic, rfl⟩)]

end PoleProtocol.Framework
