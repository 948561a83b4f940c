import PoleProtocol.Framework.Fallible

/-!
# Deliveries and lost answers

A call hands items over to another party, which keeps a journal of what it was handed; an answer
can be lost on its way back. The rules account for a call that sends, retries and returns: what was
handed over are the answers that arrived and those that were lost.
-/

namespace PoleProtocol.Framework

/-- What the other party was handed, and how many of its answers were lost. -/
structure Journal (σ τ : Type) where
  delivered : σ → List τ
  lost : σ → ℕ

namespace Journal

variable {σ τ ε α β : Type} {P Q : τ → Prop} {s s' s'' : σ}

/-- Items of the kind were handed over; the answers to as many of them as counted arrived. -/
def Grows (journal : Journal σ τ) (P : τ → Prop) (count : ℕ) (s s' : σ) : Prop :=
  ∃ items lost, journal.delivered s' = journal.delivered s ++ items ∧
    journal.lost s' = journal.lost s + lost ∧ items.length = lost + count ∧ ∀ item ∈ items, P item

variable {journal : Journal σ τ}

theorem Grows.rfl : journal.Grows P 0 s s := ⟨[], 0, by simp⟩

theorem Grows.of_eq (hdelivered : journal.delivered s' = journal.delivered s)
    (hlost : journal.lost s' = journal.lost s) : journal.Grows P 0 s s' :=
  ⟨[], 0, by simp [hdelivered, hlost]⟩

theorem Grows.trans {a b : ℕ} (hfirst : journal.Grows P a s s') (hnext : journal.Grows P b s' s'') :
    journal.Grows P (a + b) s s'' := by
  obtain ⟨items, lost, hdelivered, hlost, hcount, hitems⟩ := hfirst
  obtain ⟨later, missed, hdelivered', hlost', hcount', hlater⟩ := hnext
  refine ⟨items ++ later, lost + missed, ?_, by omega, ?_, ?_⟩
  · rw [hdelivered', hdelivered, List.append_assoc]
  · rw [List.length_append]
    omega
  · exact List.forall_mem_append.mpr ⟨hitems, hlater⟩

theorem Grows.mono {count : ℕ} (h : journal.Grows P count s s') (hPQ : ∀ item, P item → Q item) :
    journal.Grows Q count s s' := by
  obtain ⟨items, lost, hdelivered, hlost, hcount, hitems⟩ := h
  exact ⟨items, lost, hdelivered, hlost, hcount, fun item hitem => hPQ item (hitems item hitem)⟩

/-- What a call that starts after some answers leaves in the journal: as many answers arrived as
its result counts, and none when it fails. -/
def Delivers (journal : Journal σ τ) (P : τ → Prop) (start : ℕ) (count : α → ℕ)
    (x : Action σ ε α) : Prop :=
  ∀ s₀ s, journal.Grows P start s₀ s →
    match x.run s with
    | .ok a s' => journal.Grows P (count a) s₀ s'
    | .error _ s' => journal.Grows P 0 s₀ s'

variable {x : Action σ ε α} {f : α → Action σ ε β} {start : ℕ} {count : α → ℕ} {total : β → ℕ}

theorem Delivers.bind (hx : journal.Delivers P start count x)
    (hf : ∀ a, journal.Delivers P (count a) total (f a)) :
    journal.Delivers P start total (x >>= f) := by
  intro s₀ s hstart
  have hfirst := hx s₀ s hstart
  rw [EStateM.run_bind]
  cases hrun : x.run s with
  | error e s' =>
      rw [hrun] at hfirst
      exact hfirst
  | ok a s' =>
      rw [hrun] at hfirst
      exact hf a s₀ s' hfirst

theorem delivers_pure {a : α} (h : count a = start) :
    journal.Delivers P start count (pure a : Action σ ε α) := by
  intro s₀ s hstart
  rw [← h] at hstart
  exact hstart

theorem delivers_lift {z : Attempt ε α} (hok : ∀ a, z = .ok a → count a = start)
    (herror : ∀ e, z = .error e → start = 0) : journal.Delivers P start count (liftM z : Action σ ε α) := by
  intro s₀ s hstart
  cases hz : z with
  | ok a =>
      rw [← hok a hz] at hstart
      exact hstart
  | error e =>
      rw [herror e hz] at hstart
      exact hstart

theorem Delivers.mono (hx : journal.Delivers P 0 count x) (hPQ : ∀ item, P item → Q item) :
    journal.Delivers Q 0 count x := by
  intro s₀ s hstart
  have hstep := hx s s Grows.rfl
  cases hrun : x.run s with
  | ok a s' =>
      rw [hrun] at hstep
      simpa using hstart.trans (hstep.mono hPQ)
  | error e s' =>
      rw [hrun] at hstep
      simpa using hstart.trans (hstep.mono hPQ)

/-- A call that the journal does not see. -/
theorem delivers_of_keeps {R : σ → σ → Prop} (hx : Action.Keeps R x)
    (hR : ∀ s s', R s s' → journal.delivered s' = journal.delivered s ∧
      journal.lost s' = journal.lost s) : journal.Delivers P 0 (fun _ => 0) x := by
  intro s₀ s hstart
  have hkept := hx s
  unfold Action.finish at hkept
  cases hrun : x.run s with
  | ok a s' =>
      rw [hrun] at hkept
      obtain ⟨hdelivered, hlost⟩ := hR s s' hkept
      exact hstart.trans (Grows.of_eq hdelivered hlost)
  | error e s' =>
      rw [hrun] at hkept
      obtain ⟨hdelivered, hlost⟩ := hR s s' hkept
      exact hstart.trans (Grows.of_eq hdelivered hlost)

end Journal

/-- A call whose refusal is a result; a panic is none. -/
def Action.caught {σ ε α : Type} (x : Action σ ε α) : Action σ ε (Except ε α) := fun s =>
  match x.run s with
  | .ok a s' => .ok (.ok a) s'
  | .error (.refused e) s' => .ok (.error e) s'
  | .error .panic s' => .error .panic s'

theorem Action.caught_run {σ ε α : Type} (x : Action σ ε α) (s : σ) : x.caught.run s =
    match x.run s with
    | .ok a s' => .ok (.ok a) s'
    | .error (.refused e) s' => .ok (.error e) s'
    | .error .panic s' => .error .panic s' := rfl

/-- The call does not panic. -/
def Action.Calm {σ ε α : Type} (x : Action σ ε α) : Prop := ∀ s s', x.run s ≠ .error .panic s'

section Calm

variable {σ ε α β : Type} {x : Action σ ε α} {f : α → Action σ ε β}

theorem Action.Calm.bind (hx : x.Calm) (hf : ∀ a, (f a).Calm) : (x >>= f).Calm := by
  intro s s' hrun
  rw [EStateM.run_bind] at hrun
  cases hfirst : x.run s with
  | ok a t =>
      rw [hfirst] at hrun
      exact hf a t s' hrun
  | error e t =>
      rw [hfirst] at hrun
      cases hrun
      exact hx s _ hfirst

theorem Action.calm_pure (a : α) : (pure a : Action σ ε α).Calm := by
  intro s s' hrun
  cases hrun

theorem Action.calm_lift {z : Attempt ε α} (hz : z ≠ .error .panic) :
    (liftM z : Action σ ε α).Calm := by
  intro s s' hrun
  exact hz (Action.lift_error.mp hrun).1

theorem Action.calm_modify (h : σ → σ) : (modify h : Action σ ε PUnit).Calm := by
  intro s s' hrun
  cases hrun

theorem Action.Calm.caught (hx : x.Calm) : x.caught.Calm := by
  intro s s' hrun
  rw [Action.caught_run] at hrun
  cases hfirst : x.run s with
  | ok a t =>
      rw [hfirst] at hrun
      cases hrun
  | error e t =>
      rw [hfirst] at hrun
      cases e with
      | refused e => cases hrun
      | panic => exact hx s t hfirst

end Calm

namespace Journal

variable {σ τ ε α : Type} {P : τ → Prop} {journal : Journal σ τ} {x : Action σ ε α}
  {count : α → ℕ}

theorem Delivers.caught (hx : journal.Delivers P 0 count x) :
    journal.Delivers P 0 (fun result => match result with | .ok a => count a | .error _ => 0)
      x.caught := by
  intro s₀ s hstart
  have hstep := hx s₀ s hstart
  rw [Action.caught_run]
  cases hrun : x.run s with
  | ok a s' =>
      rw [hrun] at hstep
      exact hstep
  | error e s' =>
      rw [hrun] at hstep
      cases e with
      | refused e => exact hstep
      | panic => exact hstep

theorem Delivers.caught_quiet (hx : journal.Delivers P 0 (fun _ => 0) x) :
    journal.Delivers P 0 (fun _ => 0) x.caught := by
  intro s₀ s hstart
  have hcaught := hx.caught s₀ s hstart
  cases hrun : x.caught.run s with
  | ok outcome s' =>
      rw [hrun] at hcaught
      cases outcome with
      | ok a => exact hcaught
      | error e => exact hcaught
  | error e s' =>
      rw [hrun] at hcaught
      exact hcaught

end Journal

end PoleProtocol.Framework
