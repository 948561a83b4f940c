import PoleProtocol.Framework.Run

/-!
# Mailboxes

A box holds what was put into it and was not taken yet, in the order in which it was put. A step
conserves it when what was held, followed by what is put, is what is taken, followed by what is
held afterwards: nothing is lost, doubled or overtaken. A run does so in each of its states exactly
when each of its steps does.
-/

namespace PoleProtocol.Framework

/-- What a machine holds in a box, and what each step puts into it and takes out of it. -/
structure Mailbox (σ ι α : Type*) where
  held : σ → List α
  put : σ → ι → List α
  taken : σ → ι → List α

namespace Mailbox

variable {σ ι α : Type*} (next : σ → ι → σ) (box : Mailbox σ ι α)

/-- The step neither loses nor doubles anything, and keeps the order. -/
def Conserves (s : σ) (i : ι) : Prop :=
  box.held s ++ box.put s i = box.taken s i ++ box.held (next s i)

/-- All that a run puts into the box. -/
def allPut (s : σ) (inputs : List ι) : List α := (trail next box.put s inputs).flatten

/-- All that a run takes out of the box. -/
def allTaken (s : σ) (inputs : List ι) : List α := (trail next box.taken s inputs).flatten

/-- The whole run neither loses nor doubles anything, and keeps the order. -/
def Balanced (s : σ) (inputs : List ι) : Prop :=
  box.held s ++ box.allPut next s inputs =
    box.allTaken next s inputs ++ box.held (run next s inputs)

variable {next box}

theorem balanced_nil (s : σ) : box.Balanced next s [] := by
  simp [Balanced, allPut, allTaken]

/-- A run whose first step conserves the box is balanced exactly when its rest is. -/
theorem balanced_cons_iff {s : σ} {i : ι} (inputs : List ι) (h : box.Conserves next s i) :
    box.Balanced next s (i :: inputs) ↔ box.Balanced next (next s i) inputs := by
  unfold Balanced allPut allTaken
  rw [trail_cons, trail_cons, List.flatten_cons, List.flatten_cons, run_cons, ← List.append_assoc,
    h, List.append_assoc, List.append_assoc, List.append_cancel_left_eq]

theorem balanced_singleton_iff {s : σ} {i : ι} :
    box.Balanced next s [i] ↔ box.Conserves next s i := by
  simp [Balanced, Conserves, allPut, allTaken]

/-- A run of steps that conserve the box is balanced. -/
theorem balanced_of_meets {s : σ} {inputs : List ι}
    (hmeets : Meets next (box.Conserves next) s inputs) : box.Balanced next s inputs := by
  induction inputs generalizing s with
  | nil => exact balanced_nil s
  | cons i inputs ih => exact (balanced_cons_iff inputs hmeets.1).mpr (ih hmeets.2)

/-- The run is balanced in each of its states exactly when each of its steps conserves the box. -/
theorem meets_conserves_iff (s : σ) (inputs : List ι) :
    Meets next (box.Conserves next) s inputs ↔
      ∀ before after, inputs = before ++ after → box.Balanced next s before := by
  constructor
  · rintro hmeets before after rfl
    exact balanced_of_meets ((meets_append next _ s before after).mp hmeets).1
  · intro hall
    induction inputs generalizing s with
    | nil => trivial
    | cons i inputs ih =>
        have hfirst : box.Conserves next s i :=
          balanced_singleton_iff.mp (hall [i] inputs rfl)
        refine ⟨hfirst, ih (next s i) ?_⟩
        intro before after heq
        exact (balanced_cons_iff before hfirst).mp (hall (i :: before) after (by rw [heq]; rfl))

/-- A balanced run that leaves the box empty took out all that was there and all that it put in. -/
theorem allTaken_of_emptied {s : σ} {inputs : List ι} (h : box.Balanced next s inputs)
    (hempty : box.held (run next s inputs) = []) :
    box.allTaken next s inputs = box.held s ++ box.allPut next s inputs := by
  unfold Balanced at h
  rw [h, hempty, List.append_nil]

end Mailbox

end PoleProtocol.Framework
