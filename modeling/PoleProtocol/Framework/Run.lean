import Mathlib

/-!
# Runs of a machine

A machine is a total function from a state and an input to the next state; a run feeds it a
list of inputs. A machine that can refuse an input stays where it is when it does. The rules
below are the only inductions over runs: what one step preserves, a run preserves, and a
property that a run establishes is established by one of its steps.
-/

namespace PoleProtocol.Framework

section Run

variable {σ ι : Type*} (next : σ → ι → σ)

/-- The state after feeding `inputs` to the machine. -/
def run (s : σ) (inputs : List ι) : σ := inputs.foldl next s

@[simp] theorem run_nil (s : σ) : run next s [] = s := rfl

@[simp] theorem run_cons (s : σ) (i : ι) (inputs : List ι) :
    run next s (i :: inputs) = run next (next s i) inputs := rfl

theorem run_append (s : σ) (first second : List ι) :
    run next s (first ++ second) = run next (run next s first) second :=
  List.foldl_append

/-- Every input of the run meets `C` in the state it is fed to. -/
def Meets (C : σ → ι → Prop) : σ → List ι → Prop
  | _, [] => True
  | s, i :: inputs => C s i ∧ Meets C (next s i) inputs

instance decidableMeets (C : σ → ι → Prop) [∀ s i, Decidable (C s i)] :
    ∀ s inputs, Decidable (Meets next C s inputs)
  | _, [] => isTrue trivial
  | s, i :: inputs =>
      have := decidableMeets C (next s i) inputs
      inferInstanceAs (Decidable (C s i ∧ Meets next C (next s i) inputs))

theorem meets_append (C : σ → ι → Prop) (s : σ) (first second : List ι) :
    Meets next C s (first ++ second) ↔
      Meets next C s first ∧ Meets next C (run next s first) second := by
  induction first generalizing s with
  | nil => simp [Meets]
  | cons i first ih => simp [Meets, ih, and_assoc]

/-- A run meets a condition when each of its steps does in the state it is taken in. -/
theorem meets_iff_steps (C : σ → ι → Prop) (s : σ) (inputs : List ι) :
    Meets next C s inputs ↔
      ∀ before i after, inputs = before ++ i :: after → C (run next s before) i := by
  induction inputs generalizing s with
  | nil => simp [Meets]
  | cons i inputs ih =>
      constructor
      · rintro ⟨hfirst, hrest⟩ before j after heq
        cases before with
        | nil =>
            obtain ⟨rfl, _⟩ := List.cons.inj heq
            exact hfirst
        | cons k before =>
            obtain ⟨rfl, htail⟩ := List.cons.inj heq
            exact (ih (next s i)).mp hrest before j after htail
      · intro hall
        refine ⟨hall [] i inputs rfl, (ih (next s i)).mpr ?_⟩
        intro before j after heq
        exact hall (i :: before) j after (by rw [heq]; rfl)

/-- Two conditions that agree in the states of an invariant that the first one keeps are met by the
same runs. -/
theorem meets_congr {I : σ → Prop} {C D : σ → ι → Prop}
    (hkeep : ∀ s i, I s → C s i → I (next s i)) (hiff : ∀ s i, I s → (C s i ↔ D s i)) {s : σ}
    (hI : I s) (inputs : List ι) : Meets next C s inputs ↔ Meets next D s inputs := by
  induction inputs generalizing s with
  | nil => exact Iff.rfl
  | cons i inputs ih =>
      have hfirst := hiff s i hI
      constructor
      · rintro ⟨hmeets, hrest⟩
        exact ⟨hfirst.mp hmeets, (ih (hkeep s i hI hmeets)).mp hrest⟩
      · rintro ⟨hmeets, hrest⟩
        have hfirstMeets := hfirst.mpr hmeets
        exact ⟨hfirstMeets, (ih (hkeep s i hI hfirstMeets)).mpr hrest⟩

/-- What `f` reads off each step of the run, in order. -/
def trail {α : Type*} (f : σ → ι → α) : σ → List ι → List α
  | _, [] => []
  | s, i :: inputs => f s i :: trail f (next s i) inputs

@[simp] theorem trail_nil {α : Type*} (f : σ → ι → α) (s : σ) : trail next f s [] = [] := rfl

@[simp] theorem trail_cons {α : Type*} (f : σ → ι → α) (s : σ) (i : ι) (inputs : List ι) :
    trail next f s (i :: inputs) = f s i :: trail next f (next s i) inputs := rfl

/-- The last value `f` finds along the run. -/
def lastRead {α : Type*} (f : σ → ι → Option α) : σ → List ι → Option α
  | _, [] => none
  | s, i :: inputs => (lastRead f (next s i) inputs).or (f s i)

theorem lastRead_concat {α : Type*} (f : σ → ι → Option α) (s : σ) (inputs : List ι) (i : ι) :
    lastRead next f s (inputs ++ [i]) =
      (f (run next s inputs) i).or (lastRead next f s inputs) := by
  induction inputs generalizing s with
  | nil => simp [lastRead]
  | cons j inputs ih => rw [List.cons_append, lastRead, ih, lastRead, run_cons, Option.or_assoc]

variable {next}

/-- What every admissible step preserves, every admissible run preserves. -/
theorem run_invariant {C : σ → ι → Prop} {P : σ → Prop}
    (hstep : ∀ s i, C s i → P s → P (next s i)) {s : σ} {inputs : List ι}
    (hmeets : Meets next C s inputs) (h : P s) : P (run next s inputs) := by
  induction inputs generalizing s with
  | nil => exact h
  | cons i inputs ih => exact ih hmeets.2 (hstep s i hmeets.1 h)

/-- What every step preserves, every run preserves. -/
theorem run_preserves {P : σ → Prop} (hstep : ∀ s i, P s → P (next s i)) {s : σ} (inputs : List ι)
    (h : P s) : P (run next s inputs) := by
  induction inputs generalizing s with
  | nil => exact h
  | cons i inputs ih => exact ih (hstep s i h)

/-- What an invariant and a condition make of each step, a run that meets the condition makes of
all of its steps. -/
theorem meets_of_invariant {I : σ → Prop} {C Q : σ → ι → Prop}
    (hstep : ∀ s i, I s → C s i → I (next s i) ∧ Q s i) {s : σ} {inputs : List ι}
    (hmeets : Meets next C s inputs) (hI : I s) : Meets next Q s inputs := by
  induction inputs generalizing s with
  | nil => trivial
  | cons i inputs ih =>
      obtain ⟨hfirst, hrest⟩ := hmeets
      obtain ⟨hnext, hholds⟩ := hstep s i hI hfirst
      exact ⟨hholds, ih hrest hnext⟩

theorem Meets.mono {C Q : σ → ι → Prop} (hstep : ∀ s i, C s i → Q s i) {s : σ} {inputs : List ι}
    (hmeets : Meets next C s inputs) : Meets next Q s inputs :=
  meets_of_invariant (fun s i (_ : True) hC => ⟨trivial, hstep s i hC⟩) hmeets trivial

/-- A property holds in all states of a run when it holds at its start and in all later states. -/
theorem prefixes_cons_iff {P : σ → Prop} {s : σ} {i : ι} {inputs : List ι} :
    (∀ before after, i :: inputs = before ++ after → P (run next s before)) ↔
      P s ∧ ∀ before after, inputs = before ++ after → P (run next (next s i) before) := by
  constructor
  · intro hall
    refine ⟨hall [] (i :: inputs) rfl, ?_⟩
    intro before after heq
    exact hall (i :: before) after (by rw [heq]; rfl)
  · rintro ⟨hstart, hlater⟩ before after heq
    cases before with
    | nil => exact hstart
    | cons j before =>
        obtain ⟨rfl, htail⟩ := List.cons.inj heq
        exact hlater before after htail

/-- Where a condition on a step is exactly what keeps a property `P` of the states and makes `Q`
hold of the step, a run meets the condition if and only if `P` holds in every state it reaches and
`Q` of every step. `I` is an invariant of the runs that meet the condition, and `A` restricts the
inputs. -/
theorem meets_iff_prefixes_and_steps {A : ι → Prop} {C Q : σ → ι → Prop} {I P : σ → Prop}
    (hkeep : ∀ s i, I s → P s → C s i → I (next s i))
    (hexact : ∀ s i, A i → I s → P s → (C s i ↔ P (next s i) ∧ Q s i))
    {s : σ} (hI : I s) (hP : P s) {inputs : List ι} (hinputs : ∀ i ∈ inputs, A i) :
    Meets next C s inputs ↔
      (∀ before after, inputs = before ++ after → P (run next s before)) ∧
        Meets next Q s inputs := by
  induction inputs generalizing s with
  | nil =>
      refine iff_of_true trivial ⟨?_, trivial⟩
      intro before after heq
      rw [(List.nil_eq_append_iff.mp heq).1]
      exact hP
  | cons i inputs ih =>
      have hfirst := hexact s i (hinputs i (List.mem_cons_self ..)) hI hP
      have hrest : ∀ j ∈ inputs, A j := fun j hj => hinputs j (List.mem_cons_of_mem _ hj)
      rw [prefixes_cons_iff]
      constructor
      · rintro ⟨hmeets, hmeetsRest⟩
        obtain ⟨hnext, hstep⟩ := hfirst.mp hmeets
        obtain ⟨hlater, hsteps⟩ := (ih (hkeep s i hI hP hmeets) hnext hrest).mp hmeetsRest
        exact ⟨⟨hP, hlater⟩, hstep, hsteps⟩
      · rintro ⟨⟨_, hlater⟩, hstep, hsteps⟩
        have hnext : P (next s i) := hlater [] inputs rfl
        have hmeets : C s i := hfirst.mpr ⟨hnext, hstep⟩
        exact ⟨hmeets, (ih (hkeep s i hI hP hmeets) hnext hrest).mpr ⟨hlater, hsteps⟩⟩

/-- The same where nothing is said of the steps. -/
theorem meets_iff_prefixes_of {A : ι → Prop} {C : σ → ι → Prop} {I P : σ → Prop}
    (hkeep : ∀ s i, I s → P s → C s i → I (next s i))
    (hexact : ∀ s i, A i → I s → P s → (C s i ↔ P (next s i)))
    {s : σ} (hI : I s) (hP : P s) {inputs : List ι} (hinputs : ∀ i ∈ inputs, A i) :
    Meets next C s inputs ↔
      ∀ before after, inputs = before ++ after → P (run next s before) := by
  rw [meets_iff_prefixes_and_steps (Q := fun _ _ => True) hkeep ?_ hI hP hinputs]
  · refine and_iff_left ?_
    exact (meets_iff_steps next _ s inputs).mpr fun _ _ _ _ => trivial
  · intro s i hA hI hP
    rw [hexact s i hA hI hP, and_true]

/-- The same over all inputs and with an invariant of all runs. -/
theorem meets_iff_prefixes {C : σ → ι → Prop} {I P : σ → Prop}
    (hkeep : ∀ s i, I s → I (next s i)) (hexact : ∀ s i, I s → P s → (C s i ↔ P (next s i)))
    {s : σ} (hI : I s) (hP : P s) (inputs : List ι) :
    Meets next C s inputs ↔
      ∀ before after, inputs = before ++ after → P (run next s before) :=
  meets_iff_prefixes_of (A := fun _ => True) (fun s i hI _ _ => hkeep s i hI)
    (fun s i _ => hexact s i) hI hP fun _ _ => trivial

/-- A property that holds at the end of a run and not at its start is established by a step. -/
theorem exists_rise {P : σ → Prop} {s : σ} {inputs : List ι}
    (hstart : ¬ P s) (hend : P (run next s inputs)) :
    ∃ before i after, inputs = before ++ i :: after ∧
      ¬ P (run next s before) ∧ P (next (run next s before) i) := by
  classical
  induction inputs generalizing s with
  | nil => exact absurd hend hstart
  | cons i inputs ih =>
      by_cases hnext : P (next s i)
      · exact ⟨[], i, inputs, rfl, hstart, hnext⟩
      · obtain ⟨before, j, after, heq, hbefore, hafter⟩ := ih hnext hend
        exact ⟨i :: before, j, after, by simp [heq], hbefore, hafter⟩

end Run

/-- The property is not lost from the first state to the second. -/
def Preserves {σ : Type*} (P : σ → Prop) (s s' : σ) : Prop := P s → P s'

instance {σ : Type*} (P : σ → Prop) : Std.Refl (Preserves P) := ⟨fun _ h => h⟩

instance {σ : Type*} (P : σ → Prop) : IsTrans σ (Preserves P) :=
  ⟨fun _ _ _ hrs hst h => hst (hrs h)⟩

section Refusal

variable {σ ι ε : Type*} (step : σ → ι → Except ε σ)

/-- Feed an input to a machine that may refuse it; a refused input changes nothing. -/
def attempt (s : σ) (i : ι) : σ :=
  match step s i with
  | .ok s' => s'
  | .error _ => s

/-- The machine takes the input. -/
def Accepts (s : σ) (i : ι) : Prop := (step s i).isOk = true

instance (s : σ) (i : ι) : Decidable (Accepts step s i) :=
  inferInstanceAs (Decidable (_ = true))

/-- The input meets `C` if the machine takes it. -/
def IfAccepted (C : σ → ι → Prop) (s : σ) (i : ι) : Prop := Accepts step s i → C s i

instance (C : σ → ι → Prop) [∀ s i, Decidable (C s i)] (s : σ) (i : ι) :
    Decidable (IfAccepted step C s i) :=
  inferInstanceAs (Decidable (_ → _))

variable {step}

theorem accepts_iff {s : σ} {i : ι} : Accepts step s i ↔ ∃ s', step s i = .ok s' := by
  unfold Accepts
  cases step s i <;> simp [Except.isOk, Except.toBool]

theorem attempt_of_ok {s s' : σ} {i : ι} (h : step s i = .ok s') : attempt step s i = s' := by
  rw [attempt, h]

theorem attempt_of_error {s : σ} {i : ι} {e : ε} (h : step s i = .error e) :
    attempt step s i = s := by
  rw [attempt, h]

/-- A refused input preserves everything, so only accepted inputs have to be looked at. -/
theorem attempt_preserves {P : σ → Prop} {s : σ} {i : ι}
    (hok : ∀ s', step s i = .ok s' → P s') (h : P s) : P (attempt step s i) := by
  cases hs : step s i with
  | ok s' => rw [attempt_of_ok hs]; exact hok s' hs
  | error e => rw [attempt_of_error hs]; exact h

/-- Of an input that meets its condition if accepted, only acceptance has to be looked at. -/
theorem attempt_preserves_of {C : σ → ι → Prop} {P : σ → Prop} {s : σ} {i : ι}
    (hcond : IfAccepted step C s i) (hok : ∀ s', step s i = .ok s' → C s i → P s') (h : P s) :
    P (attempt step s i) :=
  attempt_preserves (fun s' hs' => hok s' hs' (hcond (accepts_iff.mpr ⟨s', hs'⟩))) h

/-- A condition that is exact for accepted inputs is exact for the machine. -/
theorem ifAccepted_iff {C : σ → ι → Prop} {P : σ → Prop} {s : σ} {i : ι}
    (hok : ∀ s', step s i = .ok s' → (C s i ↔ P s')) (h : P s) :
    IfAccepted step C s i ↔ P (attempt step s i) := by
  cases hs : step s i with
  | ok s' =>
      have haccepts : Accepts step s i := accepts_iff.mpr ⟨s', hs⟩
      rw [attempt_of_ok hs, ← hok s' hs]
      exact ⟨fun hcond => hcond haccepts, fun hcond _ => hcond⟩
  | error e =>
      rw [attempt_of_error hs]
      refine iff_of_true ?_ h
      intro haccepts
      obtain ⟨s', hs'⟩ := accepts_iff.mp haccepts
      rw [hs] at hs'
      cases hs'

/-- A step that establishes a property is an accepted one. -/
theorem accepted_of_rise {P : σ → Prop} {s : σ} {i : ι}
    (hbefore : ¬ P s) (hafter : P (attempt step s i)) :
    ∃ s', step s i = .ok s' ∧ P s' := by
  cases hs : step s i with
  | ok s' => exact ⟨s', rfl, by rwa [attempt_of_ok hs] at hafter⟩
  | error e => exact absurd (by rwa [attempt_of_error hs] at hafter) hbefore

end Refusal

end PoleProtocol.Framework
