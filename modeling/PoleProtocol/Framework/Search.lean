import Mathlib

/-!
# The first hit of a search

A search returns the first element that passes a test. What it returns has a further property
exactly when every element that passes the test without it comes after one that passes it with it.
-/

namespace PoleProtocol.Framework

variable {α β : Type*}

/-- An element that passes the test stands behind, or is, one that passes it first. -/
theorem find_before {p : α → Bool} {before after : List α} {a : α} (ha : p a = true) :
    ∃ first, (before ++ a :: after).find? p = some first ∧ (first ∈ before ∨ first = a) := by
  cases hbefore : before.find? p with
  | none =>
      refine ⟨a, ?_, Or.inr rfl⟩
      rw [List.find?_append, hbefore, Option.none_or, List.find?_cons_of_pos ha]
  | some first =>
      refine ⟨first, ?_, Or.inl (List.mem_of_find?_eq_some hbefore)⟩
      rw [List.find?_append, hbefore, Option.some_or]

theorem find_has_iff {p : α → Bool} {q : α → Prop} {elements : List α} :
    (∀ a, elements.find? p = some a → q a) ↔
      ∀ before a after, elements = before ++ a :: after → p a = true → ¬ q a →
        ∃ b ∈ before, p b = true ∧ q b := by
  constructor
  · rintro hfirst before a after rfl ha hlacks
    obtain ⟨first, hfind, hwhere⟩ := @find_before α p before after a ha
    have hhas := hfirst first hfind
    rcases hwhere with hbefore | rfl
    · exact ⟨first, hbefore, List.find?_some hfind, hhas⟩
    · exact absurd hhas hlacks
  · intro hbehind a ha
    by_contra hlacks
    obtain ⟨hpass, before, after, rfl, hnone⟩ := List.find?_eq_some_iff_append.mp ha
    obtain ⟨b, hb, hpassed, -⟩ := hbehind before a after rfl hpass hlacks
    have hfails := hnone b hb
    rw [hpassed] at hfails
    cases hfails

/-- Searching for the first element that is accepted is finding it among all that are looked at. -/
theorem findSome_filter_eq {f : α → Option β} {p : β → Bool} (elements : List α) :
    elements.findSome? (fun a => (f a).filter p) = (elements.filterMap f).find? p := by
  induction elements with
  | nil => rfl
  | cons a elements ih =>
      rw [List.findSome?_cons, ih]
      cases hf : f a with
      | none => rw [List.filterMap_cons_none hf, Option.filter_none]
      | some b =>
          rw [List.filterMap_cons_some hf]
          cases hp : p b with
          | false =>
              rw [List.find?_cons_of_neg (by simp [hp]), Option.filter_some_neg (by simp [hp])]
          | true => rw [List.find?_cons_of_pos hp, Option.filter_some_pos hp]

end PoleProtocol.Framework
