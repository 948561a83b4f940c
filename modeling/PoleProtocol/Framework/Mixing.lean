import Mathlib

/-!
# Mixing loops

A loop that folds letters into a state, where a letter never merges two states and a state never
merges two letters, tells apart two words of one length that differ in one place. The machine
operations such loops are made of are one-to-one on words.
-/

namespace PoleProtocol.Framework

section Fold

variable {σ α : Type*} {step : σ → α → σ}

/-- A word leads different states to different states. -/
theorem foldl_injective (hstate : ∀ letter, Function.Injective (step · letter)) (word : List α) :
    Function.Injective (word.foldl step) := by
  induction word with
  | nil => exact fun _ _ h => h
  | cons letter word ih =>
      intro s t h
      exact hstate letter (ih h)

/-- Words of one length that agree except at one place: what stands around that place is shared. -/
theorem exists_split_of_one_change {v w : List α} (hlength : v.length = w.length)
    (hone : ∃! i : ℕ, v[i]? ≠ w[i]?) :
    ∃ front a b rest, v = front ++ a :: rest ∧ w = front ++ b :: rest ∧ a ≠ b := by
  induction v generalizing w with
  | nil =>
      obtain ⟨i, hi, -⟩ := hone
      have hnil : w = [] := List.length_eq_zero_iff.mp hlength.symm
      rw [hnil] at hi
      exact absurd rfl hi
  | cons a v ih =>
      cases w with
      | nil => cases hlength
      | cons b w =>
          have htail : v.length = w.length := Nat.succ.inj hlength
          obtain ⟨i, hi, honly⟩ := hone
          by_cases hab : a = b
          · subst hab
            have hlater : ∃! i : ℕ, v[i]? ≠ w[i]? := by
              cases i with
              | zero => exact absurd rfl hi
              | succ i =>
                  refine ⟨i, by simpa using hi, fun j hj => ?_⟩
                  exact Nat.succ.inj (honly (j + 1) (by simpa using hj))
            obtain ⟨front, x, y, rest, hv, hw, hne⟩ := ih htail hlater
            exact ⟨a :: front, x, y, rest, by rw [hv]; rfl, by rw [hw]; rfl, hne⟩
          · have hzero : 0 = i := honly 0 (by simpa using hab)
            have hsame : v = w := by
              apply List.ext_getElem?
              intro j
              by_contra hj
              have hplace : j + 1 = i := honly (j + 1) (by simpa using hj)
              omega
            exact ⟨[], a, b, v, rfl, by rw [hsame]; rfl, hab⟩

/-- A change of one letter changes the state the loop ends in. -/
theorem foldl_ne_of_one_change (hstate : ∀ letter, Function.Injective (step · letter))
    (hletter : ∀ state, Function.Injective (step state)) {v w : List α}
    (hlength : v.length = w.length) (hone : ∃! i : ℕ, v[i]? ≠ w[i]?) (s : σ) :
    v.foldl step s ≠ w.foldl step s := by
  obtain ⟨front, a, b, rest, rfl, rfl, hne⟩ := exists_split_of_one_change hlength hone
  rw [List.foldl_append, List.foldl_append]
  intro hsame
  have hafter : step (front.foldl step s) a = step (front.foldl step s) b :=
    foldl_injective hstate rest hsame
  exact hne (hletter _ hafter)

end Fold

section Words

variable {width : ℕ}

/-- Multiplication by a word that has an inverse. -/
theorem mul_injective_of_inverse {factor inverse : BitVec width}
    (h : factor * inverse = BitVec.ofNat width 1) :
    Function.Injective (fun word : BitVec width => word * factor) := by
  intro x y hxy
  have hback : x * factor * inverse = y * factor * inverse :=
    congrArg (fun word : BitVec width => word * inverse) hxy
  rw [BitVec.mul_assoc, BitVec.mul_assoc, h, BitVec.mul_one, BitVec.mul_one] at hback
  exact hback

/-- A rotation only moves bits. -/
theorem rotateLeft_injective {places : ℕ} (hplaces : places < width) :
    Function.Injective (fun word : BitVec width => word.rotateLeft places) := by
  intro x y hxy
  have hbit (j : ℕ) : (x.rotateLeft places).getLsbD j = (y.rotateLeft places).getLsbD j :=
    congrArg (fun word : BitVec width => word.getLsbD j) hxy
  simp only [BitVec.getLsbD_rotateLeft, Nat.mod_eq_of_lt hplaces, Bool.cond_decide] at hbit
  apply BitVec.eq_of_getLsbD_eq
  intro i hi
  -- The bit is read where the rotation put it: further up, or around the end.
  by_cases hup : i + places < width
  · have hmoved := hbit (i + places)
    rw [if_neg (by omega), if_neg (by omega), Nat.add_sub_cancel] at hmoved
    simpa [hup] using hmoved
  · have hmoved := hbit (i + places - width)
    rw [if_pos (by omega), if_pos (by omega),
      show width - places + (i + places - width) = i by omega] at hmoved
    exact hmoved

/-- Joined words are equal only if their parts are. -/
theorem append_injective {other : ℕ} {x x' : BitVec width} {y y' : BitVec other}
    (h : x ++ y = x' ++ y') : x = x' ∧ y = y' := by
  constructor
  · have hleft := congrArg (fun word : BitVec (width + other) => word.extractLsb' other width) h
    simpa only [BitVec.extractLsb'_append_eq_left] using hleft
  · have hright := congrArg (fun word : BitVec (width + other) => word.extractLsb' 0 other) h
    simpa only [BitVec.extractLsb'_append_eq_right] using hright

/-- A word is known from its bytes. -/
theorem eq_of_bytes_eq {count : ℕ} {x y : BitVec (8 * count)}
    (h : ∀ k < count, x.extractLsb' (8 * k) 8 = y.extractLsb' (8 * k) 8) : x = y := by
  apply BitVec.eq_of_getLsbD_eq
  intro i hi
  have hbyte := congrArg (fun byte : BitVec 8 => byte.getLsbD (i % 8)) (h (i / 8) (by omega))
  have hplace : 8 * (i / 8) + i % 8 = i := Nat.div_add_mod i 8
  have hin : i % 8 < 8 := Nat.mod_lt i (by omega)
  simpa only [BitVec.getLsbD_extractLsb', hplace, hin, decide_true, Bool.true_and] using hbyte

end Words

end PoleProtocol.Framework
