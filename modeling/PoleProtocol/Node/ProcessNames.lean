import PoleProtocol.Framework.Lexing

/-!
# Names of processes

A name is matched without white space around it, in lower case and without its `.exe`, and shown
with exactly one `.exe` at its end. The suffix is looked for four bytes before the end, which may be
inside a character: there the slice panics. Everywhere else the two forms agree with each other.
-/

namespace PoleProtocol.Node

open Framework

/-! ## The form that is matched -/

/-- The reversed text without any number of `.exe` at its front. -/
def dropExe : List Char → List Char
  | 'e' :: 'x' :: 'e' :: '.' :: reversed => dropExe reversed
  | reversed => reversed

def trimEndExe (chars : List Char) : List Char := (dropExe chars.reverse).reverse

def normalizeProcessName (processName : String) : String :=
  String.ofList (trimEndExe (lowercase (trimChars processName.toList)))

/-! ## The form that is shown -/

def exeSuffix : List Char := ['.', 'e', 'x', 'e']

/-- The trimmed name without one `.exe` in any letter case; no result is a slice that begins inside
a character. -/
def exeBase (trimmed : List Char) : Option (List Char) :=
  if 4 ≤ utf8Length trimmed then
    match splitAtByte trimmed (utf8Length trimmed - 4) with
    | none => none
    | some (front, back) => if lowercase back = exeSuffix then some front else some trimmed
  else some trimmed

def withExe (base : List Char) : String := String.ofList (base ++ exeSuffix)

def canonicalName (input : String) : Option String :=
  let trimmed := trimChars input.toList
  if trimmed = [] then some "" else (exeBase trimmed).map withExe

/-- The copy that rewards are keyed by. -/
def NodeRewards.canonicalProcessName (processName : String) : Option String :=
  canonicalName processName

/-- The copy of the game directory. -/
def SteamGameDirectory.canonicalProcessName (input : String) : Option String :=
  canonicalName input

/-- The name as it is displayed; a blank one has none. The outer option is the panic. -/
def displayProcessName (input : String) : Option (Option String) :=
  let trimmed := trimChars input.toList
  if trimmed = [] then some none else (exeBase trimmed).map fun base => some (withExe base)

/-! ## Where the slice is taken -/

/-- The trimmed name is shorter than four bytes, or a character begins four bytes before its end. -/
def SliceFits (input : String) : Prop :=
  utf8Length (trimChars input.toList) < 4 ∨
    ∃ front back, trimChars input.toList = front ++ back ∧ utf8Length back = 4

theorem exeBase_append (front : List Char) {back : List Char} (hback : utf8Length back = 4) :
    exeBase (front ++ back) =
      if lowercase back = exeSuffix then some front else some (front ++ back) := by
  have hlength : utf8Length (front ++ back) - 4 = utf8Length front := by
    rw [utf8Length_append]
    omega
  rw [exeBase, if_pos (by rw [utf8Length_append]; omega), hlength, splitAtByte_append]

/-- The base is the name, or the name without one `.exe`. -/
theorem exeBase_cases {trimmed base : List Char} (h : exeBase trimmed = some base) :
    base = trimmed ∨ ∃ back, trimmed = base ++ back ∧ lowercase back = exeSuffix := by
  unfold exeBase at h
  split at h
  · split at h
    · cases h
    · next front back hsplit =>
        split at h
        · next hexe =>
            cases h
            exact Or.inr ⟨back, (splitAtByte_sound hsplit).1, hexe⟩
        · cases h
          exact Or.inl rfl
  · cases h
    exact Or.inl rfl

theorem exeBase_isSome_iff (input : String) :
    (∃ base, exeBase (trimChars input.toList) = some base) ↔ SliceFits input := by
  constructor
  · rintro ⟨base, h⟩
    unfold exeBase at h
    split at h
    · next hlong =>
        split at h
        · cases h
        · next front back hsplit =>
            obtain ⟨hparts, hlength⟩ := splitAtByte_sound hsplit
            have htotal := utf8Length_append front back
            rw [← hparts] at htotal
            exact Or.inr ⟨front, back, hparts, by omega⟩
    · next hshort => exact Or.inl (Nat.not_le.mp hshort)
  · rintro (hshort | ⟨front, back, hparts, hback⟩)
    · exact ⟨_, if_neg (Nat.not_le.mpr hshort)⟩
    · rw [hparts, exeBase_append front hback]
      split
      · exact ⟨_, rfl⟩
      · exact ⟨_, rfl⟩

theorem sliceFits_of_blank {input : String} (h : trimChars input.toList = []) :
    SliceFits input := by
  left
  rw [h]
  decide

theorem canonicalName_of_blank {input : String} (h : trimChars input.toList = []) :
    canonicalName input = some "" := if_pos h

/-! ## The suffix -/

theorem trimEndExe_append (chars : List Char) :
    trimEndExe (chars ++ exeSuffix) = trimEndExe chars := by
  unfold trimEndExe
  rw [List.reverse_append]
  rfl

/-- White space is not an end of `base.exe` when it does not begin the base. -/
theorem trimChars_withExe {base : List Char}
    (hfirst : ∀ hne : base ≠ [], isWhitespace (base.head hne) = false) :
    trimChars (base ++ exeSuffix) = base ++ exeSuffix := by
  apply trimChars_of_ends
  · intro hne
    cases base with
    | nil => rfl
    | cons c base => exact hfirst (by simp)
  · intro hne
    have hlast : (base ++ exeSuffix).getLast hne = 'e' := by
      rw [List.getLast_append_of_ne_nil _ (by decide)]
      rfl
    rw [hlast]
    rfl

section Shown

variable {input : String} {base : List Char}

/-- What is left of a name begins as the name does. -/
theorem exeBase_head (h : exeBase (trimChars input.toList) = some base) (hne : base ≠ []) :
    isWhitespace (base.head hne) = false := by
  rcases exeBase_cases h with rfl | ⟨back, hparts, -⟩
  · exact trimChars_head hne
  · have hwhole : trimChars input.toList ≠ [] := by
      rw [hparts]
      simp [hne]
    have hhead := trimChars_head hwhole
    have hsame : (trimChars input.toList).head hwhole = base.head hne := by
      simp only [hparts]
      exact List.head_append_of_ne_nil hne
    rw [← hsame]
    exact hhead

theorem trimChars_shown (h : exeBase (trimChars input.toList) = some base) :
    trimChars (withExe base).toList = base ++ exeSuffix := by
  rw [withExe, String.toList_ofList]
  exact trimChars_withExe (exeBase_head h)

/-- The form that is shown is shown as itself. -/
theorem canonicalName_shown (h : exeBase (trimChars input.toList) = some base) :
    canonicalName (withExe base) = some (withExe base) := by
  have hexe : exeBase (base ++ exeSuffix) = some base := by
    rw [exeBase_append base (by decide), if_pos (by decide)]
  have hne : ¬ base ++ exeSuffix = [] := by simp [exeSuffix]
  simp only [canonicalName, trimChars_shown h, if_neg hne, hexe, Option.map_some]

/-- The form that is shown is matched as the name is. -/
theorem normalizeProcessName_shown (h : exeBase (trimChars input.toList) = some base) :
    normalizeProcessName (withExe base) = normalizeProcessName input := by
  have hsuffix : lowercase exeSuffix = exeSuffix := by decide
  have hshown : trimEndExe (lowercase (base ++ exeSuffix)) = trimEndExe (lowercase base) := by
    rw [lowercase_append, hsuffix, trimEndExe_append]
  rw [normalizeProcessName, normalizeProcessName, trimChars_shown h, hshown]
  rcases exeBase_cases h with hsame | ⟨back, hparts, hexe⟩
  · rw [hsame]
  · rw [hparts, lowercase_append, hexe, trimEndExe_append]

end Shown

/-! ## Any name -/

/-- No copy panics on the name, the copies agree, the name is displayed as they give it unless it is
blank, what they give they give again, and it is matched as before. -/
def HandledAlike (input : String) : Prop :=
  ∃ name, NodeRewards.canonicalProcessName input = some name ∧
    SteamGameDirectory.canonicalProcessName input = some name ∧
    (∃ shown, displayProcessName input = some shown ∧ (trim input ≠ "" → shown = some name)) ∧
    NodeRewards.canonicalProcessName name = some name ∧
    SteamGameDirectory.canonicalProcessName name = some name ∧
    normalizeProcessName name = normalizeProcessName input

theorem trim_eq_empty {input : String} (h : trimChars input.toList = []) : trim input = "" := by
  rw [trim, h]

/-- Names are handled alike exactly where the slice begins at a character. -/
theorem handledAlike_iff (input : String) : HandledAlike input ↔ SliceFits input := by
  constructor
  · rintro ⟨name, hname, -⟩
    by_cases hblank : trimChars input.toList = []
    · exact sliceFits_of_blank hblank
    · refine (exeBase_isSome_iff input).mp ?_
      simp only [NodeRewards.canonicalProcessName, canonicalName, if_neg hblank] at hname
      obtain ⟨base, hbase, -⟩ := Option.map_eq_some_iff.mp hname
      exact ⟨base, hbase⟩
  · intro hfits
    by_cases hblank : trimChars input.toList = []
    · have hname := canonicalName_of_blank hblank
      refine ⟨"", hname, hname, ⟨none, if_pos hblank, ?_⟩, by decide, by decide, ?_⟩
      · intro hvisible
        exact absurd (trim_eq_empty hblank) hvisible
      · rw [normalizeProcessName, normalizeProcessName, hblank]
        rfl
    · obtain ⟨base, hbase⟩ := (exeBase_isSome_iff input).mpr hfits
      have hname : canonicalName input = some (withExe base) := by
        simp only [canonicalName, if_neg hblank, hbase, Option.map_some]
      have hshown : displayProcessName input = some (some (withExe base)) := by
        simp only [displayProcessName, if_neg hblank, hbase, Option.map_some]
      exact ⟨withExe base, hname, hname, ⟨_, hshown, fun _ => rfl⟩, canonicalName_shown hbase,
        canonicalName_shown hbase, normalizeProcessName_shown hbase⟩

/-- A name of two characters of three bytes each: the slice begins inside the first. -/
theorem two_wide_characters_panic :
    NodeRewards.canonicalProcessName "游戏" = none ∧
      SteamGameDirectory.canonicalProcessName "游戏" = none ∧ displayProcessName "游戏" = none ∧
      ¬ HandledAlike "游戏" := by
  have hpanic : canonicalName "游戏" = none := by decide
  refine ⟨hpanic, hpanic, by decide, ?_⟩
  rintro ⟨name, hname, -⟩
  rw [NodeRewards.canonicalProcessName, hpanic] at hname
  cases hname

end PoleProtocol.Node
