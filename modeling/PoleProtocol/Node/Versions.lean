import PoleProtocol.Framework.Lexing
import PoleProtocol.Framework.PaddedOrder
import PoleProtocol.Node.Signing

/-!
# Two comparisons of versions

Staging compares the lists of components, and so takes a longer list to be newer than a list it
continues. Checking for an update pads the shorter list with zeros. On dotted numbers the two
answers differ exactly where the candidate continues the current version by zeros.
-/

namespace PoleProtocol.Node

open Framework

/-! ## Checking for an update -/

/-- The text without the leading `v`s and the white space around the rest. -/
def cleanVersion (text : String) : String :=
  trim (String.ofList (text.toList.dropWhile (· == 'v')))

def versionParts (clean : String) : List ℕ :=
  (splitText (· == '.') clean).filterMap (parseUnsigned 64)

/-- The comparison over the given places; a missing component reads as zero. -/
def higherAt (rParts cParts : List ℕ) : List ℕ → Bool
  | [] => false
  | i :: places =>
      let rVal := rParts.getD i 0
      let cVal := cParts.getD i 0
      if rVal > cVal then true
      else if rVal < cVal then false
      else higherAt rParts cParts places

def isVersionHigher (remote current : String) : Bool :=
  let rParts := versionParts (cleanVersion remote)
  let cParts := versionParts (cleanVersion current)
  higherAt rParts cParts (List.range (max rParts.length cParts.length))

theorem higherAt_range' {r c : List ℕ} {k m : ℕ} :
    higherAt r c (List.range' k m) = true ↔
      ∃ i, k ≤ i ∧ i < k + m ∧ c.getD i 0 < r.getD i 0 ∧
        ∀ j, k ≤ j → j < i → r.getD j 0 = c.getD j 0 := by
  induction m generalizing k with
  | zero =>
      constructor
      · intro h
        cases h
      · rintro ⟨i, hle, hlt, -⟩
        omega
  | succ m ih =>
      rw [List.range'_succ, higherAt]
      rcases lt_trichotomy (r.getD k 0) (c.getD k 0) with hlt | heq | hgt
      · simp only [gt_iff_lt, if_neg hlt.not_gt, if_pos hlt, Bool.false_eq_true, false_iff]
        rintro ⟨i, hle, -, hi, hbefore⟩
        rcases Nat.eq_or_lt_of_le hle with heq | hafter
        · subst heq
          omega
        · have hk := hbefore k le_rfl hafter
          omega
      · simp only [gt_iff_lt, if_neg heq.not_gt, if_neg heq.not_lt, ih]
        constructor
        · rintro ⟨i, hle, hlt, hi, hbefore⟩
          refine ⟨i, by omega, by omega, hi, fun j hj hji => ?_⟩
          rcases Nat.eq_or_lt_of_le hj with hjk | hjk
          · rw [← hjk]
            exact heq
          · exact hbefore j hjk hji
        · rintro ⟨i, hle, hlt, hi, hbefore⟩
          have hik : i ≠ k := by
            rintro rfl
            omega
          exact ⟨i, by omega, by omega, hi, fun j hj hji => hbefore j (by omega) hji⟩
      · simp only [gt_iff_lt, if_pos hgt, true_iff]
        exact ⟨k, le_rfl, by omega, hgt, fun j hj hji => absurd hj (by omega)⟩

/-- The loop decides the order in which missing components read as zero. -/
theorem higherAt_iff (r c : List ℕ) :
    higherAt r c (List.range (max r.length c.length)) = true ↔ GreaterPadded r c := by
  rw [List.range_eq_range', higherAt_range']
  constructor
  · rintro ⟨i, -, -, hi, hbefore⟩
    exact ⟨i, hi, fun j hj => hbefore j (Nat.zero_le j) hj⟩
  · rintro ⟨i, hi, hbefore⟩
    refine ⟨i, Nat.zero_le i, ?_, hi, fun j _ hj => hbefore j hj⟩
    by_contra hout
    have hmissing : r.getD i 0 = 0 := List.getD_eq_default r 0 (by omega)
    change c.getD i 0 < r.getD i 0 at hi
    omega

/-! ## Dotted numbers -/

/-- A version as it is written: numerals with dots between them. -/
structure DottedVersion where
  components : List (List Char)
  nonempty : components ≠ []
  numerals : ∀ component ∈ components, IsNumeral 64 component

namespace DottedVersion

variable (version : DottedVersion)

def text : String := String.ofList (['.'].intercalate version.components)

def numbers : List ℕ := version.components.map decimalValue

theorem split_text :
    splitText (· == '.') version.text = version.components.map String.ofList :=
  splitText_intercalate version.nonempty fun component hcomponent =>
    (version.numerals component hcomponent).not_mem rfl

/-- A version is written with digits and dots. -/
theorem isDigit_or_dot {c : Char} (hc : c ∈ version.text.toList) : c.isDigit = true ∨ c = '.' := by
  rw [text, String.toList_ofList] at hc
  rcases mem_intercalate hc with hdot | ⟨component, hcomponent, hmem⟩
  · exact Or.inr hdot
  · exact Or.inl ((version.numerals component hcomponent).isDigit hmem)

/-- Nothing is cleaned off a dotted number. -/
theorem cleanVersion_text : cleanVersion version.text = version.text := by
  have hletter : ∀ c ∈ version.text.toList, (c == 'v') = false := by
    intro c hc
    rcases version.isDigit_or_dot hc with hdigit | rfl
    · refine beq_eq_false_iff_ne.mpr ?_
      rintro rfl
      cases hdigit
    · rfl
  have hvisible : ∀ c ∈ version.text.toList, isWhitespace c = false := by
    intro c hc
    rcases version.isDigit_or_dot hc with hdigit | rfl
    · exact isWhitespace_of_isDigit hdigit
    · rfl
  rw [cleanVersion, dropWhile_of_none hletter, String.ofList_toList, trim,
    trimChars_of_visible hvisible, String.ofList_toList]

theorem parseUnsigned_component {component : List Char} (h : component ∈ version.components) :
    parseUnsigned 64 (String.ofList component) = some (decimalValue component) :=
  parseUnsigned_numeral (version.numerals component h)

theorem parseVersion_text : parseVersion version.text = version.numbers := by
  rw [parseVersion, version.split_text, List.map_map, numbers]
  apply List.map_congr_left
  intro component hcomponent
  rw [Function.comp_apply, version.parseUnsigned_component hcomponent, Option.getD_some]

theorem versionParts_text : versionParts (cleanVersion version.text) = version.numbers := by
  rw [version.cleanVersion_text, versionParts, version.split_text, List.filterMap_map, numbers,
    ← List.filterMap_eq_map]
  apply List.filterMap_congr
  intro component hcomponent
  exact version.parseUnsigned_component hcomponent

end DottedVersion

/-! ## The two answers -/

theorem compare_lists_gt {a b : List ℕ} :
    compare a b = .gt ↔ List.Lex (· < ·) b a := by
  rw [List.compare_eq_compareLex]
  induction a generalizing b with
  | nil =>
      cases b with
      | nil => simp [List.compareLex_nil_nil]
      | cons y b => simp [List.compareLex_nil_cons]
  | cons x a ih =>
      cases b with
      | nil => simp [List.compareLex_cons_nil]
      | cons y b =>
          have hparts : List.Lex (· < ·) (y :: b) (x :: a) ↔
              y < x ∨ y = x ∧ List.Lex (· < ·) b a := List.cons_lex_cons_iff
          rw [List.compareLex_cons_cons, hparts, ← ih]
          rcases lt_trichotomy x y with hlt | heq | hgt
          · simp [Nat.compare_eq_lt.mpr hlt]
            omega
          · simp [heq]
          · simp [Nat.compare_eq_gt.mpr hgt, hgt]

theorem versionIsNewer_text (a b : DottedVersion) :
    versionIsNewer a.text b.text = true ↔
      GreaterPadded a.numbers b.numbers ∨ ExtendsByLeast a.numbers b.numbers := by
  rw [versionIsNewer, a.parseVersion_text, b.parseVersion_text, beq_iff_eq, compare_lists_gt]
  exact lex_iff

theorem isVersionHigher_text (a b : DottedVersion) :
    isVersionHigher a.text b.text = true ↔ GreaterPadded a.numbers b.numbers := by
  rw [isVersionHigher, a.versionParts_text, b.versionParts_text]
  exact higherAt_iff a.numbers b.numbers

/-- Both comparisons answer whether the candidate is above the current version, missing components
read as zero. -/
def OneOrder (a b : DottedVersion) : Prop :=
  versionIsNewer a.text b.text = isVersionHigher a.text b.text ∧
    (versionIsNewer a.text b.text = true ↔ GreaterPadded a.numbers b.numbers)

/-- The comparisons are one order unless the candidate continues the current version by zeros. -/
theorem oneOrder_iff (a b : DottedVersion) :
    OneOrder a b ↔ ¬ ∃ n, a.numbers = b.numbers ++ List.replicate (n + 1) 0 := by
  change OneOrder a b ↔ ¬ ExtendsByLeast a.numbers b.numbers
  constructor
  · rintro ⟨-, horder⟩ hextends
    have hnewer := (versionIsNewer_text a b).mpr (Or.inr hextends)
    exact not_greaterPadded_of_extends hextends (horder.mp hnewer)
  · intro hextends
    have horder : versionIsNewer a.text b.text = true ↔ GreaterPadded a.numbers b.numbers := by
      rw [versionIsNewer_text]
      exact or_iff_left hextends
    exact ⟨Bool.eq_iff_iff.mpr (horder.trans (isVersionHigher_text a b).symm), horder⟩

/-- A version is not offered as an update to itself written with more or fewer components. -/
theorem OneOrder.not_offered {a b : DottedVersion} (h : OneOrder a b)
    (hsame : ∀ i, a.numbers.getD i 0 = b.numbers.getD i 0) :
    versionIsNewer a.text b.text = false ∧ isVersionHigher a.text b.text = false := by
  have hnewer : ¬ versionIsNewer a.text b.text = true := by
    intro hnewer
    obtain ⟨i, hi, -⟩ := h.2.mp hnewer
    have hequal := hsame i
    change b.numbers.getD i 0 < a.numbers.getD i 0 at hi
    omega
  rw [Bool.not_eq_true] at hnewer
  exact ⟨hnewer, h.1 ▸ hnewer⟩

/-- The version `1.0.0`. -/
def threeComponents : DottedVersion := ⟨[['1'], ['0'], ['0']], by decide, by decide⟩

/-- The version `1.0`. -/
def twoComponents : DottedVersion := ⟨[['1'], ['0']], by decide, by decide⟩

/-- One version written with three components is offered to itself written with two. -/
theorem trailing_zero_is_newer :
    threeComponents.text = "1.0.0" ∧ twoComponents.text = "1.0" ∧
      versionIsNewer threeComponents.text twoComponents.text = true ∧
      isVersionHigher threeComponents.text twoComponents.text = false ∧
      ¬ OneOrder threeComponents twoComponents := by
  have hnewer : versionIsNewer threeComponents.text twoComponents.text = true := by decide +kernel
  have hhigher : isVersionHigher threeComponents.text twoComponents.text = false := by
    decide +kernel
  refine ⟨by decide +kernel, by decide +kernel, hnewer, hhigher, ?_⟩
  rintro ⟨hsame, -⟩
  rw [hnewer, hhigher] at hsame
  cases hsame

end PoleProtocol.Node
