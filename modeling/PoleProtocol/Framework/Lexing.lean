import PoleProtocol.Framework.Text

/-!
# Reading back what was written

Parts joined by a separator are found again, visible text has nothing to trim, and digits are read
as the number they write.
-/

namespace PoleProtocol.Framework

/-! ## Trimming -/

theorem dropWhile_of_none {p : Char → Bool} {chars : List Char} (h : ∀ c ∈ chars, p c = false) :
    chars.dropWhile p = chars := by
  cases chars with
  | nil => rfl
  | cons c chars =>
      have hhead : p c = false := h c List.mem_cons_self
      rw [List.dropWhile_cons_of_neg (by simp [hhead])]

/-- Text without white space is left as it is. -/
theorem trimChars_of_visible {chars : List Char} (h : ∀ c ∈ chars, isWhitespace c = false) :
    trimChars chars = chars := by
  unfold trimChars
  rw [dropWhile_of_none h, dropWhile_of_none (fun c hc => h c (List.mem_reverse.mp hc)),
    List.reverse_reverse]

theorem dropWhile_of_head {p : Char → Bool} {chars : List Char} {first : Char}
    (hfirst : chars.head? = some first) (hkept : p first = false) :
    chars.dropWhile p = chars := by
  cases chars with
  | nil => rfl
  | cons c chars =>
      cases hfirst
      exact List.dropWhile_cons_of_neg (by simp [hkept])

/-- White space around a text is trimmed off. -/
theorem trimChars_between {before inner after : List Char} {first last : Char}
    (hbefore : ∀ c ∈ before, isWhitespace c = true) (hafter : ∀ c ∈ after, isWhitespace c = true)
    (hfirst : inner.head? = some first) (hfirstVisible : isWhitespace first = false)
    (hlast : inner.getLast? = some last) (hlastVisible : isWhitespace last = false) :
    trimChars (before ++ inner ++ after) = inner := by
  have hfront : (before ++ inner ++ after).dropWhile isWhitespace = inner ++ after := by
    have hhead : (inner ++ after).head? = some first := by
      rw [List.head?_append, hfirst]
      rfl
    rw [List.append_assoc, List.dropWhile_append_of_pos hbefore,
      dropWhile_of_head hhead hfirstVisible]
  have hback : (after.reverse ++ inner.reverse).dropWhile isWhitespace = inner.reverse := by
    rw [List.dropWhile_append_of_pos (fun c hc => hafter c (List.mem_reverse.mp hc))]
    exact dropWhile_of_head (List.head?_reverse.trans hlast) hlastVisible
  unfold trimChars
  rw [hfront, List.reverse_append, hback, List.reverse_reverse]

theorem trimChars_eq_rdropWhile (chars : List Char) :
    trimChars chars = (chars.dropWhile isWhitespace).rdropWhile isWhitespace := rfl

/-- Only white space at its two ends is trimmed off a text. -/
theorem trimChars_of_ends {chars : List Char}
    (hfirst : ∀ hne : chars ≠ [], isWhitespace (chars.head hne) = false)
    (hlast : ∀ hne : chars ≠ [], isWhitespace (chars.getLast hne) = false) :
    trimChars chars = chars := by
  have hfront : chars.dropWhile isWhitespace = chars := by
    cases chars with
    | nil => rfl
    | cons c chars =>
        have hhead : isWhitespace c = false := hfirst (by simp)
        exact List.dropWhile_cons_of_neg (by simp [hhead])
  rw [trimChars_eq_rdropWhile, hfront, List.rdropWhile_eq_self_iff]
  intro hne
  simp [hlast hne]

/-- A trimmed text does not begin with white space. -/
theorem trimChars_head {chars : List Char} (hne : trimChars chars ≠ []) :
    isWhitespace ((trimChars chars).head hne) = false := by
  have hbegins : trimChars chars <+: chars.dropWhile isWhitespace :=
    List.rdropWhile_prefix isWhitespace _
  have hrest : chars.dropWhile isWhitespace ≠ [] := by
    intro hnil
    rw [hnil] at hbegins
    exact hne (List.prefix_nil.mp hbegins)
  rw [hbegins.head hne]
  simpa using List.head_dropWhile_not isWhitespace hrest

/-! ## Letter case -/

/-- The ASCII letters of a text in lower case. -/
def lowercase (chars : List Char) : List Char := chars.map Char.toLower

def eqIgnoreAsciiCase (a b : String) : Bool := lowercase a.toList == lowercase b.toList

theorem lowercase_append (front back : List Char) :
    lowercase (front ++ back) = lowercase front ++ lowercase back := List.map_append

/-! ## Slices -/

/-- The bytes that a text takes in UTF-8. -/
def utf8Length (chars : List Char) : ℕ := (chars.map Char.utf8Size).sum

/-- The text before and after a byte offset; no result inside a character. -/
def splitAtByte : List Char → ℕ → Option (List Char × List Char)
  | chars, 0 => some ([], chars)
  | [], _ + 1 => none
  | c :: chars, offset + 1 =>
      if c.utf8Size ≤ offset + 1 then
        (splitAtByte chars (offset + 1 - c.utf8Size)).map fun (front, back) => (c :: front, back)
      else none

@[simp] theorem utf8Length_nil : utf8Length [] = 0 := rfl

@[simp] theorem utf8Length_cons (c : Char) (chars : List Char) :
    utf8Length (c :: chars) = c.utf8Size + utf8Length chars := rfl

theorem utf8Length_append (front back : List Char) :
    utf8Length (front ++ back) = utf8Length front + utf8Length back := by
  rw [utf8Length, List.map_append, List.sum_append]
  rfl

/-- A text is cut where a character ends. -/
theorem splitAtByte_append (front back : List Char) :
    splitAtByte (front ++ back) (utf8Length front) = some (front, back) := by
  induction front with
  | nil =>
      cases back with
      | nil => rfl
      | cons c back => rfl
  | cons c front ih =>
      have hsize := c.utf8Size_pos
      obtain ⟨offset, hoffset⟩ : ∃ offset, utf8Length (c :: front) = offset + 1 :=
        Nat.exists_eq_add_one.mpr (by rw [utf8Length_cons]; omega)
      have hrest : offset + 1 - c.utf8Size = utf8Length front := by
        rw [utf8Length_cons] at hoffset
        omega
      have hfits : c.utf8Size ≤ offset + 1 := by
        rw [utf8Length_cons] at hoffset
        omega
      rw [hoffset, List.cons_append, splitAtByte, if_pos hfits, hrest, ih]
      rfl

/-- It is cut nowhere else. -/
theorem splitAtByte_sound {chars front back : List Char} {offset : ℕ}
    (h : splitAtByte chars offset = some (front, back)) :
    chars = front ++ back ∧ utf8Length front = offset := by
  fun_induction splitAtByte chars offset generalizing front with
  | case1 chars =>
      cases h
      exact ⟨rfl, rfl⟩
  | case2 => cases h
  | case3 c chars offset hle ih =>
      obtain ⟨⟨front', back'⟩, hsplit, hparts⟩ := Option.map_eq_some_iff.mp h
      obtain ⟨rfl, rfl⟩ := Prod.mk.inj hparts
      obtain ⟨hchars, hlength⟩ := ih hsplit
      refine ⟨by rw [hchars, List.cons_append], ?_⟩
      rw [utf8Length_cons, hlength]
      omega
  | case4 => cases h

/-! ## Joined parts -/

theorem mem_intercalate {sep c : Char} {parts : List (List Char)}
    (h : c ∈ [sep].intercalate parts) : c = sep ∨ ∃ part ∈ parts, c ∈ part := by
  induction parts with
  | nil => cases h
  | cons part parts ih =>
      cases parts with
      | nil =>
          rw [List.intercalate_singleton] at h
          exact Or.inr ⟨part, List.mem_cons_self, h⟩
      | cons next parts =>
          rw [List.intercalate_cons_cons, List.mem_append, List.mem_append] at h
          rcases h with (h | h) | h
          · exact Or.inr ⟨part, List.mem_cons_self, h⟩
          · exact Or.inl (List.mem_singleton.mp h)
          · rcases ih h with hsep | ⟨later, hlater, hc⟩
            · exact Or.inl hsep
            · exact Or.inr ⟨later, List.mem_cons_of_mem _ hlater, hc⟩

/-- Parts that do not contain the separator are found again. -/
theorem splitText_intercalate {sep : Char} {parts : List (List Char)} (hnonempty : parts ≠ [])
    (hsep : ∀ part ∈ parts, sep ∉ part) :
    splitText (· == sep) (String.ofList ([sep].intercalate parts)) =
      parts.map String.ofList := by
  unfold splitText
  rw [String.toList_ofList, ← List.splitOn_eq_splitOnP, List.splitOn_intercalate sep hsep hnonempty]

/-! ## Quoted text -/

/-- A text closed by a separator begins another one only if both have the same first part. -/
theorem isPrefixOf_closed {sep : Char} {word part rest : List Char} (hword : sep ∉ word)
    (hpart : sep ∉ part) :
    (word ++ [sep]).isPrefixOf (part ++ sep :: rest) = true ↔ word = part := by
  constructor
  · intro h
    rw [List.isPrefixOf_iff_prefix] at h
    obtain ⟨later, hlater⟩ := h
    induction word generalizing part with
    | nil =>
        cases part with
        | nil => rfl
        | cons c part =>
            rw [List.nil_append, List.cons_append, List.cons_append] at hlater
            exact absurd (List.head_eq_of_cons_eq hlater ▸ List.mem_cons_self) hpart
    | cons w word ih =>
        cases part with
        | nil =>
            rw [List.nil_append, List.cons_append, List.cons_append] at hlater
            exact absurd (List.head_eq_of_cons_eq hlater ▸ List.mem_cons_self) hword
        | cons c part =>
            rw [List.cons_append, List.cons_append, List.cons_append] at hlater
            obtain ⟨rfl, htail⟩ := List.cons.inj hlater
            rw [ih (fun h => hword (List.mem_cons_of_mem _ h))
              (fun h => hpart (List.mem_cons_of_mem _ h)) htail]
  · rintro rfl
    rw [List.isPrefixOf_iff_prefix]
    exact ⟨rest, by rw [List.append_assoc, List.singleton_append]⟩

/-! ## Digits -/

/-- The number that decimal digits write. -/
def decimalValue (digits : List Char) : ℕ :=
  digits.foldl (fun value c => 10 * value + (c.toNat - 48)) 0

/-- Digits that write a number of the given width. -/
def IsNumeral (width : ℕ) (digits : List Char) : Prop :=
  digits ≠ [] ∧ digits.all Char.isDigit = true ∧ decimalValue digits < 2 ^ width

instance (width : ℕ) (digits : List Char) : Decidable (IsNumeral width digits) :=
  inferInstanceAs (Decidable (_ ∧ _ ∧ _))

theorem isDigit_bounds {c : Char} (h : c.isDigit = true) : 48 ≤ c.toNat ∧ c.toNat ≤ 57 := by
  have hbounds : c.val ≥ 48 ∧ c.val ≤ 57 := by simpa [Char.isDigit] using h
  exact ⟨by simpa using UInt32.le_iff_toNat_le.mp hbounds.1,
    by simpa using UInt32.le_iff_toNat_le.mp hbounds.2⟩

theorem isWhitespace_of_isDigit {c : Char} (h : c.isDigit = true) : isWhitespace c = false := by
  obtain ⟨hlow, hhigh⟩ := isDigit_bounds h
  unfold isWhitespace
  simp
  omega

theorem IsNumeral.isDigit {width : ℕ} {digits : List Char} (h : IsNumeral width digits) {c : Char}
    (hc : c ∈ digits) : c.isDigit = true := List.all_eq_true.mp h.2.1 c hc

theorem IsNumeral.not_mem {width : ℕ} {digits : List Char} (h : IsNumeral width digits) {c : Char}
    (hc : c.isDigit = false) : c ∉ digits := by
  intro hmem
  rw [h.isDigit hmem] at hc
  cases hc

/-- A numeral is read as the number it writes. -/
theorem parseUnsigned_numeral {width : ℕ} {digits : List Char} (h : IsNumeral width digits) :
    parseUnsigned width (String.ofList digits) = some (decimalValue digits) := by
  obtain ⟨hnonempty, hdigits, hvalue⟩ := h
  have hplus : '+' ∉ digits := IsNumeral.not_mem ⟨hnonempty, hdigits, hvalue⟩ rfl
  unfold parseUnsigned
  rw [String.toList_ofList]
  split
  · next rest => exact absurd List.mem_cons_self hplus
  · rw [if_pos ⟨hnonempty, hdigits⟩]
    exact if_pos hvalue

/-- What is read as a number of the given width is one. -/
theorem parseUnsigned_lt {width : ℕ} {text : String} {n : ℕ}
    (h : parseUnsigned width text = some n) : n < 2 ^ width := by
  simp only [parseUnsigned, Option.ite_none_right_eq_some, Option.some.injEq] at h
  obtain ⟨-, hfits, rfl⟩ := h
  exact hfits

end PoleProtocol.Framework
