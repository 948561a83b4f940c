import Mathlib

/-!
# Texts

What a program reads off a text before it parses it: the white space around it, its lines, its
parts, and an unsigned number.
-/

namespace PoleProtocol.Framework

/-- White space as Unicode has it. -/
def isWhitespace (c : Char) : Bool :=
  (9 ≤ c.toNat && c.toNat ≤ 13) || c.toNat == 32 || c.toNat == 0x85 || c.toNat == 0xA0 ||
    c.toNat == 0x1680 || (0x2000 ≤ c.toNat && c.toNat ≤ 0x200A) || c.toNat == 0x2028 ||
    c.toNat == 0x2029 || c.toNat == 0x202F || c.toNat == 0x205F || c.toNat == 0x3000

def trimChars (chars : List Char) : List Char :=
  ((chars.dropWhile isWhitespace).reverse.dropWhile isWhitespace).reverse

/-- The text without the white space around it. -/
def trim (text : String) : String := String.ofList (trimChars text.toList)

/-- Only text that is all white space is trimmed away. -/
theorem trimChars_eq_nil_iff {chars : List Char} :
    trimChars chars = [] ↔ ∀ c ∈ chars, isWhitespace c = true := by
  unfold trimChars
  rw [List.reverse_eq_nil_iff, List.dropWhile_eq_nil_iff]
  constructor
  · intro hall c hc
    by_contra hvisible
    have hkept : c ∈ chars.dropWhile isWhitespace := by
      rw [← List.takeWhile_append_dropWhile (p := isWhitespace) (l := chars)] at hc
      rcases List.mem_append.mp hc with hblank | hrest
      · exact absurd (List.mem_takeWhile_imp hblank) hvisible
      · exact hrest
    exact hvisible (hall c (List.mem_reverse.mpr hkept))
  · intro hall c hc
    exact hall c (List.dropWhile_subset _ (List.mem_reverse.mp hc))

theorem trim_ne_empty {text : String} {c : Char} (hc : c ∈ text.toList)
    (hvisible : isWhitespace c = false) : trim text ≠ "" := by
  intro hempty
  have hnil : trimChars text.toList = [] := by
    have hchars := congrArg String.toList hempty
    rwa [trim, String.toList_ofList] at hchars
  have hblank := trimChars_eq_nil_iff.mp hnil c hc
  rw [hvisible] at hblank
  cases hblank

/-- The text begins with the other one. -/
def beginsWith (text start : String) : Bool := start.toList.isPrefixOf text.toList

/-- The parts between the separators; a text without one is one part. -/
def splitText (isSeparator : Char → Bool) (text : String) : List String :=
  (text.toList.splitOnP isSeparator).map String.ofList

/-- The lines, given the reversed beginning of the first; a carriage return belongs to the end of
its line. -/
def linesFrom : (line : List Char) → List Char → List (List Char)
  | [], [] => []
  | line, [] => [line.reverse]
  | line, '\n' :: chars =>
      (match line with
        | '\r' :: line => line.reverse
        | line => line.reverse) :: linesFrom [] chars
  | line, c :: chars => linesFrom (c :: line) chars

def textLines (text : String) : List String := (linesFrom [] text.toList).map String.ofList

/-- An unsigned number of the given width, in decimal digits that a plus sign may precede. -/
def parseUnsigned (width : ℕ) (text : String) : Option ℕ :=
  let digits :=
    match text.toList with
    | '+' :: digits => digits
    | digits => digits
  if digits ≠ [] ∧ digits.all Char.isDigit then
    let value := digits.foldl (fun value c => 10 * value + (c.toNat - 48)) 0
    if value < 2 ^ width then some value else none
  else none

theorem byteArray_toList (bytes : ByteArray) : bytes.toList = bytes.data.toList := by
  have hloop : ∀ (i : ℕ) (done : List UInt8),
      ByteArray.toList.loop bytes i done = done.reverse ++ bytes.data.toList.drop i := by
    intro i done
    fun_induction ByteArray.toList.loop bytes i done with
    | case1 i done hlt ih =>
        have hdrop : bytes.data.toList.drop i =
            bytes.get! i :: bytes.data.toList.drop (i + 1) := by
          rw [List.drop_eq_getElem_cons (by simpa using hlt)]
          simp [ByteArray.get!, hlt]
        rw [ih, hdrop, List.reverse_cons, List.append_assoc, List.singleton_append]
    | case2 i done hge =>
        rw [List.drop_of_length_le (by simpa using Nat.not_lt.mp hge), List.append_nil]
  exact hloop 0 []

example : textLines "a\r\nb\n\nc\r" = ["a", "b", "", "c\r"] := by decide +kernel

end PoleProtocol.Framework
