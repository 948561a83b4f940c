import Mathlib

/-!
# Bits regrouped

Numbers of one width are written as bits, most significant first, one number after the other, and
bits are read in groups of one width. Reading undoes writing, and writing undoes reading where the
groups come out even.
-/

namespace PoleProtocol.Framework

/-! ## One number -/

def bitsOf (width n : ℕ) : List Bool := (List.range width).reverse.map n.testBit

def ofBits (bits : List Bool) : ℕ := bits.foldl (fun acc b => 2 * acc + b.toNat) 0

@[simp] theorem length_bitsOf (width n : ℕ) : (bitsOf width n).length = width := by
  simp [bitsOf]

theorem bitsOf_succ (width n : ℕ) :
    bitsOf (width + 1) n = bitsOf width (n / 2) ++ [n.testBit 0] := by
  unfold bitsOf
  rw [List.range_succ_eq_map, List.reverse_cons, List.map_append, List.map_singleton,
    ← List.map_reverse, List.map_map]
  congr 1
  apply List.map_congr_left
  intro i _
  rw [Function.comp_apply, Nat.succ_eq_add_one, Nat.testBit_add_one]

theorem ofBits_concat (bits : List Bool) (b : Bool) :
    ofBits (bits ++ [b]) = 2 * ofBits bits + b.toNat := by
  rw [ofBits, List.foldl_append]
  rfl

theorem toNat_testBit_zero (n : ℕ) : (n.testBit 0).toNat = n % 2 := by
  rw [Nat.testBit_zero]
  rcases Nat.mod_two_eq_zero_or_one n with h | h <;> simp [h]

/-- The bits of a number read as the number inside the width. -/
theorem ofBits_bitsOf (width n : ℕ) : ofBits (bitsOf width n) = n % 2 ^ width := by
  induction width generalizing n with
  | zero => rw [Nat.pow_zero, Nat.mod_one]; rfl
  | succ width ih =>
      rw [bitsOf_succ, ofBits_concat, ih, toNat_testBit_zero, Nat.pow_succ', Nat.mod_mul]
      omega

/-- The number that bits are read as has these bits. -/
theorem bitsOf_ofBits (bits : List Bool) : bitsOf bits.length (ofBits bits) = bits := by
  induction bits using List.reverseRecOn with
  | nil => rfl
  | append_singleton bits b ih =>
      have hhalf : (2 * ofBits bits + b.toNat) / 2 = ofBits bits := by
        cases b <;> simp [Nat.mul_add_div]
      have hlast : (2 * ofBits bits + b.toNat).testBit 0 = b := by
        rw [Nat.testBit_zero]
        cases b <;> simp [Nat.add_mod]
      rw [List.length_append, List.length_singleton, ofBits_concat, bitsOf_succ, hhalf, hlast, ih]

theorem ofBits_lt (bits : List Bool) : ofBits bits < 2 ^ bits.length := by
  have hbits := congrArg ofBits (bitsOf_ofBits bits)
  rw [ofBits_bitsOf] at hbits
  rw [← hbits]
  exact Nat.mod_lt _ (Nat.two_pow_pos _)

/-! ## Groups -/

section Chunks

variable {α : Type*}

/-- The list in parts of the given length; what is left over at the end is a shorter part. -/
def chunks (size : ℕ) (elements : List α) : List (List α) :=
  if _h : size = 0 ∨ elements = [] then []
  else elements.take size :: chunks size (elements.drop size)
termination_by elements.length
decreasing_by
  rw [not_or] at _h
  have hpos := List.length_pos_of_ne_nil _h.2
  rw [List.length_drop]
  omega

theorem chunks_cons {size : ℕ} {part : List α} (hsize : 0 < size) (hpart : part.length = size)
    (rest : List α) : chunks size (part ++ rest) = part :: chunks size rest := by
  have hne : ¬ (size = 0 ∨ part ++ rest = []) := by
    rintro (hzero | hnil)
    · omega
    · rw [List.append_eq_nil_iff.mp hnil |>.1, List.length_nil] at hpart
      omega
  rw [chunks, dif_neg hne, ← hpart, List.take_left, List.drop_left]

theorem chunks_nil (size : ℕ) : chunks size ([] : List α) = [] := by
  rw [chunks, dif_pos (Or.inr rfl)]

/-- Parts of one length are found again. -/
theorem chunks_flatten {size : ℕ} (hsize : 0 < size) {parts : List (List α)}
    (hparts : ∀ part ∈ parts, part.length = size) : chunks size parts.flatten = parts := by
  induction parts with
  | nil => exact chunks_nil size
  | cons part parts ih =>
      obtain ⟨hpart, hrest⟩ := List.forall_mem_cons.mp hparts
      rw [List.flatten_cons, chunks_cons hsize hpart, ih hrest]

/-- A list whose length is a multiple of the size is divided evenly. -/
theorem chunks_even {size count : ℕ} (hsize : 0 < size) {elements : List α}
    (hlength : elements.length = count * size) :
    (chunks size elements).length = count ∧
      (∀ part ∈ chunks size elements, part.length = size) ∧
      (chunks size elements).flatten = elements := by
  induction count generalizing elements with
  | zero =>
      have hnil : elements = [] := List.length_eq_zero_iff.mp (by omega)
      subst hnil
      rw [chunks_nil]
      simp
  | succ count ih =>
      have htake : (elements.take size).length = size := by
        rw [List.length_take, hlength, Nat.succ_mul]
        omega
      have hdrop : (elements.drop size).length = count * size := by
        rw [List.length_drop, hlength, Nat.succ_mul]
        omega
      obtain ⟨hcount, hsizes, hflat⟩ := ih hdrop
      have hchunks := chunks_cons hsize htake (elements.drop size)
      rw [List.take_append_drop] at hchunks
      rw [hchunks, List.length_cons, hcount, List.flatten_cons, hflat, List.take_append_drop]
      exact ⟨rfl, List.forall_mem_cons.mpr ⟨htake, hsizes⟩, rfl⟩

end Chunks

theorem map_eq_self {α : Type*} {f : α → α} {elements : List α} (h : ∀ a ∈ elements, f a = a) :
    elements.map f = elements := by
  conv_rhs => rw [← List.map_id elements]
  exact List.map_congr_left h

/-! ## Many numbers -/

def writeNumbers (width : ℕ) (numbers : List ℕ) : List Bool := numbers.flatMap (bitsOf width)

def readNumbers (width : ℕ) (bits : List Bool) : List ℕ := (chunks width bits).map ofBits

variable {width : ℕ}

theorem length_writeNumbers (numbers : List ℕ) :
    (writeNumbers width numbers).length = numbers.length * width := by
  induction numbers with
  | nil => rw [List.length_nil, Nat.zero_mul]; rfl
  | cons n numbers ih =>
      rw [writeNumbers, List.flatMap_cons, List.length_append, length_bitsOf, List.length_cons,
        Nat.succ_mul, Nat.add_comm]
      exact congrArg (· + width) ih

theorem readNumbers_writeNumbers (hwidth : 0 < width) {numbers : List ℕ}
    (hfits : ∀ n ∈ numbers, n < 2 ^ width) :
    readNumbers width (writeNumbers width numbers) = numbers := by
  have hparts : ∀ part ∈ numbers.map (bitsOf width), part.length = width := by
    intro part hpart
    obtain ⟨n, -, rfl⟩ := List.mem_map.mp hpart
    exact length_bitsOf width n
  rw [readNumbers, writeNumbers, List.flatMap_def, chunks_flatten hwidth hparts, List.map_map]
  apply map_eq_self
  intro n hn
  rw [Function.comp_apply, ofBits_bitsOf, Nat.mod_eq_of_lt (hfits n hn)]

theorem writeNumbers_readNumbers {count : ℕ} (hwidth : 0 < width) {bits : List Bool}
    (hlength : bits.length = count * width) :
    writeNumbers width (readNumbers width bits) = bits := by
  obtain ⟨-, hsizes, hflat⟩ := chunks_even hwidth hlength
  rw [writeNumbers, readNumbers, List.flatMap_map, List.flatMap_def]
  conv_rhs => rw [← hflat]
  congr 1
  apply map_eq_self
  intro part hpart
  rw [← hsizes part hpart]
  exact bitsOf_ofBits part

theorem length_readNumbers {count : ℕ} (hwidth : 0 < width) {bits : List Bool}
    (hlength : bits.length = count * width) : (readNumbers width bits).length = count := by
  rw [readNumbers, List.length_map, (chunks_even hwidth hlength).1]

theorem readNumbers_lt {count : ℕ} (hwidth : 0 < width) {bits : List Bool}
    (hlength : bits.length = count * width) : ∀ n ∈ readNumbers width bits, n < 2 ^ width := by
  intro n hn
  obtain ⟨part, hpart, rfl⟩ := List.mem_map.mp hn
  have hbound := ofBits_lt part
  rwa [(chunks_even hwidth hlength).2.1 part hpart] at hbound

end PoleProtocol.Framework
