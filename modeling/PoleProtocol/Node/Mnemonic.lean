import PoleProtocol.Framework.BitGroups
import PoleProtocol.Framework.Checks
import PoleProtocol.Ledger.Types

/-!
# Mnemonic sentences

A sentence is generated from 32 bytes of entropy and the first byte of their hash, eleven bits a
word. Reading a sentence counts its words and looks each of them up, and does not look at the
checksum: a sentence of 24 listed words is accepted whether or not any entropy generates it.
-/

namespace PoleProtocol.Node

open Framework Ledger

/-- The list of words: 2048 of them, no two alike. -/
structure WordList where
  words : List String
  count : words.length = 2048
  distinct : words.Nodup

inductive WalletError where
  | invalidWordCount (count : ℕ)
  | invalidWord (word : String)
  deriving DecidableEq

/-! ## Reading and generating -/

section Functions

variable (toLowercase : String → String) (list : WordList)

/-- The words of a sentence in lower case. -/
def fromWords (words : List String) : Except WalletError (List String) := do
  ensure (words.length = 24) (.invalidWordCount words.length)
  words.mapM fun w => do
    let lower := toLowercase w
    ensure (lower ∈ list.words) (.invalidWord lower)
    return lower

/-- The bits of a byte, most significant first. -/
def byteBits (byte : UInt8) : List Bool :=
  [7, 6, 5, 4, 3, 2, 1, 0].map fun i => ((byte.toNat >>> i) &&& 1) == 1

def wordIndex (chunk : List Bool) : ℕ := chunk.foldl (fun acc b => (acc <<< 1) ||| b.toNat) 0

def checksumByte (entropyBytes : Bytes) : UInt8 := (stableHash32 entropyBytes).bytes.headD 0

/-- The sentence of the entropy; no result is an index outside the list. -/
def generateMnemonic (entropyBytes : Bytes) : Option (List String) :=
  let entropyBits := entropyBytes.flatMap byteBits ++ byteBits (checksumByte entropyBytes)
  (chunks 11 entropyBits).mapM fun chunk => list.words[wordIndex chunk]?

end Functions

/-! ## Bits and numbers -/

theorem byteBits_eq (byte : UInt8) : byteBits byte = bitsOf 8 byte.toNat := by
  have hbit (i : ℕ) : (((byte.toNat >>> i) &&& 1) == 1) = byte.toNat.testBit i := by
    rw [Nat.testBit_eq_decide_div_mod_eq, Nat.and_one_is_mod, Nat.shiftRight_eq_div_pow]
    rfl
  unfold byteBits
  simp only [hbit]
  rfl

theorem wordIndex_eq (chunk : List Bool) : wordIndex chunk = ofBits chunk := by
  unfold wordIndex ofBits
  congr 1
  funext acc b
  have hbit : b.toNat < 2 ^ 1 := by cases b <;> decide
  rw [← Nat.shiftLeft_add_eq_or_of_lt hbit, Nat.shiftLeft_eq, Nat.pow_one, Nat.mul_comm]

theorem flatMap_byteBits (bytes : Bytes) :
    bytes.flatMap byteBits = writeNumbers 8 (bytes.map UInt8.toNat) := by
  rw [writeNumbers, List.flatMap_map]
  apply List.flatMap_congr
  intro byte _
  exact byteBits_eq byte

theorem bytes_toNat_lt (bytes : Bytes) : ∀ n ∈ bytes.map UInt8.toNat, n < 2 ^ 8 := by
  intro n hn
  obtain ⟨byte, -, rfl⟩ := List.mem_map.mp hn
  exact byte.toNat_lt

section List

variable {list : WordList}

/-- The sentence is read off the bits of the entropy and its checksum, eleven at a time. -/
theorem generateMnemonic_eq (entropyBytes : Bytes) :
    generateMnemonic list entropyBytes =
      (readNumbers 11 (writeNumbers 8
        ((entropyBytes ++ [checksumByte entropyBytes]).map UInt8.toNat))).mapM
          (list.words[·]?) := by
  have hbits : entropyBytes.flatMap byteBits ++ byteBits (checksumByte entropyBytes) =
      writeNumbers 8 ((entropyBytes ++ [checksumByte entropyBytes]).map UInt8.toNat) := by
    rw [← flatMap_byteBits, List.flatMap_append, List.flatMap_singleton]
  simp only [generateMnemonic, hbits, readNumbers, List.mapM_map, Function.comp_def,
    wordIndex_eq]

/-- A word stands at the index at which it is found, and at no other. -/
theorem getElem_words {i : ℕ} {w : String} :
    list.words[i]? = some w ↔ i = list.words.idxOf w ∧ w ∈ list.words := by
  constructor
  · intro h
    obtain ⟨hi, rfl⟩ := List.getElem?_eq_some_iff.mp h
    exact ⟨(list.distinct.idxOf_getElem i hi).symm, List.getElem_mem hi⟩
  · rintro ⟨rfl, hmem⟩
    exact List.getElem?_idxOf hmem

/-- Indices are the words at them. -/
theorem mapM_words {indices : List ℕ} {ws : List String} :
    indices.mapM (list.words[·]?) = some ws ↔
      indices = ws.map list.words.idxOf ∧ ∀ w ∈ ws, w ∈ list.words := by
  induction indices generalizing ws with
  | nil =>
      cases ws with
      | nil => simp
      | cons w ws => simp
  | cons i indices ih =>
      simp only [List.mapM_cons, Option.bind_eq_bind, Option.bind_eq_some_iff, Option.pure_def,
        Option.some.injEq, getElem_words, ih]
      constructor
      · rintro ⟨w, ⟨rfl, hw⟩, rest, ⟨rfl, hrest⟩, rfl⟩
        exact ⟨rfl, List.forall_mem_cons.mpr ⟨hw, hrest⟩⟩
      · rintro ⟨hindices, hmem⟩
        cases ws with
        | nil => cases hindices
        | cons w ws =>
            obtain ⟨hi, hrest⟩ := List.cons.inj hindices
            obtain ⟨hw, hws⟩ := List.forall_mem_cons.mp hmem
            exact ⟨w, ⟨hi, hw⟩, ws, ⟨hrest, hws⟩, rfl⟩

theorem index_lt {w : String} (h : w ∈ list.words) : list.words.idxOf w < 2 ^ 11 := by
  have hlt := List.idxOf_lt_length_of_mem h
  rw [list.count] at hlt
  omega

end List

/-! ## The checksum -/

section Checksum

variable (list : WordList)

/-- The indices of a sentence as bits. -/
def sentenceBits (ws : List String) : List Bool := writeNumbers 11 (ws.map list.words.idxOf)

/-- The first 256 bits of a sentence as bytes. -/
def entropyOf (ws : List String) : Bytes :=
  (readNumbers 8 ((sentenceBits list ws).take 256)).map UInt8.ofNat

/-- The bits behind the entropy are the first byte of its hash. -/
def ChecksumMatches (ws : List String) : Prop :=
  ofBits ((sentenceBits list ws).drop 256) = (checksumByte (entropyOf list ws)).toNat

instance (ws : List String) : Decidable (ChecksumMatches list ws) :=
  inferInstanceAs (Decidable (_ = _))

variable {list} {ws : List String}

/-- The bits of the entropy and its checksum. -/
theorem writeNumbers_checked (entropyBytes : Bytes) (checksum : UInt8) :
    writeNumbers 8 ((entropyBytes ++ [checksum]).map UInt8.toNat) =
      writeNumbers 8 (entropyBytes.map UInt8.toNat) ++ bitsOf 8 checksum.toNat := by
  rw [writeNumbers, List.map_append, List.flatMap_append]
  simp [writeNumbers]

theorem bytes_of_bits (entropyBytes : Bytes) :
    (readNumbers 8 (writeNumbers 8 (entropyBytes.map UInt8.toNat))).map UInt8.ofNat =
      entropyBytes := by
  rw [readNumbers_writeNumbers (by omega) (bytes_toNat_lt entropyBytes), List.map_map]
  apply map_eq_self
  intro byte _
  rw [Function.comp_apply, UInt8.ofNat_toNat]

/-- A generated sentence has 24 listed words and the checksum of its entropy. -/
theorem checksumMatches_of_generated {entropyBytes : Bytes} (hlength : entropyBytes.length = 32)
    (h : generateMnemonic list entropyBytes = some ws) :
    ws.length = 24 ∧ (∀ w ∈ ws, w ∈ list.words) ∧ ChecksumMatches list ws := by
  rw [generateMnemonic_eq, mapM_words] at h
  obtain ⟨hindices, hmem⟩ := h
  have hbits : (writeNumbers 8 ((entropyBytes ++ [checksumByte entropyBytes]).map
      UInt8.toNat)).length = 24 * 11 := by
    rw [length_writeNumbers]
    simp [hlength]
  have hsentence : sentenceBits list ws =
      writeNumbers 8 (entropyBytes.map UInt8.toNat) ++
        bitsOf 8 (checksumByte entropyBytes).toNat := by
    rw [sentenceBits, ← hindices, writeNumbers_readNumbers (by omega) hbits, writeNumbers_checked]
  have hfront : (writeNumbers 8 (entropyBytes.map UInt8.toNat)).length = 256 := by
    rw [length_writeNumbers, List.length_map, hlength]
  have hentropy : entropyOf list ws = entropyBytes := by
    rw [entropyOf, hsentence, List.take_left' hfront, bytes_of_bits]
  refine ⟨?_, hmem, ?_⟩
  · have hcount := congrArg List.length hindices
    rw [length_readNumbers (by omega) hbits, List.length_map] at hcount
    exact hcount.symm
  · rw [ChecksumMatches, hentropy, hsentence, List.drop_left' hfront, ofBits_bitsOf]
    exact Nat.mod_eq_of_lt (checksumByte entropyBytes).toNat_lt

/-- A sentence of 24 listed words with the right checksum is generated from its own bits. -/
theorem generated_of_checksumMatches (hlength : ws.length = 24)
    (hmem : ∀ w ∈ ws, w ∈ list.words) (hchecksum : ChecksumMatches list ws) :
    (entropyOf list ws).length = 32 ∧ generateMnemonic list (entropyOf list ws) = some ws := by
  have hbits : (sentenceBits list ws).length = 264 := by
    rw [sentenceBits, length_writeNumbers, List.length_map, hlength]
  have htake : ((sentenceBits list ws).take 256).length = 32 * 8 := by
    rw [List.length_take, hbits]
    rfl
  have hdrop : ((sentenceBits list ws).drop 256).length = 8 := by
    rw [List.length_drop, hbits]
  have hbytes : (entropyOf list ws).map UInt8.toNat =
      readNumbers 8 ((sentenceBits list ws).take 256) := by
    rw [entropyOf, List.map_map]
    apply map_eq_self
    intro n hn
    exact UInt8.toNat_ofNat_of_lt' (readNumbers_lt (by omega) htake n hn)
  have hwritten : writeNumbers 8 ((entropyOf list ws ++
      [checksumByte (entropyOf list ws)]).map UInt8.toNat) = sentenceBits list ws := by
    rw [writeNumbers_checked, hbytes, writeNumbers_readNumbers (by omega) htake, ← hchecksum]
    have hlast := bitsOf_ofBits ((sentenceBits list ws).drop 256)
    rw [hdrop] at hlast
    rw [hlast, List.take_append_drop]
  have hfits : ∀ n ∈ ws.map list.words.idxOf, n < 2 ^ 11 := by
    intro n hn
    obtain ⟨w, hw, rfl⟩ := List.mem_map.mp hn
    exact index_lt (hmem w hw)
  constructor
  · rw [entropyOf, List.length_map, length_readNumbers (by omega) htake]
  · rw [generateMnemonic_eq, hwritten, sentenceBits, readNumbers_writeNumbers (by omega) hfits,
      mapM_words]
    exact ⟨rfl, hmem⟩

/-- What can be generated: 24 listed words whose last bits are the checksum of those before. -/
theorem generatable_iff :
    (∃ entropyBytes, entropyBytes.length = 32 ∧
        generateMnemonic list entropyBytes = some ws) ↔
      ws.length = 24 ∧ (∀ w ∈ ws, w ∈ list.words) ∧ ChecksumMatches list ws := by
  constructor
  · rintro ⟨entropyBytes, hlength, h⟩
    exact checksumMatches_of_generated hlength h
  · rintro ⟨hlength, hmem, hchecksum⟩
    exact ⟨_, generated_of_checksumMatches hlength hmem hchecksum⟩

end Checksum

/-! ## Reading against generating -/

section Reading

variable {toLowercase : String → String} {list : WordList} {words : List String}

theorem mapM_lowercase {read : List String} :
    (words.mapM fun w => do
        let lower := toLowercase w
        ensure (lower ∈ list.words) (WalletError.invalidWord lower)
        return lower) = Except.ok read ↔
      words.map toLowercase = read ∧ ∀ w ∈ words.map toLowercase, w ∈ list.words := by
  induction words generalizing read with
  | nil => simp [pure_eq_ok]
  | cons w words ih =>
      simp only [List.mapM_cons, bind_eq_ok, ensure_eq_ok, pure_eq_ok, exists_const, ih,
        List.map_cons, List.forall_mem_cons]
      constructor
      · rintro ⟨lower, ⟨hw, rfl⟩, rest, ⟨rfl, hrest⟩, rfl⟩
        exact ⟨rfl, hw, hrest⟩
      · rintro ⟨rfl, hw, hrest⟩
        exact ⟨_, ⟨hw, rfl⟩, _, ⟨rfl, hrest⟩, rfl⟩

/-- A sentence is accepted for its count and its words. -/
theorem fromWords_accepts_iff :
    (∃ mnemonic, fromWords toLowercase list words = .ok mnemonic) ↔
      words.length = 24 ∧ ∀ w ∈ words.map toLowercase, w ∈ list.words := by
  simp only [fromWords, bind_eq_ok, ensure_eq_ok, exists_const, mapM_lowercase]
  constructor
  · rintro ⟨mnemonic, hcount, -, hmem⟩
    exact ⟨hcount, hmem⟩
  · rintro ⟨hcount, hmem⟩
    exact ⟨_, hcount, rfl, hmem⟩

/-- A sentence is accepted exactly when, in lower case, some entropy generates it. -/
def AcceptanceMatches (toLowercase : String → String) (list : WordList) (words : List String) :
    Prop :=
  (∃ mnemonic, fromWords toLowercase list words = .ok mnemonic) ↔
    ∃ entropyBytes, entropyBytes.length = 32 ∧
      generateMnemonic list entropyBytes = some (words.map toLowercase)

/-- Acceptance matches generation on every sentence but those of 24 listed words with another
checksum. -/
theorem acceptanceMatches_iff (toLowercase : String → String) (list : WordList)
    (words : List String) :
    AcceptanceMatches toLowercase list words ↔
      ¬ (words.length = 24 ∧ (∀ w ∈ words.map toLowercase, w ∈ list.words) ∧
        ¬ ChecksumMatches list (words.map toLowercase)) := by
  rw [AcceptanceMatches, fromWords_accepts_iff, generatable_iff, List.length_map]
  tauto

end Reading

/-! ## One word, 24 times -/

namespace MnemonicSample

/-- A list that begins with the first word of the wallet's own list. -/
def list : WordList where
  words := "abandon" :: (List.range 2047).map toString
  count := by simp
  distinct := by
    refine List.nodup_cons.mpr ⟨?_, List.nodup_range.map fun a b h => ?_⟩
    · intro hmem
      obtain ⟨n, -, hn⟩ := List.mem_map.mp hmem
      have hletter : 'a' ∈ (toString n).toList := by
        rw [hn]
        decide
      rw [Nat.toString_eq_repr, Nat.toList_repr] at hletter
      exact absurd (Nat.isDigit_of_mem_toDigits (by omega) (by omega) hletter) (by decide)
    · exact Nat.repr_injective h

def asciiLowercase (text : String) : String := String.ofList (text.toList.map Char.toLower)

def sentence : List String := List.replicate 24 "Abandon"

end MnemonicSample

open MnemonicSample in
/-- The first word repeated is accepted, and no entropy generates it. -/
theorem repeated_word_accepted :
    (∃ mnemonic, fromWords asciiLowercase list sentence = .ok mnemonic) ∧
      ¬ ∃ entropyBytes, entropyBytes.length = 32 ∧
        generateMnemonic list entropyBytes = some (sentence.map asciiLowercase) := by
  have hlower : sentence.map asciiLowercase = List.replicate 24 "abandon" := by decide +kernel
  have hlisted : ∀ w ∈ List.replicate 24 "abandon", w ∈ list.words := by
    intro w hw
    rw [List.eq_of_mem_replicate hw]
    exact List.mem_cons_self
  constructor
  · rw [fromWords_accepts_iff, hlower]
    exact ⟨rfl, hlisted⟩
  · rw [generatable_iff, hlower]
    rintro ⟨-, -, hchecksum⟩
    have hfirst : list.words.idxOf "abandon" = 0 := List.idxOf_cons_self
    have hbits : sentenceBits list (List.replicate 24 "abandon") = List.replicate 264 false := by
      rw [sentenceBits, List.map_replicate, hfirst]
      decide +kernel
    revert hchecksum
    rw [ChecksumMatches, entropyOf, hbits]
    decide +kernel

end PoleProtocol.Node
