import PoleProtocol.Framework.BitGroups

/-!
# Bytes in base 64

Bytes are written as bits, read in groups of six, and each group is a letter; the text is padded to
a multiple of four letters.
-/

namespace PoleProtocol.Framework

def base64Alphabet : List Char :=
  "ABCDEFGHIJKLMNOPQRSTUVWXYZabcdefghijklmnopqrstuvwxyz0123456789+/".toList

def base64Letter (n : ℕ) : Char := base64Alphabet.getD n '='

/-- The bits of the bytes, filled up to groups of six. -/
def base64Bits (bytes : List UInt8) : List Bool :=
  let bits := writeNumbers 8 (bytes.map (·.toNat))
  bits ++ List.replicate ((6 - bits.length % 6) % 6) false

def base64Encode (bytes : List UInt8) : String :=
  String.ofList ((readNumbers 6 (base64Bits bytes)).map base64Letter ++
    List.replicate ((3 - bytes.length % 3) % 3) '=')

/-- The padding is not looked at, and neither are bits that make no byte. -/
def base64Decode (text : String) : Option (List UInt8) :=
  let letters := text.toList.takeWhile (· ≠ '=')
  if letters.all (· ∈ base64Alphabet) then
    let bits := writeNumbers 6 (letters.map fun c => base64Alphabet.idxOf c)
    some ((readNumbers 8 (bits.take (8 * (bits.length / 8)))).map UInt8.ofNat)
  else none

theorem base64Letter_spec : ∀ n < 64, base64Letter n ∈ base64Alphabet ∧
    base64Alphabet.idxOf (base64Letter n) = n ∧ base64Letter n ≠ '=' := by
  decide +kernel

theorem base64Decode_base64Encode (bytes : List UInt8) :
    base64Decode (base64Encode bytes) = some bytes := by
  let numbers := bytes.map (·.toNat)
  let bits := writeNumbers 8 numbers
  have hbits : bits.length = bytes.length * 8 := by
    rw [length_writeNumbers, List.length_map]
  obtain ⟨count, hcount⟩ : ∃ count, (base64Bits bytes).length = count * 6 := by
    refine ⟨(bits.length + 5) / 6, ?_⟩
    change (bits ++ List.replicate ((6 - bits.length % 6) % 6) false).length = _
    rw [List.length_append, List.length_replicate]
    omega
  have hgroups : ∀ n ∈ readNumbers 6 (base64Bits bytes), n < 64 :=
    readNumbers_lt (by omega) hcount
  have hletters : (base64Encode bytes).toList.takeWhile (· ≠ '=') =
      (readNumbers 6 (base64Bits bytes)).map base64Letter := by
    have hpadding : ∀ k, (List.replicate k '=').takeWhile (fun c => decide (c ≠ '=')) = [] := by
      intro k
      cases k with
      | zero => rfl
      | succ k => simp [List.replicate_succ]
    rw [base64Encode, String.toList_ofList, List.takeWhile_append_of_pos, hpadding,
      List.append_nil]
    intro c hc
    obtain ⟨n, hn, rfl⟩ := List.mem_map.mp hc
    simpa using (base64Letter_spec n (hgroups n hn)).2.2
  have hknown : ((readNumbers 6 (base64Bits bytes)).map base64Letter).all
      (fun c => decide (c ∈ base64Alphabet)) = true := by
    rw [List.all_map, List.all_eq_true]
    intro n hn
    simpa using (base64Letter_spec n (hgroups n hn)).1
  have hindex : (((readNumbers 6 (base64Bits bytes)).map base64Letter).map fun c =>
      base64Alphabet.idxOf c) = readNumbers 6 (base64Bits bytes) := by
    rw [List.map_map]
    exact map_eq_self fun n hn => (base64Letter_spec n (hgroups n hn)).2.1
  -- The bits that fill up the last group make no byte.
  have htake : (base64Bits bytes).take (8 * ((base64Bits bytes).length / 8)) = bits := by
    have hlength : (base64Bits bytes).length = bits.length + (6 - bits.length % 6) % 6 := by
      change (bits ++ List.replicate ((6 - bits.length % 6) % 6) false).length = _
      rw [List.length_append, List.length_replicate]
    have hcut : 8 * ((base64Bits bytes).length / 8) = bits.length := by omega
    rw [hcut]
    exact List.take_left
  have hnumbers : readNumbers 8 bits = numbers := by
    refine readNumbers_writeNumbers (by omega) fun n hn => ?_
    obtain ⟨byte, -, rfl⟩ := List.mem_map.mp hn
    exact byte.toNat_lt
  rw [base64Decode]
  dsimp only
  rw [hletters, if_pos hknown, hindex, writeNumbers_readNumbers (by omega) hcount, htake, hnumbers,
    List.map_map]
  exact congrArg some (map_eq_self fun byte _ => UInt8.ofNat_toNat)

end PoleProtocol.Framework
