import PoleProtocol.Framework.Protobuf
import PoleProtocol.Ledger.Types

/-!
# The encoding of messages

The node writes the messages it sends to the chain by hand: the tags, the lengths and the numbers
byte by byte, and every field of a message, whether or not its value is the default. What it writes
are the fields of the wire format.
-/

namespace PoleProtocol.Node

open Framework Framework.Protobuf Ledger

/-- A message with the name of its type, as a transaction holds it. -/
structure AnyMessage where
  typeUrl : String
  value : Bytes

/-- The length of a buffer is a word. -/
def AnyMessage.Fits (message : AnyMessage) : Prop := message.value.length < 2 ^ 64

/-! ## The helpers -/

theorem toNat_shiftRight_seven (value : UInt64) : (value >>> 7).toNat = value.toNat / 128 := by
  rw [UInt64.toNat_shiftRight, Nat.shiftRight_eq_div_pow]
  rfl

def encodeVarint (value : UInt64) : Bytes :=
  if 0x80 ≤ value then ((value.toUInt8 &&& 0x7F) ||| 0x80) :: encodeVarint (value >>> 7)
  else [value.toUInt8]
termination_by value.toNat
decreasing_by
  have hlarge : 128 ≤ value.toNat := by simpa [UInt64.le_iff_toNat_le] using ‹0x80 ≤ value›
  rw [toNat_shiftRight_seven]
  omega

def encodeTag (fieldNumber wireType : UInt32) : Bytes :=
  encodeVarint ((fieldNumber <<< 3) ||| (wireType &&& 0x7)).toUInt64

def encodeBytes (fieldNumber : UInt32) (value : Bytes) : Bytes :=
  encodeTag fieldNumber 2 ++ encodeVarint (UInt64.ofNat value.length) ++ value

def encodeString (fieldNumber : UInt32) (value : String) : Bytes :=
  encodeBytes fieldNumber value.toUTF8.toList

def encodeUint64 (fieldNumber : UInt32) (value : UInt64) : Bytes :=
  encodeTag fieldNumber 0 ++ encodeVarint value

def encodeUint32 (fieldNumber value : UInt32) : Bytes :=
  encodeTag fieldNumber 0 ++ encodeVarint value.toUInt64

/-- A negative number is extended by its sign. -/
def encodeInt32 (fieldNumber : UInt32) (value : Int32) : Bytes :=
  encodeTag fieldNumber 0 ++ encodeVarint value.toInt64.toUInt64

def encodeInt64 (fieldNumber : UInt32) (value : Int64) : Bytes :=
  encodeTag fieldNumber 0 ++ encodeVarint value.toUInt64

/-! ## What the helpers write -/

theorem listed_word (value : UInt64) {number : ℕ} (hpos : 0 < number) (hlt : number < 2 ^ 29) :
    (WireField.ofNumber number value.toNat).Listed := listed_ofNumber hpos hlt value.toNat_lt

theorem listed_halfWord (value : UInt32) {number : ℕ} (hpos : 0 < number)
    (hlt : number < 2 ^ 29) : (WireField.ofNumber number value.toNat).Listed :=
  listed_ofNumber hpos hlt (lt_trans value.toNat_lt (by norm_num))

theorem digit_toNat (value : UInt64) :
    ((value.toUInt8 &&& 0x7F) ||| 0x80).toNat = value.toNat % 128 + 128 := by
  have hlow : value.toNat % 2 ^ 8 &&& 127 = value.toNat % 2 ^ 8 % 128 :=
    Nat.and_two_pow_sub_one_eq_mod _ 7
  have hor := Nat.two_pow_add_eq_or_of_lt (i := 7) (b := value.toNat % 2 ^ 8 % 128) (by omega) 1
  rw [UInt8.toNat_or, UInt8.toNat_and, UInt64.toNat_toUInt8]
  change (value.toNat % 2 ^ 8 &&& 127) ||| 128 = _
  rw [hlow, Nat.or_comm]
  change 2 ^ 7 * 1 ||| _ = _
  rw [← hor]
  omega

theorem encodeVarint_eq (value : UInt64) : encodeVarint value = varint value.toNat := by
  fun_induction encodeVarint value with
  | case1 value hle ih =>
      have hlarge : 128 ≤ value.toNat := by simpa [UInt64.le_iff_toNat_le] using hle
      have hdigit : (value.toUInt8 &&& 0x7F) ||| 0x80 = UInt8.ofNat (value.toNat % 128 + 128) := by
        have hbyte : (value.toNat % 128 + 128) % 2 ^ 8 = value.toNat % 128 + 128 :=
          Nat.mod_eq_of_lt (by omega)
        refine UInt8.toNat_inj.mp ?_
        rw [digit_toNat, UInt8.toNat_ofNat', hbyte]
      rw [varint_of_le hlarge, ih, toNat_shiftRight_seven, hdigit]
  | case2 value hlt =>
      have hsmall : value.toNat < 128 := by
        simpa [UInt64.lt_iff_toNat_lt] using UInt64.not_le.mp hlt
      rw [varint_of_lt hsmall]
      rfl

section Fields

variable {fieldNumber : UInt32}

theorem encodeTag_eq {wireType : UInt32} (hnumber : fieldNumber.toNat < 2 ^ 29)
    (htype : wireType.toNat < 8) :
    encodeTag fieldNumber wireType = varint (8 * fieldNumber.toNat + wireType.toNat) := by
  have hlow : wireType.toNat &&& 7 = wireType.toNat % 8 := Nat.and_two_pow_sub_one_eq_mod _ 3
  have hor := Nat.two_pow_add_eq_or_of_lt (i := 3) (b := wireType.toNat) htype fieldNumber.toNat
  have htag : ((fieldNumber <<< 3) ||| (wireType &&& 0x7)).toUInt64.toNat =
      8 * fieldNumber.toNat + wireType.toNat := by
    rw [UInt32.toNat_toUInt64, UInt32.toNat_or, UInt32.toNat_shiftLeft, UInt32.toNat_and]
    change (fieldNumber.toNat <<< 3 % 2 ^ 32) ||| (wireType.toNat &&& 7) = _
    rw [hlow, Nat.mod_eq_of_lt htype, Nat.shiftLeft_eq, Nat.mod_eq_of_lt (by omega), Nat.mul_comm]
    exact hor.symm
  rw [encodeTag, encodeVarint_eq, htag]

theorem encodeUint64_eq (hnumber : fieldNumber.toNat < 2 ^ 29) (value : UInt64) :
    encodeUint64 fieldNumber value =
      WireField.encode ⟨fieldNumber.toNat, .varint value.toNat⟩ := by
  rw [encodeUint64, encodeTag_eq hnumber (by decide), encodeVarint_eq]
  rfl

theorem encodeUint32_eq (hnumber : fieldNumber.toNat < 2 ^ 29) (value : UInt32) :
    encodeUint32 fieldNumber value =
      WireField.encode ⟨fieldNumber.toNat, .varint value.toNat⟩ := by
  rw [encodeUint32, encodeTag_eq hnumber (by decide), encodeVarint_eq]
  rfl

theorem encodeInt32_eq (hnumber : fieldNumber.toNat < 2 ^ 29) (value : Int32) :
    encodeInt32 fieldNumber value =
      WireField.encode ⟨fieldNumber.toNat, .varint value.toInt64.toUInt64.toNat⟩ := by
  rw [encodeInt32, encodeTag_eq hnumber (by decide), encodeVarint_eq]
  rfl

theorem encodeInt64_eq (hnumber : fieldNumber.toNat < 2 ^ 29) (value : Int64) :
    encodeInt64 fieldNumber value =
      WireField.encode ⟨fieldNumber.toNat, .varint value.toUInt64.toNat⟩ := by
  rw [encodeInt64, encodeTag_eq hnumber (by decide), encodeVarint_eq]
  rfl

theorem AnyMessage.Fits.length_lt {message : AnyMessage} {fields : List WireField}
    (hfits : message.Fits) (hvalue : message.value = encodeFields fields) :
    (encodeFields fields).length < 2 ^ 64 := by
  rw [← hvalue]
  exact hfits

/-- The length in front of the bytes is theirs, as long as it is a word. -/
theorem encodeBytes_eq (hnumber : fieldNumber.toNat < 2 ^ 29) {value : Bytes}
    (hlength : value.length < 2 ^ 64) :
    encodeBytes fieldNumber value = WireField.encode ⟨fieldNumber.toNat, .content value⟩ := by
  have hword : (UInt64.ofNat value.length).toNat = value.length := by
    rw [UInt64.toNat_ofNat', Nat.mod_eq_of_lt hlength]
  rw [encodeBytes, encodeTag_eq hnumber (by decide), encodeVarint_eq, hword, List.append_assoc]
  rfl

theorem length_lt_encodeBytes (fieldNumber : UInt32) (value : Bytes) :
    value.length < (encodeBytes fieldNumber value).length := by
  have hpos := List.length_pos_iff.mpr (varint_ne_nil (UInt64.ofNat value.length).toNat)
  rw [encodeBytes, encodeVarint_eq (UInt64.ofNat value.length), List.length_append,
    List.length_append]
  omega

/-- In a message whose length is a word, so is the length of what a part of it embeds. -/
theorem embedded_length_lt (fieldNumber : UInt32) {parts : List Bytes} {value : Bytes}
    (hfits : parts.flatten.length < 2 ^ 64) (hmem : encodeBytes fieldNumber value ∈ parts) :
    value.length < 2 ^ 64 := by
  have hpart : (encodeBytes fieldNumber value).length ≤ parts.flatten.length :=
    (List.sublist_flatten_of_mem hmem).length_le
  have hvalue := length_lt_encodeBytes fieldNumber value
  omega

end Fields

end PoleProtocol.Node
