import PoleProtocol.Framework.Mixing
import PoleProtocol.Ledger.Types

/-!
# The stable hash under small changes

Every lane of the hash absorbs a byte by operations that can be undone: an exclusive or, a product
by an odd word and a rotation. A lane therefore never merges two states, and the digest spells the
four lanes out byte by byte.
-/

namespace PoleProtocol.Ledger

open Framework

/-- How a lane absorbs a byte. -/
def absorb (index : ℕ) (acc : BitVec 64) (byte : UInt8) : BitVec 64 :=
  (((acc ^^^ byte.toBitVec.setWidth 64) * 0x100000001B3#64) ^^^
    (BitVec.ofNat 64 (index + 1) * 0x9e3779b9#64)).rotateLeft 5

theorem stableHashLane_eq_foldl (index : ℕ) (seed : BitVec 64) (bytes : Bytes) :
    stableHashLane index seed bytes = bytes.foldl (absorb index) seed := rfl

/-- What follows the exclusive or with the byte can be undone. -/
theorem absorb_mixed {index : ℕ} {x y : BitVec 64}
    (h : ((x * 0x100000001B3#64) ^^^ (BitVec.ofNat 64 (index + 1) * 0x9e3779b9#64)).rotateLeft 5 =
      ((y * 0x100000001B3#64) ^^^ (BitVec.ofNat 64 (index + 1) * 0x9e3779b9#64)).rotateLeft 5) :
    x = y := by
  have hprime : 0x100000001B3#64 * 0xce965057aff6957b#64 = 1#64 := by decide
  have hrotated := rotateLeft_injective (show 5 < 64 by omega) h
  have hproduct := (BitVec.xor_left_inj _).mp hrotated
  exact mul_injective_of_inverse hprime hproduct

/-- A byte never merges two states of a lane. -/
theorem absorb_state_injective (index : ℕ) (byte : UInt8) :
    Function.Injective (absorb index · byte) := by
  intro x y h
  exact (BitVec.xor_left_inj _).mp (absorb_mixed h)

/-- Two bytes never lead a lane to the same state. -/
theorem absorb_byte_injective (index : ℕ) (acc : BitVec 64) :
    Function.Injective (absorb index acc) := by
  intro a b h
  have hbyte := (BitVec.xor_right_inj _).mp (absorb_mixed h)
  have hword := congrArg (fun word : BitVec 64 => word.setWidth 8) hbyte
  rw [← UInt8.toBitVec_inj]
  simpa using hword

/-- A change of one byte changes every lane. -/
theorem stableHashLane_ne {a b : Bytes} (hlength : a.length = b.length)
    (hone : ∃! i : ℕ, a[i]? ≠ b[i]?) (index : ℕ) (seed : BitVec 64) :
    stableHashLane index seed a ≠ stableHashLane index seed b := by
  rw [stableHashLane_eq_foldl, stableHashLane_eq_foldl]
  exact foldl_ne_of_one_change (absorb_state_injective index) (absorb_byte_injective index)
    hlength hone seed

/-- Turning the bytes of a word around loses nothing. -/
theorem toLeBytes_injective : Function.Injective toLeBytes := by
  intro x y h
  unfold toLeBytes at h
  obtain ⟨h, h7⟩ := append_injective h
  obtain ⟨h, h6⟩ := append_injective h
  obtain ⟨h, h5⟩ := append_injective h
  obtain ⟨h, h4⟩ := append_injective h
  obtain ⟨h, h3⟩ := append_injective h
  obtain ⟨h, h2⟩ := append_injective h
  obtain ⟨h0, h1⟩ := append_injective h
  refine @eq_of_bytes_eq 8 x y (fun k hk => ?_)
  interval_cases k
  · exact h0
  · exact h1
  · exact h2
  · exact h3
  · exact h4
  · exact h5
  · exact h6
  · exact h7

/-- The digest determines its four lanes. -/
theorem stableHash32_lane {a b : Bytes} (h : stableHash32 a = stableHash32 b) :
    stableHashLane 0 0xcbf29ce484222325#64 a = stableHashLane 0 0xcbf29ce484222325#64 b := by
  unfold stableHash32 at h
  obtain ⟨h, -⟩ := append_injective h
  obtain ⟨h, -⟩ := append_injective h
  obtain ⟨h, -⟩ := append_injective h
  exact toLeBytes_injective h

/-- Byte strings of one length that differ in exactly one position have different digests. -/
theorem stableHash32_ne_of_one_change {a b : Bytes} (hlength : a.length = b.length)
    (hone : ∃! i : ℕ, a[i]? ≠ b[i]?) : stableHash32 a ≠ stableHash32 b := by
  intro h
  exact stableHashLane_ne hlength hone 0 _ (stableHash32_lane h)

/-- The theorem at the three-byte strings `pol` and `pon`. -/
theorem stableHash32_pol_pon : stableHash32 [112, 111, 108] ≠ stableHash32 [112, 111, 110] := by
  refine stableHash32_ne_of_one_change rfl ⟨2, by decide, fun i hi => ?_⟩
  rcases i with - | - | - | i
  · exact absurd rfl hi
  · exact absurd rfl hi
  · rfl
  · exact absurd rfl hi

end PoleProtocol.Ledger
