import FrameLog.Checksum
import Mathlib.Algebra.Group.Nat.Defs

/-!
# Burst errors and the checksum

Shifting a bit out of the remainder is linear in exclusive or and loses nothing, so two
remainders that differ still differ after equal octets. The polynomial's highest bit shows
whether a set bit was shifted out: while a remainder stays small, only zeros were.

Main statement: octets that differ only within four consecutive ones never have the same
checksum, wherever these stand and whatever surrounds them.
-/

set_option autoImplicit false

namespace FrameLog

namespace Checksum

/-! ## One bit -/

private theorem toNat_low_bit (remainder : UInt32) :
    (remainder &&& 1).toNat = remainder.toNat % 2 := by
  rw [UInt32.toNat_and]
  exact Nat.and_one_is_mod _

private theorem low_bit_clear_or_set (remainder : UInt32) :
    remainder &&& 1 = 0 ∨ remainder &&& 1 = 1 := by
  rcases Nat.mod_two_eq_zero_or_one remainder.toNat with clear | set
  · left
    rw [← UInt32.toNat_inj, toNat_low_bit, clear]
    rfl
  · right
    rw [← UInt32.toNat_inj, toNat_low_bit, set]
    rfl

private theorem shift_of_clear {remainder : UInt32} (clear : remainder &&& 1 = 0) :
    shift remainder = remainder >>> 1 := by
  rw [shift, clear]
  rfl

private theorem shift_of_set {remainder : UInt32} (set : remainder &&& 1 = 1) :
    shift remainder = (remainder >>> 1) ^^^ polynomial :=
  if_pos set

theorem shift_xor (left right : UInt32) :
    shift (left ^^^ right) = shift left ^^^ shift right := by
  have lowBits : (left ^^^ right) &&& 1 = (left &&& 1) ^^^ (right &&& 1) := by
    rw [← UInt32.toNat_inj]
    simp only [UInt32.toNat_and, UInt32.toNat_xor]
    exact Nat.and_xor_distrib_right
  have halves : (left ^^^ right) >>> 1 = (left >>> 1) ^^^ (right >>> 1) :=
    UInt32.shiftRight_xor
  rcases low_bit_clear_or_set left with leftClear | leftSet
  · rcases low_bit_clear_or_set right with rightClear | rightSet
    · rw [leftClear, rightClear] at lowBits
      rw [shift_of_clear lowBits, shift_of_clear leftClear, shift_of_clear rightClear, halves]
    · rw [leftClear, rightSet] at lowBits
      rw [shift_of_set lowBits, shift_of_clear leftClear, shift_of_set rightSet, halves,
        UInt32.xor_assoc]
  · rcases low_bit_clear_or_set right with rightClear | rightSet
    · rw [leftSet, rightClear] at lowBits
      rw [shift_of_set lowBits, shift_of_set leftSet, shift_of_clear rightClear, halves,
        UInt32.xor_assoc, UInt32.xor_assoc, UInt32.xor_comm polynomial]
    · rw [leftSet, rightSet] at lowBits
      rw [shift_of_clear lowBits, shift_of_set leftSet, shift_of_set rightSet, halves,
        UInt32.xor_comm (right >>> 1), UInt32.xor_assoc, ← UInt32.xor_assoc polynomial,
        UInt32.xor_self, UInt32.zero_xor]

private theorem toNat_half (remainder : UInt32) :
    (remainder >>> 1).toNat = remainder.toNat / 2 := by
  rw [UInt32.toNat_shiftRight]
  exact Nat.shiftRight_eq_div_pow _ 1

/-- A remainder whose highest bit is clear had a zero shifted out of it. -/
theorem toNat_of_shift_small {remainder : UInt32}
    (small : (shift remainder).toNat < 2 ^ 31) :
    remainder.toNat = 2 * (shift remainder).toNat := by
  have bound := remainder.toNat_lt
  rcases low_bit_clear_or_set remainder with clear | set
  · have even : remainder.toNat % 2 = 0 := by
      rw [← toNat_low_bit, clear]
      rfl
    rw [shift_of_clear clear, toNat_half]
    omega
  · have half : (remainder >>> 1).toNat < 2 ^ 31 := by
      rw [toNat_half]
      omega
    rw [shift_of_set set] at small
    have cancelled : (remainder >>> 1) ^^^ ((remainder >>> 1) ^^^ polynomial) = polynomial := by
      rw [← UInt32.xor_assoc, UInt32.xor_self, UInt32.zero_xor]
    have lost : polynomial.toNat < 2 ^ 31 := by
      rw [← cancelled, UInt32.toNat_xor]
      exact Nat.xor_lt_two_pow half small
    exact absurd lost (by decide)

/-! ## Several bits -/

theorem shifts_xor (count : Nat) (left right : UInt32) :
    shifts count (left ^^^ right) = shifts count left ^^^ shifts count right := by
  induction count generalizing left right with
  | zero => rfl
  | succ count ih => rw [shifts, shift_xor, ih, shifts, shifts]

theorem toNat_of_shifts_small {count room : Nat} (fits : count + room ≤ 32)
    {remainder : UInt32} (small : (shifts count remainder).toNat < 2 ^ room) :
    remainder.toNat = 2 ^ count * (shifts count remainder).toNat := by
  induction count generalizing remainder with
  | zero => rw [shifts, Nat.pow_zero, Nat.one_mul]
  | succ count ih =>
      rw [shifts] at small ⊢
      have shifted := ih (by omega) small
      have below : (shift remainder).toNat < 2 ^ 31 := by
        calc (shift remainder).toNat
            = 2 ^ count * (shifts count (shift remainder)).toNat := shifted
          _ < 2 ^ count * 2 ^ room := Nat.mul_lt_mul_of_pos_left small (Nat.two_pow_pos count)
          _ = 2 ^ (count + room) := (Nat.pow_add 2 count room).symm
          _ ≤ 2 ^ 31 := Nat.pow_le_pow_right (by decide) (by omega)
      rw [toNat_of_shift_small below, shifted, ← Nat.mul_assoc, Nat.pow_succ, Nat.mul_comm 2]

/-! ## Octets -/

/-- How two remainders differ after an octet each depends on their differences only. -/
theorem absorb_xor_absorb (left right : UInt32) (first second : UInt8) :
    absorb left first ^^^ absorb right second =
      shifts 8 ((left ^^^ right) ^^^ (first.toUInt32 ^^^ second.toUInt32)) := by
  rw [absorb, absorb, ← shifts_xor]
  congr 1
  rw [UInt32.xor_assoc, ← UInt32.xor_assoc first.toUInt32, UInt32.xor_comm first.toUInt32,
    UInt32.xor_assoc right, ← UInt32.xor_assoc]

private theorem octets_xor_lt (first second : UInt8) :
    (first.toUInt32 ^^^ second.toUInt32).toNat < 2 ^ 8 := by
  rw [UInt32.toNat_xor]
  exact Nat.xor_lt_two_pow first.toNat_lt second.toNat_lt

theorem toNat_of_absorb_small {left right : UInt32} {first second : UInt8} {octets : Nat}
    (few : octets ≤ 3)
    (small : (absorb left first ^^^ absorb right second).toNat < 2 ^ (8 * octets)) :
    ((left ^^^ right) ^^^ (first.toUInt32 ^^^ second.toUInt32)).toNat =
      2 ^ 8 * (absorb left first ^^^ absorb right second).toNat := by
  rw [absorb_xor_absorb] at small ⊢
  exact toNat_of_shifts_small (by omega) small

/-- Equal octets never make two remainders equal that differ. -/
theorem eq_of_foldl_absorb_eq {left right : UInt32} {octets : Bytes}
    (agree : octets.foldl absorb left = octets.foldl absorb right) : left = right := by
  induction octets generalizing left right with
  | nil => exact agree
  | cons octet octets ih =>
      have absorbed : absorb left octet = absorb right octet := ih agree
      have small : (absorb left octet ^^^ absorb right octet).toNat < 2 ^ (8 * 0) := by
        rw [absorbed, UInt32.xor_self]
        decide
      have difference := toNat_of_absorb_small (Nat.zero_le 3) small
      rw [absorbed, UInt32.xor_self, UInt32.xor_self, UInt32.xor_zero] at difference
      exact UInt32.xor_eq_zero_iff.mp (UInt32.toNat_inj.mp difference)

/-- Remainders that up to four octets each can make equal differ in no more octets. -/
theorem xor_lt_of_foldl_absorb_eq {left right : UInt32} {old new : Bytes}
    (sameLength : old.length = new.length) (short : old.length ≤ 4)
    (agree : old.foldl absorb left = new.foldl absorb right) :
    (left ^^^ right).toNat < 2 ^ (8 * old.length) := by
  induction old generalizing left right new with
  | nil =>
      cases new with
      | nil =>
          rw [show left = right from agree, UInt32.xor_self]
          decide
      | cons second new => cases sameLength
  | cons first old ih =>
      cases new with
      | nil => cases sameLength
      | cons second new =>
          rw [List.length_cons] at short ⊢
          have small := ih (Nat.succ.inj sameLength) (by omega) agree
          have difference := toNat_of_absorb_small (by omega) small
          have octets := octets_xor_lt first second
          have wider : 2 ^ 8 ≤ 2 ^ (8 * (old.length + 1)) :=
            Nat.pow_le_pow_right (by decide) (by omega)
          have restored : left ^^^ right =
              ((left ^^^ right) ^^^ (first.toUInt32 ^^^ second.toUInt32)) ^^^
                (first.toUInt32 ^^^ second.toUInt32) := by
            rw [UInt32.xor_assoc, UInt32.xor_self, UInt32.xor_zero]
          rw [restored, UInt32.toNat_xor, difference]
          apply Nat.xor_lt_two_pow
          · rw [Nat.mul_add, Nat.add_comm, Nat.pow_add]
            exact Nat.mul_lt_mul_of_pos_left small (by decide)
          · omega

/-- From one remainder, up to four octets lead to different ones if they differ. -/
theorem eq_of_short_foldl_absorb_eq {remainder : UInt32} {old new : Bytes}
    (sameLength : old.length = new.length) (short : old.length ≤ 4)
    (agree : old.foldl absorb remainder = new.foldl absorb remainder) : old = new := by
  induction old generalizing remainder new with
  | nil =>
      cases new with
      | nil => rfl
      | cons second new => cases sameLength
  | cons first old ih =>
      cases new with
      | nil => cases sameLength
      | cons second new =>
          rw [List.length_cons] at short
          have sameRest := Nat.succ.inj sameLength
          have small := xor_lt_of_foldl_absorb_eq sameRest (by omega) agree
          have difference := toNat_of_absorb_small (by omega) small
          have octets := octets_xor_lt first second
          rw [UInt32.xor_self, UInt32.zero_xor] at difference
          have absorbed : absorb remainder first = absorb remainder second := by
            rw [← UInt32.xor_eq_zero_iff, ← UInt32.toNat_inj]
            change _ = 0
            omega
          have sameOctet : first = second := by
            rw [absorbed, UInt32.xor_self] at difference
            have equal := UInt32.xor_eq_zero_iff.mp (UInt32.toNat_inj.mp difference)
            exact UInt8.toNat_inj.mp (UInt32.toNat_inj.mpr equal)
          rw [List.foldl_cons, List.foldl_cons, ← absorbed] at agree
          rw [sameOctet, ih sameRest (by omega) agree]

/-! ## Whole checksums -/

/-- A burst of up to four octets always shows in the checksum. -/
theorem crc32_ne_of_burst {old new : Bytes} (sameLength : old.length = new.length)
    (short : old.length ≤ 4) (changed : old ≠ new) (front behind : Bytes) :
    crc32 (front ++ (old ++ behind)) ≠ crc32 (front ++ (new ++ behind)) := by
  intro agree
  rw [crc32, crc32, UInt32.xor_left_inj] at agree
  simp only [List.foldl_append] at agree
  exact changed (eq_of_short_foldl_absorb_eq sameLength short (eq_of_foldl_absorb_eq agree))

end Checksum

/-! ## Checksums of frames -/

theorem frameChecksum_ne_of_tag {tag other : UInt8} (changed : tag ≠ other) (payload : Bytes) :
    frameChecksum tag payload ≠ frameChecksum other payload := by
  have sameLength : [tag].length = [other].length := rfl
  have short : [tag].length ≤ 4 := by simp
  have differ : [tag] ≠ [other] := by simpa using changed
  exact Checksum.crc32_ne_of_burst sameLength short differ [] _

theorem frameChecksum_ne_of_burst (tag : UInt8) {old new : Bytes}
    (sameLength : old.length = new.length) (short : old.length ≤ 4) (changed : old ≠ new)
    (front behind : Bytes) :
    frameChecksum tag (front ++ (old ++ behind)) ≠
      frameChecksum tag (front ++ (new ++ behind)) := by
  have stored : storedLength (front ++ (old ++ behind)) =
      storedLength (front ++ (new ++ behind)) := by
    simp only [storedLength, List.length_append, sameLength]
  have differ := Checksum.crc32_ne_of_burst sameLength short changed
    (tag :: (Bytes.ofWord (storedLength (front ++ (new ++ behind))) ++ front)) behind
  rw [frameChecksum, frameChecksum, stored]
  simpa only [List.cons_append, List.append_assoc] using differ

end FrameLog
