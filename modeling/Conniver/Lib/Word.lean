import Mathlib.Data.Nat.Bitwise

/-!
Fields packed into a 32-bit word by shifts and ors, and read back by masks and shifts: a
16-bit high field, then two 8-bit fields. An or of fields whose bits do not overlap is their
sum, so the packed word is an integer in base `2 ^ 8`, and each mask reads one digit.
-/

namespace Word

theorem toNat_pack (hi mid lo : UInt32) (hmid : mid.toNat < 2 ^ 8) (hlo : lo.toNat < 2 ^ 8)
    : (hi <<< 16 ||| mid <<< 8 ||| lo).toNat =
        hi.toNat % 2 ^ 16 * 2 ^ 16 + mid.toNat * 2 ^ 8 + lo.toNat := by
  -- the shift by 16 drops the bits of `hi` above 16; write it as two shifts by 8
  have hhi : (hi <<< 16).toNat = ((hi.toNat % 2 ^ 16) <<< 8) <<< 8 := by
    rw [UInt32.toNat_shiftLeft, Nat.shiftLeft_eq, Nat.shiftLeft_eq, Nat.shiftLeft_eq]
    simp only [UInt32.reduceToNat, Nat.reduceMod, Nat.reducePow]
    omega
  have hmid' : (mid <<< 8).toNat = mid.toNat <<< 8 := by
    rw [UInt32.toNat_shiftLeft, Nat.shiftLeft_eq, Nat.shiftLeft_eq]
    simp only [UInt32.reduceToNat, Nat.reduceMod, Nat.reducePow] at hmid ⊢
    omega
  rw [UInt32.toNat_or, UInt32.toNat_or, hhi, hmid', ← Nat.shiftLeft_or_distrib,
    ← Nat.shiftLeft_add_eq_or_of_lt hmid, ← Nat.shiftLeft_add_eq_or_of_lt hlo]
  simp only [Nat.shiftLeft_eq, Nat.reducePow]
  omega

theorem toNat_and_0xFF (x : UInt32) : (x &&& 0xFF).toNat = x.toNat % 2 ^ 8 := by
  rw [UInt32.toNat_and, ← Nat.and_two_pow_sub_one_eq_mod]
  rfl

theorem toNat_and_0xFF00_shiftRight (x : UInt32)
    : ((x &&& 0xFF00) >>> 8).toNat = x.toNat / 2 ^ 8 % 2 ^ 8 := by
  rw [UInt32.toNat_shiftRight, UInt32.toNat_and, Nat.shiftRight_and_distrib,
    ← Nat.and_two_pow_sub_one_eq_mod, Nat.shiftRight_eq_div_pow]
  rfl

theorem toNat_and_0xFFFF0000_shiftRight (x : UInt32)
    : ((x &&& 0xFFFF0000) >>> 16).toNat = x.toNat / 2 ^ 16 % 2 ^ 16 := by
  rw [UInt32.toNat_shiftRight, UInt32.toNat_and, Nat.shiftRight_and_distrib,
    ← Nat.and_two_pow_sub_one_eq_mod, Nat.shiftRight_eq_div_pow]
  rfl

end Word
