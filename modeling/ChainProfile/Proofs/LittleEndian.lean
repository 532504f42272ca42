import Mathlib.Algebra.Group.Nat.Defs
import ChainProfile.Hash256

/-! The numbers that byte strings write. A string of `n` bytes is below `256 ^ n` and `le` keeps
a number modulo that bound, so a hash is a number modulo `2 ^ 256` and agrees with the 256-bit word
that targets are compared as. -/

namespace ChainProfile

namespace Bytes

theorem value_le (width n : Nat) : value (le width n) = n % 256 ^ width := by
  induction width generalizing n with
  | zero => simp [le, value, Nat.mod_one]
  | succ width ih =>
    rw [le, value, ih, Nat.pow_succ, Nat.mul_comm (256 ^ width), Nat.mod_mul]
    simp

theorem value_lt (bs : Bytes) : value bs < 256 ^ bs.length := by
  induction bs with
  | nil => simp [value]
  | cons b bs ih =>
    have hb := b.toNat_lt
    rw [value, List.length_cons, Nat.pow_succ]
    omega

theorem value_append (xs ys : Bytes) :
    value (xs ++ ys) = value xs + 256 ^ xs.length * value ys := by
  induction xs with
  | nil => simp [value]
  | cons x xs ih =>
    rw [List.cons_append, value, value, ih, List.length_cons, Nat.pow_succ,
      Nat.mul_comm (256 ^ xs.length) 256, Nat.mul_add, Nat.mul_assoc, Nat.add_assoc]

end Bytes

namespace Hash256

theorem value_lt (h : Hash256) : h.value < 2 ^ 256 := by
  have bound := Bytes.value_lt h.bytes
  rw [h.length_bytes] at bound
  exact bound

theorem value_ofNat (n : Nat) : (ofNat n).value = n % 2 ^ 256 :=
  Bytes.value_le 32 n

@[simp] theorem toNat_toBitVec (h : Hash256) : h.toBitVec.toNat = h.value := by
  simp only [toBitVec, BitVec.toNat_ofNat]
  exact Nat.mod_eq_of_lt h.value_lt

@[simp] theorem value_ofBitVec (v : BitVec 256) : (ofBitVec v).value = v.toNat := by
  rw [ofBitVec, value_ofNat]
  exact Nat.mod_eq_of_lt v.isLt

@[simp] theorem toBitVec_ofBitVec (v : BitVec 256) : (ofBitVec v).toBitVec = v := by
  apply BitVec.eq_of_toNat_eq
  rw [toNat_toBitVec, value_ofBitVec]

end Hash256

end ChainProfile
