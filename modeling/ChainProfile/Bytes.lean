/-! Byte strings and their little-endian numbers. `le width n` writes the low `width` bytes
of `n`, least first, and `value` reads a byte string of any length; each undoes the other as far
as the width goes. Signed words are written as the unsigned word with the same bits. -/

namespace ChainProfile

abbrev Bytes := List UInt8

namespace Bytes

def le : (width : Nat) → (n : Nat) → Bytes
  | 0, _ => []
  | width + 1, n => UInt8.ofNat n :: le width (n / 256)

def be (width n : Nat) : Bytes := (le width n).reverse

def value : Bytes → Nat
  | [] => 0
  | b :: bs => b.toNat + 256 * value bs

@[simp] theorem length_le (width n : Nat) : (le width n).length = width := by
  induction width generalizing n with
  | zero => rfl
  | succ width ih => simp [le, ih]

@[simp] theorem length_be (width n : Nat) : (be width n).length = width := by
  simp [be]

theorem le_value (bs : Bytes) : le bs.length (value bs) = bs := by
  induction bs with
  | nil => rfl
  | cons b bs ih =>
    have hb := b.toNat_lt
    have tail : (b.toNat + 256 * value bs) / 256 = value bs := by omega
    have head : UInt8.ofNat (b.toNat + 256 * value bs) = b := by
      apply UInt8.toNat_inj.mp
      simp only [UInt8.toNat_ofNat']
      omega
    rw [List.length_cons, value, le, tail, ih, head]

def u16 (n : UInt16) : Bytes := le 2 n.toNat

def u32 (n : UInt32) : Bytes := le 4 n.toNat

def u64 (n : UInt64) : Bytes := le 8 n.toNat

def i32 (n : Int32) : Bytes := u32 n.toUInt32

def i64 (n : Int64) : Bytes := u64 n.toUInt64

@[simp] theorem length_u16 (n : UInt16) : (u16 n).length = 2 := length_le 2 _

@[simp] theorem length_u32 (n : UInt32) : (u32 n).length = 4 := length_le 4 _

@[simp] theorem length_u64 (n : UInt64) : (u64 n).length = 8 := length_le 8 _

@[simp] theorem length_i32 (n : Int32) : (i32 n).length = 4 := length_u32 _

@[simp] theorem length_i64 (n : Int64) : (i64 n).length = 8 := length_u64 _

def utf8 (s : String) : Bytes := s.toUTF8.data.toList

end Bytes

end ChainProfile
