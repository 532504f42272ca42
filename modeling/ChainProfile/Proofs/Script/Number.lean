import Mathlib.Algebra.Group.Int.Defs
import ChainProfile.Proofs.LittleEndian
import ChainProfile.Script

/-! Numbers in scripts, read back. The top bit of the last byte is the sign and the other bits are the
magnitude, so `n + 1` bytes stand for the numbers below `2 ^ 7 * 256 ^ n` on both sides of zero.
A number is written in as few bytes as that allows: a byte for the sign alone is added only where
the magnitude needs the top bit for itself. -/

namespace ChainProfile.Script

def isNegative : Bytes → Bool
  | [] => false
  | [b] => 0x80 ≤ b.toNat
  | _ :: c :: rest => isNegative (c :: rest)

def unsigned : Bytes → Nat
  | [] => 0
  | [b] => b.toNat % 0x80
  | b :: c :: rest => b.toNat + 256 * unsigned (c :: rest)

def readNumber (bs : Bytes) : Int :=
  if isNegative bs then -(unsigned bs : Int) else unsigned bs

theorem natAbs_readNumber (bs : Bytes) : (readNumber bs).natAbs = unsigned bs := by
  rw [readNumber]
  split
  · rw [Int.natAbs_neg, Int.natAbs_natCast]
  · rw [Int.natAbs_natCast]

theorem unsigned_lt (b : UInt8) (rest : Bytes) : unsigned (b :: rest) < 0x80 * 256 ^ rest.length := by
  induction rest generalizing b with
  | nil =>
    rw [unsigned, List.length_nil]
    omega
  | cons c rest ih =>
    have byte := b.toNat_lt
    have more := ih c
    rw [unsigned, List.length_cons, Nat.pow_succ]
    omega

theorem value_magnitude (n : Nat) : Bytes.value (magnitude n) = n := by
  fun_induction magnitude n with
  | case1 => rfl
  | case2 n some ih =>
    rw [Bytes.value, ih, UInt8.toNat_ofNat']
    omega

theorem withSign_ne_nil (negative : Bool) (b : UInt8) (rest : Bytes) :
    withSign negative (b :: rest) ≠ [] := by
  cases rest with
  | nil =>
    rw [withSign]
    split <;> simp
  | cons c rest => simp [withSign]

theorem isNegative_cons (b : UInt8) {bs : Bytes} (more : bs ≠ []) :
    isNegative (b :: bs) = isNegative bs := by
  cases bs with
  | nil => exact absurd rfl more
  | cons c rest => rfl

theorem unsigned_cons (b : UInt8) {bs : Bytes} (more : bs ≠ []) :
    unsigned (b :: bs) = b.toNat + 256 * unsigned bs := by
  cases bs with
  | nil => exact absurd rfl more
  | cons c rest => rfl

theorem toNat_or_sign {b : UInt8} (low : b < 0x80) : (b ||| 0x80).toNat = 0x80 + b.toNat := by
  have bound : b.toNat < 2 ^ 7 := UInt8.lt_iff_toNat_lt.mp low
  rw [UInt8.toNat_or, Nat.or_comm]
  exact (Nat.two_pow_add_eq_or_of_lt bound 1).symm

theorem unsigned_withSign (negative : Bool) (bs : Bytes) :
    unsigned (withSign negative bs) = Bytes.value bs := by
  fun_induction withSign negative bs with
  | case1 => rfl
  | case2 b mark low =>
    have bound : b.toNat < 0x80 := UInt8.lt_iff_toNat_lt.mp low
    rw [unsigned, Bytes.value, Bytes.value]
    cases negative with
    | true =>
      have marked : (b ||| mark).toNat = 0x80 + b.toNat := toNat_or_sign low
      omega
    | false =>
      have plain : b ||| mark = b := UInt8.or_zero
      rw [plain]
      omega
  | case3 b mark high =>
    have clear : mark.toNat % 0x80 = 0 := by cases negative <;> simp [mark]
    rw [unsigned, unsigned, clear]
    rfl
  | case4 b c rest ih =>
    rw [unsigned_cons b (withSign_ne_nil negative c rest), ih]
    rfl

theorem isNegative_withSign (negative : Bool) (b : UInt8) (rest : Bytes) :
    isNegative (withSign negative (b :: rest)) = negative := by
  induction rest generalizing b with
  | nil =>
    rw [withSign]
    split
    · rename_i low
      have bound : b.toNat < 0x80 := UInt8.lt_iff_toNat_lt.mp low
      cases negative with
      | true => simp [isNegative, toNat_or_sign low]
      | false => simp [isNegative, bound]
    · cases negative <;> rfl
  | cons c rest ih =>
    rw [withSign, isNegative_cons b (withSign_ne_nil negative c rest)]
    exact ih c

theorem readNumber_withSign (negative : Bool) (bs : Bytes) :
    readNumber (withSign negative bs) =
      if negative then -(Bytes.value bs : Int) else Bytes.value bs := by
  cases bs with
  | nil => cases negative <;> rfl
  | cons b rest => rw [readNumber, isNegative_withSign, unsigned_withSign]

theorem readNumber_number (n : Int64) : readNumber (number n) = n.toInt := by
  have sign : n < 0 ↔ n.toInt < 0 := Int64.lt_iff_toInt_lt
  rw [number, readNumber_withSign, value_magnitude]
  split <;> grind

theorem length_withSign_le (negative : Bool) : (bs : Bytes) →
    (withSign negative bs).length ≤ bs.length + 1
  | [] => Nat.zero_le 1
  | [b] => by
    rw [withSign]
    split <;> simp
  | b :: c :: rest => Nat.succ_le_succ (length_withSign_le negative (c :: rest))

theorem length_withSign_magnitude_le (negative : Bool) {k n : Nat} (bound : n < 0x80 * 256 ^ k) :
    (withSign negative (magnitude n)).length ≤ k + 1 := by
  induction k generalizing n with
  | zero =>
    rw [magnitude]
    split
    · exact Nat.zero_le 1
    · have byte : n < 256 := by omega
      have low : UInt8.ofNat n < 0x80 := by
        rw [UInt8.lt_iff_toNat_lt, UInt8.toNat_ofNat_of_lt' byte]
        exact bound
      have top : n / 256 = 0 := by omega
      rw [top, magnitude, if_pos rfl, withSign, if_pos low]
      exact Nat.le_refl 1
  | succ k ih =>
    rw [Nat.pow_succ] at bound
    have upper := ih (n := n / 256) (by omega)
    rw [magnitude]
    split
    · exact Nat.zero_le _
    · cases digits : magnitude (n / 256) with
      | nil =>
        have two := length_withSign_le negative [UInt8.ofNat n]
        exact Nat.le_trans two (Nat.le_add_left 2 k)
      | cons c rest =>
        rw [digits] at upper
        exact Nat.succ_le_succ upper

theorem length_number_le_of_readNumber {n : Int64} {form : Bytes}
    (same : readNumber form = n.toInt) : (number n).length ≤ form.length := by
  have size := natAbs_readNumber form
  rw [same] at size
  cases form with
  | nil =>
    rw [number, size, unsigned, magnitude, if_pos rfl]
    exact Nat.zero_le 0
  | cons b rest =>
    have bound := unsigned_lt b rest
    rw [← size] at bound
    exact length_withSign_magnitude_le _ bound

theorem length_number_le (n : Int64) : (number n).length ≤ 9 := by
  have low := n.le_toInt
  have high := n.toInt_lt
  exact length_withSign_magnitude_le (k := 8) _ (by omega)

theorem number_inj {m n : Int64} (same : number m = number n) : m = n := by
  apply Int64.toInt_inj.mp
  rw [← readNumber_number m, same, readNumber_number]

/-- The bytes of a number read as that number, no fewer bytes do, and there are nine at the most. -/
theorem shortest_number (n : Int64) :
    readNumber (number n) = n.toInt ∧
      (∀ form, readNumber form = n.toInt → (number n).length ≤ form.length) ∧
      (number n).length ≤ 9 ∧ ∀ m, number m = number n → m = n :=
  ⟨readNumber_number n, fun _ => length_number_le_of_readNumber, length_number_le n,
    fun _ => number_inj⟩

theorem shortest_number_signed :
    number .minValue = [0, 0, 0, 0, 0, 0, 0, 0x80, 0x80] ∧
      readNumber (number .minValue) = -2 ^ 63 ∧
      number (-128) = [0x80, 0x80] ∧
      readNumber [0x80, 0x00, 0x80] = (-128 : Int64).toInt ∧ (number (-128)).length ≤ 3 := by
  have nonzero : (0 : Int64) ≠ .minValue := by decide
  have least : number .minValue = [0, 0, 0, 0, 0, 0, 0, 0x80, 0x80] := by
    simp [number, magnitude, withSign, nonzero]
  have taken : number (-128) = [0x80, 0x80] := by simp [number, magnitude, withSign]
  have spare : readNumber [0x80, 0x00, 0x80] = (-128 : Int64).toInt := rfl
  exact ⟨least, (shortest_number .minValue).1, taken, spare,
    (shortest_number (-128)).2.1 [0x80, 0x00, 0x80] spare⟩

end ChainProfile.Script
