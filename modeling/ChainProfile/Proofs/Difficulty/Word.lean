import Mathlib.Algebra.Order.Floor.Semifield
import Mathlib.Data.Nat.Bitwise
import Mathlib.Data.Rat.Floor
import ChainProfile.Difficulty

/-! What a compact word stands for. The three fields are digits of the word's number, and the
mantissa counts in units of `256 ^ (size - 3)`, a fraction below size three. A word is refused as
negative or as too large for 256 bits, and any other stands for the whole part of that product. -/

namespace ChainProfile.Difficulty

section fields

variable (bits word : UInt32)

theorem size_eq : size bits = bits.toNat / 2 ^ 24 := by
  rw [size, UInt32.toNat_shiftRight]
  exact Nat.shiftRight_eq_div_pow bits.toNat 24

theorem mantissa_eq : mantissa bits = bits.toNat % 2 ^ 23 := by
  rw [mantissa, UInt32.toNat_and]
  exact Nat.and_two_pow_sub_one_eq_mod bits.toNat 23

theorem hasSign_eq : hasSign bits = bits.toNat.testBit 23 := by
  have masked : (bits &&& 0x00800000).toNat = (bits.toNat.testBit 23).toNat * 2 ^ 23 := by
    rw [UInt32.toNat_and]
    exact Nat.and_two_pow bits.toNat 23
  cases set : bits.toNat.testBit 23 with
  | false =>
    rw [set] at masked
    have unset : bits &&& 0x00800000 = 0 := UInt32.toNat_inj.mp masked
    simp [hasSign, unset]
  | true =>
    rw [set] at masked
    have kept : bits &&& 0x00800000 = 0x00800000 := UInt32.toNat_inj.mp masked
    rw [hasSign, kept]
    rfl

theorem mantissa_lt : mantissa bits < 2 ^ 23 := by
  rw [mantissa_eq]
  exact Nat.mod_lt _ (Nat.two_pow_pos 23)

theorem toNat_fields :
    bits.toNat = size bits * 2 ^ 24 + (hasSign bits).toNat * 2 ^ 23 + mantissa bits := by
  have sign := Nat.toNat_testBit bits.toNat 23
  rw [hasSign_eq, sign, size_eq, mantissa_eq]
  omega

variable {bits} in
theorem fields_eq {s m : Nat} (parts : bits.toNat = s * 2 ^ 24 + m) (bound : m < 2 ^ 23) :
    size bits = s ∧ hasSign bits = false ∧ mantissa bits = m := by
  have number := toNat_fields bits
  have sized := size_eq bits
  have rest := mantissa_eq bits
  cases set : hasSign bits with
  | false => exact ⟨by omega, rfl, by omega⟩
  | true =>
    rw [set, Bool.toNat_true] at number
    omega

theorem toNat_pack {s : Nat} (fits : s < 2 ^ 8) :
    (pack s word).toNat = s * 2 ^ 24 + mantissa word := by
  have high : (UInt32.ofNat s <<< 24).toNat = s <<< 24 := by
    rw [UInt32.toNat_shiftLeft, UInt32.toNat_ofNat_of_lt' (Nat.lt_trans fits (by decide))]
    refine Nat.mod_eq_of_lt ?_
    change s <<< 24 < 2 ^ 32
    omega
  have low : (word &&& 0x007fffff).toNat < 2 ^ 24 :=
    Nat.lt_trans (mantissa_lt word) (by decide)
  rw [pack, UInt32.toNat_or, high, ← Nat.shiftLeft_add_eq_or_of_lt low, Nat.shiftLeft_eq]
  rfl

end fields

/-- The whole part of a mantissa in units of `256 ^ (size - 3)`. -/
def amount (size mantissa : Nat) : Nat := mantissa * 256 ^ size / 256 ^ 3

section amount

variable {s m : Nat}

theorem unit_pos (s : Nat) : 0 < 256 ^ s := Nat.pow_pos (by decide)

theorem amount_eq_div (small : s ≤ 3) (m : Nat) : amount s m = m / 256 ^ (3 - s) := by
  rw [amount, ← Nat.pow_sub_mul_pow 256 small]
  exact Nat.mul_div_mul_right m _ (unit_pos s)

theorem amount_eq_mul (large : 3 ≤ s) (m : Nat) : amount s m = m * 256 ^ (s - 3) := by
  rw [amount, ← Nat.pow_sub_mul_pow 256 large, ← Nat.mul_assoc]
  exact Nat.mul_div_cancel _ (unit_pos 3)

theorem amount_lt_of_le (small : s ≤ 32) (bound : m < 2 ^ 23) : amount s m < 2 ^ 256 := by
  refine Nat.div_lt_of_lt_mul ?_
  calc m * 256 ^ s < 2 ^ 23 * 256 ^ s := Nat.mul_lt_mul_of_pos_right bound (unit_pos s)
    _ ≤ 2 ^ 23 * 256 ^ 32 := Nat.mul_le_mul_left _ (Nat.pow_le_pow_right (by decide) small)
    _ ≤ 256 ^ 3 * 2 ^ 256 := by decide

theorem overflows_iff (large : 3 < s) (bound : m < 2 ^ 23) :
    overflows s m = true ↔ 2 ^ 256 ≤ amount s m := by
  obtain rfl | positive := Nat.eq_zero_or_pos m
  · simp [overflows, amount]
  simp only [overflows, Bool.and_eq_true, Bool.or_eq_true, bne_iff_ne, decide_eq_true_iff]
  have units := amount_eq_mul (Nat.le_of_lt large) m
  obtain small | rfl | rfl | huge : s ≤ 32 ∨ s = 33 ∨ s = 34 ∨ 35 ≤ s := by omega
  · have fits := amount_lt_of_le small bound
    omega
  · omega
  · omega
  · have step : 1 * 256 ^ 32 ≤ m * 256 ^ (s - 3) :=
      Nat.mul_le_mul positive (Nat.pow_le_pow_right (by decide) (by omega))
    omega

end amount

theorem expand_eq (bits : UInt32) :
    expand bits =
      if hasSign bits = true ∧ mantissa bits ≠ 0 then .error .negative
      else if 2 ^ 256 ≤ amount (size bits) (mantissa bits) then .error .overflow
      else .ok (BitVec.ofNat 256 (amount (size bits) (mantissa bits))) := by
  have bound := mantissa_lt bits
  rw [expand]
  refine if_congr Iff.rfl rfl ?_
  by_cases small : size bits ≤ 3
  · have fits := amount_lt_of_le (Nat.le_trans small (by decide)) bound
    rw [if_pos small, if_neg (Nat.not_le.mpr fits), amount_eq_div small, Nat.shiftRight_eq_div_pow,
      Nat.pow_mul]
  · have large : 3 < size bits := Nat.not_le.mp small
    have shifted : BitVec.ofNat 256 (mantissa bits) <<< (8 * (size bits - 3)) =
        BitVec.ofNat 256 (amount (size bits) (mantissa bits)) := by
      apply BitVec.eq_of_toNat_eq
      rw [BitVec.toNat_shiftLeft, Nat.shiftLeft_eq, BitVec.toNat_ofNat, BitVec.toNat_ofNat,
        Nat.mod_mul_mod, Nat.pow_mul, amount_eq_mul (Nat.le_of_lt large)]
    rw [if_neg small, shifted]
    exact if_congr (overflows_iff large bound) rfl rfl

section expand

variable {bits : UInt32}

theorem expand_eq_negative :
    expand bits = .error .negative ↔ hasSign bits = true ∧ mantissa bits ≠ 0 := by
  rw [expand_eq]
  split_ifs with negative high
  · exact iff_of_true rfl negative
  · exact iff_of_false nofun negative
  · exact iff_of_false nofun negative

theorem expand_eq_overflow :
    expand bits = .error .overflow ↔
      ¬(hasSign bits = true ∧ mantissa bits ≠ 0) ∧
        2 ^ 256 ≤ amount (size bits) (mantissa bits) := by
  rw [expand_eq]
  split_ifs with negative high
  · exact iff_of_false nofun fun overflow => overflow.1 negative
  · exact iff_of_true rfl ⟨negative, high⟩
  · exact iff_of_false nofun fun overflow => high overflow.2

theorem expand_eq_ok {x : Target} :
    expand bits = .ok x ↔
      ¬(hasSign bits = true ∧ mantissa bits ≠ 0) ∧
        x.toNat = amount (size bits) (mantissa bits) := by
  have fits := x.isLt
  rw [expand_eq]
  split_ifs with negative high
  · exact iff_of_false nofun fun whole => whole.1 negative
  · exact iff_of_false nofun fun whole => by omega
  · have low := Nat.not_le.mp high
    rw [Except.ok.injEq, ← BitVec.toNat_inj, BitVec.toNat_ofNat, Nat.mod_eq_of_lt low, eq_comm]
    exact (and_iff_right negative).symm

end expand

/-- The mantissa times `256 ^ (size - 3)`, with the fraction that a size below three leaves. -/
def scaled (bits : UInt32) : ℚ := mantissa bits * 256 ^ ((size bits : ℤ) - 3)

section scaled

variable (bits : UInt32)

theorem scaled_eq_div :
    scaled bits = ((mantissa bits * 256 ^ size bits : ℕ) : ℚ) / ((256 ^ 3 : ℕ) : ℚ) := by
  rw [scaled, zpow_sub₀ (by decide), zpow_natCast, ← mul_div_assoc]
  norm_cast

theorem floor_scaled : ⌊scaled bits⌋₊ = amount (size bits) (mantissa bits) := by
  rw [scaled_eq_div, Nat.floor_div_eq_div, amount]

theorem le_scaled_iff : 2 ^ 256 ≤ scaled bits ↔ 2 ^ 256 ≤ amount (size bits) (mantissa bits) := by
  rw [← floor_scaled, Nat.le_floor_iff' (by decide)]
  norm_cast

theorem scaled_eq_amount {bits : UInt32} (large : 3 ≤ size bits) :
    scaled bits = amount (size bits) (mantissa bits) := by
  have exponent : (size bits : ℤ) - 3 = (size bits - 3 : ℕ) := by omega
  rw [scaled, exponent, zpow_natCast, amount_eq_mul large]
  norm_cast

/-- Each of the three answers, by the fields and the scaled mantissa alone. From size three on the
answer is the scaled mantissa itself: shifting it back gives every bit of the mantissa. -/
theorem expand_iff_scaled :
    (bits.toNat = size bits * 2 ^ 24 + (hasSign bits).toNat * 2 ^ 23 + mantissa bits ∧
        mantissa bits < 2 ^ 23) ∧
      (expand bits = .error .negative ↔ hasSign bits = true ∧ mantissa bits ≠ 0) ∧
      (expand bits = .error .overflow ↔
        ¬(hasSign bits = true ∧ mantissa bits ≠ 0) ∧ 2 ^ 256 ≤ scaled bits) ∧
      (∀ x, expand bits = .ok x ↔
        ¬(hasSign bits = true ∧ mantissa bits ≠ 0) ∧ scaled bits < 2 ^ 256 ∧
          x.toNat = ⌊scaled bits⌋₊) ∧
      (∀ x, 3 ≤ size bits → expand bits = .ok x →
        (x.toNat : ℚ) = scaled bits ∧ x.toNat >>> (8 * (size bits - 3)) = mantissa bits) := by
  refine ⟨⟨toNat_fields bits, mantissa_lt bits⟩, expand_eq_negative, ?_, fun x => ?_,
    fun x large expands => ?_⟩
  · rw [expand_eq_overflow, le_scaled_iff]
  · rw [expand_eq_ok, floor_scaled, ← not_le, le_scaled_iff]
    have fits := x.isLt
    exact and_congr_right fun _ => ⟨fun same => ⟨by omega, same⟩, And.right⟩
  · have whole : x.toNat = amount (size bits) (mantissa bits) := (expand_eq_ok.mp expands).2
    constructor
    · rw [whole, scaled_eq_amount large]
    · rw [whole, amount_eq_mul large, Nat.shiftRight_eq_div_pow, Nat.pow_mul]
      exact Nat.mul_div_cancel (mantissa bits) (unit_pos _)

theorem expand_iff_scaled_largest :
    3 ≤ size 0x220000ff ∧ expand 0x220000ff = .ok (BitVec.ofNat 256 (0xff * 256 ^ 31)) ∧
      ((BitVec.ofNat 256 (0xff * 256 ^ 31)).toNat : ℚ) = scaled 0x220000ff ∧
      (BitVec.ofNat 256 (0xff * 256 ^ 31)).toNat >>> (8 * (size 0x220000ff - 3)) =
        mantissa 0x220000ff := by
  have large : 3 ≤ size 0x220000ff := by decide
  have expands : expand 0x220000ff = .ok (BitVec.ofNat 256 (0xff * 256 ^ 31)) := by rfl
  exact ⟨large, expands, (expand_iff_scaled 0x220000ff).2.2.2.2 _ large expands⟩

end scaled

end ChainProfile.Difficulty
