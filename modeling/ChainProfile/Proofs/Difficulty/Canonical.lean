import Mathlib.Data.Nat.Log
import ChainProfile.Proofs.Difficulty.Word

/-! The canonical word of a number. Its size is the one at which the mantissa fills at least sixteen
of its 23 bits, and the mantissa is the number in that size's units, cut to a whole number of them.
Counting bytes and moving down a leading byte that would set the sign bit comes to the same size. -/

namespace ChainProfile.Difficulty

/-- The size whose units make the mantissa at least `2 ^ 15` and less than `2 ^ 23`. -/
def canonicalSize (n : Nat) : Nat := Nat.log 256 (2 ^ 9 * n)

def canonicalMantissa (n : Nat) : Nat := n * 256 ^ 3 / 256 ^ canonicalSize n

section fields

variable {n k s m : Nat}

theorem pow_canonicalSize_le (positive : 0 < n) : 256 ^ canonicalSize n ≤ 2 ^ 9 * n :=
  Nat.pow_log_le_self 256 (by omega)

theorem lt_succ_canonicalSize (n : Nat) : 2 ^ 9 * n < 256 ^ (canonicalSize n + 1) :=
  Nat.lt_pow_succ_log_self (by decide) _

theorem canonicalSize_mono (le : n ≤ k) : canonicalSize n ≤ canonicalSize k :=
  Nat.log_mono_right (Nat.mul_le_mul_left _ le)

theorem canonicalMantissa_lt (n : Nat) : canonicalMantissa n < 2 ^ 23 := by
  have high := lt_succ_canonicalSize n
  refine Nat.div_lt_of_lt_mul ?_
  rw [Nat.pow_succ] at high
  omega

theorem le_canonicalMantissa (positive : 0 < n) : 2 ^ 15 ≤ canonicalMantissa n := by
  have low := pow_canonicalSize_le positive
  refine (Nat.le_div_iff_mul_le (unit_pos _)).mpr ?_
  omega

theorem canonicalMantissa_mul_le (n : Nat) :
    canonicalMantissa n * 256 ^ canonicalSize n ≤ n * 256 ^ 3 :=
  Nat.div_mul_le_self _ _

theorem dvd_canonicalMantissa_mul (n : Nat) :
    256 ^ 3 ∣ canonicalMantissa n * 256 ^ canonicalSize n := by
  obtain small | large := Nat.le_total (canonicalSize n) 3
  · have whole : 256 ^ canonicalSize n ∣ n * 256 ^ 3 :=
      Nat.dvd_mul_left_of_dvd (Nat.pow_dvd_pow 256 small) n
    rw [canonicalMantissa, Nat.div_mul_cancel whole]
    exact Nat.dvd_mul_left _ _
  · exact Nat.dvd_mul_left_of_dvd (Nat.pow_dvd_pow 256 large) _

theorem canonical_amount (filled : 2 ^ 15 ≤ m) (bound : m < 2 ^ 23) (whole : 256 ^ 3 ∣ m * 256 ^ s) :
    canonicalSize (amount s m) = s ∧ canonicalMantissa (amount s m) = m := by
  have product : amount s m * 256 ^ 3 = m * 256 ^ s := Nat.div_mul_cancel whole
  have low : 2 ^ 15 * 256 ^ s ≤ m * 256 ^ s := Nat.mul_le_mul_right _ filled
  have high : m * 256 ^ s < 2 ^ 23 * 256 ^ s :=
    Nat.mul_lt_mul_of_pos_right bound (unit_pos s)
  have own : canonicalSize (amount s m) = s := by
    refine Nat.log_eq_of_pow_le_of_lt_pow (by omega) ?_
    rw [Nat.pow_succ]
    omega
  refine ⟨own, ?_⟩
  rw [canonicalMantissa, own, product]
  exact Nat.mul_div_cancel m (unit_pos s)

end fields

section leading

variable {n : Nat}

theorem leading_eq (n s : Nat) : leading n s = n * 256 ^ 3 / 256 ^ s := by
  rw [leading]
  split
  · rename_i small
    rw [← Nat.pow_sub_mul_pow 256 small, ← Nat.mul_assoc, Nat.mul_div_cancel _ (unit_pos s),
      Nat.shiftLeft_eq, Nat.pow_mul]
  · rename_i large
    rw [← Nat.pow_sub_mul_pow 256 (Nat.le_of_not_le large), Nat.mul_div_mul_right n _ (unit_pos 3),
      Nat.shiftRight_eq_div_pow, Nat.pow_mul]

theorem leading_succ (n s : Nat) : leading n (s + 1) = leading n s / 256 := by
  rw [leading_eq, leading_eq, Nat.div_div_eq_div_mul, Nat.pow_succ 256 s]

theorem lt_pow_byteLength (n : Nat) : n < 256 ^ byteLength n := by
  refine Nat.lt_of_lt_of_le (Nat.lt_log2_self (n := n)) ?_
  change 2 ^ (n.log2 + 1) ≤ (2 ^ 8) ^ byteLength n
  rw [← Nat.pow_mul, byteLength]
  exact Nat.pow_le_pow_right (by decide) (by omega)

theorem pow_byteLength_le (positive : 0 < n) : 256 ^ byteLength n ≤ 2 ^ 8 * n := by
  have low : 256 ^ (n.log2 / 8) ≤ n := by
    change (2 ^ 8) ^ (n.log2 / 8) ≤ n
    rw [← Nat.pow_mul]
    exact Nat.le_trans (Nat.pow_le_pow_right (by decide) (Nat.mul_div_le _ _))
      (Nat.log2_self_le (by omega))
  rw [byteLength, Nat.pow_succ]
  omega

theorem leading_lt (n : Nat) : leading n (byteLength n) < 2 ^ 24 := by
  have below := lt_pow_byteLength n
  rw [leading_eq]
  refine Nat.div_lt_of_lt_mul ?_
  omega

theorem canonicalSize_of_lt (positive : 0 < n) (free : leading n (byteLength n) < 2 ^ 23) :
    canonicalSize n = byteLength n := by
  have atLeast := pow_byteLength_le positive
  rw [leading_eq, Nat.div_lt_iff_lt_mul (unit_pos _)] at free
  refine Nat.log_eq_of_pow_le_of_lt_pow (by omega) ?_
  rw [Nat.pow_succ]
  omega

theorem canonicalSize_of_le (top : 2 ^ 23 ≤ leading n (byteLength n)) :
    canonicalSize n = byteLength n + 1 := by
  have below := lt_pow_byteLength n
  rw [leading_eq, Nat.le_div_iff_mul_le (unit_pos _)] at top
  refine Nat.log_eq_of_pow_le_of_lt_pow ?_ ?_
  all_goals
    simp only [Nat.pow_succ] at below top ⊢
    omega

end leading

section compress

variable {v : Target}

theorem compress_eq (positive : 0 < v.toNat) :
    compress v = pack (canonicalSize v.toNat) (UInt32.ofNat (canonicalMantissa v.toNat)) := by
  have nonzero : v ≠ 0 := by
    rintro rfl
    exact Nat.lt_irrefl 0 positive
  have bound := leading_lt v.toNat
  have word : (UInt32.ofNat (leading v.toNat (byteLength v.toNat))).toNat =
      leading v.toNat (byteLength v.toNat) :=
    UInt32.toNat_ofNat_of_lt' (Nat.lt_trans bound (by decide))
  have top : hasSign (UInt32.ofNat (leading v.toNat (byteLength v.toNat))) = true ↔
      2 ^ 23 ≤ leading v.toNat (byteLength v.toNat) := by
    rw [hasSign_eq, word, Nat.testBit_eq_decide_div_mod_eq, decide_eq_true_iff]
    omega
  rw [compress, if_neg nonzero, canonicalMantissa, ← leading_eq]
  dsimp only
  split
  · rename_i set
    rw [canonicalSize_of_le (top.mp set), leading_succ]
    congr 1
    apply UInt32.toNat_inj.mp
    have fits : leading v.toNat (byteLength v.toNat) / 256 < UInt32.size :=
      Nat.lt_of_le_of_lt (Nat.div_le_self _ _) (Nat.lt_trans bound (by decide))
    rw [UInt32.toNat_shiftRight, word, UInt32.toNat_ofNat_of_lt' fits]
    exact Nat.shiftRight_eq_div_pow _ 8
  · rename_i unset
    rw [canonicalSize_of_lt positive (Nat.not_le.mp (mt top.mpr unset))]

variable (v)

theorem toNat_compress :
    (compress v).toNat = canonicalSize v.toNat * 2 ^ 24 + canonicalMantissa v.toNat := by
  obtain zero | positive := Nat.eq_zero_or_pos v.toNat
  · obtain rfl : v = 0 := BitVec.eq_of_toNat_eq zero
    simp [compress, canonicalSize, canonicalMantissa]
  have fits : canonicalSize v.toNat < 34 := by
    refine Nat.log_lt_of_lt_pow (by omega) ?_
    omega
  have bound := canonicalMantissa_lt v.toNat
  have kept : (UInt32.ofNat (canonicalMantissa v.toNat)).toNat = canonicalMantissa v.toNat :=
    UInt32.toNat_ofNat_of_lt' (Nat.lt_trans bound (by decide))
  rw [compress_eq positive, toNat_pack _ (Nat.lt_trans fits (by decide)), mantissa_eq, kept,
    Nat.mod_eq_of_lt bound]

theorem fields_compress :
    size (compress v) = canonicalSize v.toNat ∧ hasSign (compress v) = false ∧
      mantissa (compress v) = canonicalMantissa v.toNat :=
  fields_eq (toNat_compress v) (canonicalMantissa_lt v.toNat)

end compress

/-- Zero, or a word without the sign whose mantissa is filled and, in sizes below three, has no bits
that its number leaves out. -/
def Canonical (bits : UInt32) : Prop :=
  bits = 0 ∨
    hasSign bits = false ∧ 0x8000 ≤ mantissa bits ∧
      (size bits < 3 → mantissa bits % 2 ^ (8 * (3 - size bits)) = 0)

instance : DecidablePred Canonical := fun _ => inferInstanceAs (Decidable (_ ∨ _ ∧ _ ∧ (_ → _)))

example : Canonical 0x02008000 ∧ ¬Canonical 0x02008001 ∧ ¬Canonical 0x01800000 := by decide

theorem low_eq_zero_iff {s m : Nat} :
    (s < 3 → m % 2 ^ (8 * (3 - s)) = 0) ↔ 256 ^ 3 ∣ m * 256 ^ s := by
  obtain small | large := Nat.lt_or_ge s 3
  · rw [← Nat.pow_sub_mul_pow 256 (Nat.le_of_lt small), Nat.mul_dvd_mul_iff_right (unit_pos s),
      Nat.dvd_iff_mod_eq_zero, Nat.pow_mul]
    exact ⟨fun low => low small, fun low _ => low⟩
  · refine iff_of_true (fun small => absurd small (Nat.not_lt.mpr large)) ?_
    exact Nat.dvd_mul_left_of_dvd (Nat.pow_dvd_pow 256 large) m

theorem canonical_compress (v : Target) : Canonical (compress v) := by
  obtain ⟨own, unsigned, rest⟩ := fields_compress v
  obtain zero | positive := Nat.eq_zero_or_pos v.toNat
  · obtain rfl : v = 0 := BitVec.eq_of_toNat_eq zero
    exact .inl rfl
  · rw [Canonical, own, rest, low_eq_zero_iff]
    exact .inr ⟨unsigned, le_canonicalMantissa positive, dvd_canonicalMantissa_mul v.toNat⟩

theorem compress_of_canonical {bits : UInt32} {x : Target} (expands : expand bits = .ok x)
    (canonical : Canonical bits) : compress x = bits := by
  obtain rfl | ⟨unsigned, filled, low⟩ := canonical
  · obtain rfl : 0 = x := Except.ok.inj expands
    rfl
  · have number := toNat_fields bits
    have whole := (expand_eq_ok.mp expands).2
    obtain ⟨own, rest⟩ := canonical_amount filled (mantissa_lt bits) (low_eq_zero_iff.mp low)
    apply UInt32.toNat_inj.mp
    rw [toNat_compress, whole, own, rest, number, unsigned]
    simp

end ChainProfile.Difficulty
