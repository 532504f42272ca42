import ChainProfile.Proofs.Difficulty.Canonical
import ChainProfile.Proofs.ProofOfWork

/-! Writing a number as a compact word rounds it down. No word stands for a number between the
rounded one and the number itself, so rounding keeps the order of numbers, the words it writes are
ordered as their numbers are, and a word comes back from its own number exactly if it is canonical. -/

namespace ChainProfile.Difficulty

/-- What is left of a number in its canonical word. -/
def rounded (n : Nat) : Nat := amount (canonicalSize n) (canonicalMantissa n)

section rounded

variable {n k s m : Nat}

theorem rounded_mul (n : Nat) :
    rounded n * 256 ^ 3 = canonicalMantissa n * 256 ^ canonicalSize n :=
  Nat.div_mul_cancel (dvd_canonicalMantissa_mul n)

theorem rounded_le (n : Nat) : rounded n ≤ n := by
  have cut := canonicalMantissa_mul_le n
  rw [← rounded_mul] at cut
  exact Nat.le_of_mul_le_mul_right cut (by decide)

theorem rounded_pos (positive : 0 < n) : 0 < rounded n := by
  have filled := le_canonicalMantissa positive
  have product : 0 < canonicalMantissa n * 256 ^ canonicalSize n :=
    Nat.mul_pos (by omega) (unit_pos _)
  rw [← rounded_mul] at product
  omega

theorem amount_le_rounded (bound : m < 2 ^ 23) (below : amount s m ≤ n) :
    amount s m ≤ rounded n := by
  have product : amount s m * 256 ^ 3 ≤ m * 256 ^ s := Nat.div_mul_le_self _ _
  suffices scaled : amount s m * 256 ^ 3 ≤ rounded n * 256 ^ 3 from
    Nat.le_of_mul_le_mul_right scaled (by decide)
  rw [rounded_mul]
  obtain smaller | larger := Nat.lt_or_ge s (canonicalSize n)
  · have positive : 0 < n := Nat.pos_of_ne_zero fun zero => by
      simp [zero, canonicalSize] at smaller
    calc amount s m * 256 ^ 3 ≤ m * 256 ^ s := product
      _ ≤ 2 ^ 23 * 256 ^ s := Nat.mul_le_mul_right _ (Nat.le_of_lt bound)
      _ = 2 ^ 15 * 256 ^ (s + 1) := by rw [Nat.pow_succ]; omega
      _ ≤ 2 ^ 15 * 256 ^ canonicalSize n :=
        Nat.mul_le_mul_left _ (Nat.pow_le_pow_right (by decide) smaller)
      _ ≤ canonicalMantissa n * 256 ^ canonicalSize n :=
        Nat.mul_le_mul_right _ (le_canonicalMantissa positive)
  · have whole : 256 ^ canonicalSize n ∣ amount s m * 256 ^ 3 := by
      obtain small | large := Nat.le_total s 3
      · exact Nat.dvd_mul_left_of_dvd (Nat.pow_dvd_pow 256 (Nat.le_trans larger small)) _
      · rw [amount, Nat.div_mul_cancel (Nat.dvd_mul_left_of_dvd (Nat.pow_dvd_pow 256 large) m)]
        exact Nat.dvd_mul_left_of_dvd (Nat.pow_dvd_pow 256 larger) m
    calc amount s m * 256 ^ 3
        = amount s m * 256 ^ 3 / 256 ^ canonicalSize n * 256 ^ canonicalSize n :=
          (Nat.div_mul_cancel whole).symm
      _ ≤ canonicalMantissa n * 256 ^ canonicalSize n :=
        Nat.mul_le_mul_right _ (Nat.div_le_div_right (Nat.mul_le_mul_right _ below))

theorem rounded_mono (le : n ≤ k) : rounded n ≤ rounded k :=
  amount_le_rounded (canonicalMantissa_lt n) (Nat.le_trans (rounded_le n) le)

theorem rounded_amount (bound : m < 2 ^ 23) (s : Nat) : rounded (amount s m) = amount s m :=
  Nat.le_antisymm (rounded_le _) (amount_le_rounded bound (Nat.le_refl _))

theorem canonical_rounded (n : Nat) :
    canonicalSize (rounded n) = canonicalSize n ∧
      canonicalMantissa (rounded n) = canonicalMantissa n := by
  obtain rfl | positive := Nat.eq_zero_or_pos n
  · decide
  · exact canonical_amount (le_canonicalMantissa positive) (canonicalMantissa_lt n)
      (dvd_canonicalMantissa_mul n)

end rounded

section compress

variable {v w : Target} {bits : UInt32}

theorem expand_compress (v : Target) :
    ∃ x, expand (compress v) = .ok x ∧ x.toNat = rounded v.toNat := by
  obtain ⟨own, unsigned, rest⟩ := fields_compress v
  have fits : rounded v.toNat < 2 ^ 256 := Nat.lt_of_le_of_lt (rounded_le _) v.isLt
  have value : (BitVec.ofNat 256 (rounded v.toNat)).toNat = rounded v.toNat := by
    rw [BitVec.toNat_ofNat, Nat.mod_eq_of_lt fits]
  refine ⟨BitVec.ofNat 256 (rounded v.toNat), expand_eq_ok.mpr ⟨?_, ?_⟩, value⟩
  · simp [unsigned]
  · rw [value, own, rest, rounded]

theorem rounded_of_expand (expands : expand bits = .ok v) : rounded v.toNat = v.toNat := by
  rw [(expand_eq_ok.mp expands).2]
  exact rounded_amount (mantissa_lt bits) (size bits)

theorem expand_compress_of_expand (expands : expand bits = .ok v) :
    expand (compress v) = .ok v := by
  obtain ⟨x, again, value⟩ := expand_compress v
  obtain rfl : x = v := BitVec.eq_of_toNat_eq (value.trans (rounded_of_expand expands))
  exact again

theorem compress_mono (le : v.toNat ≤ w.toNat) : compress v ≤ compress w := by
  have sizes := canonicalSize_mono le
  have bound := canonicalMantissa_lt v.toNat
  rw [UInt32.le_iff_toNat_le, toNat_compress, toNat_compress]
  obtain same | less := Nat.eq_or_lt_of_le sizes
  · have rest : canonicalMantissa v.toNat ≤ canonicalMantissa w.toNat := by
      rw [canonicalMantissa, canonicalMantissa, same]
      exact Nat.div_le_div_right (Nat.mul_le_mul_right _ le)
    omega
  · omega

theorem rounded_lt_of_compress_lt (lt : compress v < compress w) :
    rounded v.toNat < rounded w.toNat := by
  have order : v.toNat ≤ w.toNat := by
    refine Nat.le_of_not_lt fun above => ?_
    exact UInt32.not_le.mpr lt (compress_mono (Nat.le_of_lt above))
  refine Nat.lt_of_le_of_ne (rounded_mono order) fun same => ?_
  have left := canonical_rounded v.toNat
  have right := canonical_rounded w.toNat
  rw [same] at left
  have words : compress v = compress w := by
    apply UInt32.toNat_inj.mp
    rw [toNat_compress, toNat_compress, ← left.1, ← left.2, right.1, right.2]
  rw [words] at lt
  exact UInt32.lt_irrefl _ lt

theorem compactToTarget_targetToCompact (target : Hash256) :
    ∃ x, compactToTarget (targetToCompact target) = .ok x ∧ x.value = rounded target.value := by
  obtain ⟨x, expands, value⟩ := expand_compress target.toBitVec
  refine ⟨Hash256.ofBitVec x, compactToTarget_eq_ok.mpr ⟨x, expands, rfl⟩, ?_⟩
  rw [Hash256.value_ofBitVec, value, Hash256.toNat_toBitVec]

end compress

/-- The written word stands for the greatest number of any word that is not above the given one, and
a target within the limit is still accepted after it was written as a word. -/
theorem compress_greatest :
    (∀ v : Target, ∃ w, expand (compress v) = .ok w ∧ w ≤ v ∧
      (∀ bits' w', expand bits' = .ok w' → w' ≤ v → w' ≤ w) ∧ (w = 0 ↔ v = 0)) ∧
    ∀ limit target : Hash256, 0 < target.value → target.value ≤ limit.value →
      ∃ reached, checkedTarget (targetToCompact target) limit = .ok reached := by
  constructor
  · intro v
    obtain ⟨w, expands, value⟩ := expand_compress v
    refine ⟨w, expands, ?_, fun bits' w' other below => ?_, ?_⟩
    · rw [BitVec.le_def, value]
      exact rounded_le v.toNat
    · rw [BitVec.le_def, value, ← rounded_of_expand other]
      exact rounded_mono (BitVec.le_def.mp below)
    · have cut := rounded_le v.toNat
      have kept : 0 < v.toNat → 0 < rounded v.toNat := rounded_pos
      rw [← BitVec.toNat_inj, ← BitVec.toNat_inj, value]
      change rounded v.toNat = 0 ↔ v.toNat = 0
      omega
  · intro limit target positive within
    obtain ⟨reached, reads, value⟩ := compactToTarget_targetToCompact target
    refine ⟨reached, checkedTarget_eq_ok.mpr ⟨reads, ?_⟩⟩
    rw [value]
    exact ⟨rounded_pos positive, Nat.le_trans (rounded_le _) within⟩

theorem compress_greatest_signByte :
    (∃ w, expand (compress 0x8012345678) = .ok w ∧
      expand 0x06008011 = .ok 0x8011000000 ∧ (0x8011000000 : Target) ≤ 0x8012345678 ∧
        0x8011000000 ≤ w) ∧
      0 < (Hash256.ofNat (2 ^ 256 - 1)).value ∧
      ∃ reached, checkedTarget (targetToCompact (.ofNat (2 ^ 256 - 1))) (.ofNat (2 ^ 256 - 1)) =
        .ok reached := by
  have below : (0x8011000000 : Target) ≤ 0x8012345678 := by decide
  have positive : 0 < (Hash256.ofNat (2 ^ 256 - 1)).value := by decide
  obtain ⟨w, expands, _, greatest, _⟩ := compress_greatest.1 0x8012345678
  exact ⟨⟨w, expands, rfl, below, greatest 0x06008011 _ rfl below⟩, positive,
    compress_greatest.2 _ _ positive (Nat.le_refl _)⟩

/-- Writing the number of a word and reading it again gives the number back, and writes the word
itself exactly if that is canonical. -/
theorem targetToCompact_eq_iff_canonical {bits : UInt32} {target : Hash256}
    (reads : compactToTarget bits = .ok target) :
    compactToTarget (targetToCompact target) = .ok target ∧
      (targetToCompact target = bits ↔ Canonical bits) := by
  obtain ⟨x, expands, rfl⟩ := compactToTarget_eq_ok.mp reads
  rw [targetToCompact, Hash256.toBitVec_ofBitVec]
  refine ⟨compactToTarget_eq_ok.mpr ⟨x, expand_compress_of_expand expands, rfl⟩, ?_, ?_⟩
  · rintro rfl
    exact canonical_compress x
  · exact compress_of_canonical expands

theorem targetToCompact_eq_iff_canonical_wide :
    compactToTarget 0x22000001 = .ok (.ofNat (2 ^ 248)) ∧
      compactToTarget (targetToCompact (.ofNat (2 ^ 248))) = .ok (.ofNat (2 ^ 248)) ∧
      (targetToCompact (.ofNat (2 ^ 248)) = 0x22000001 ↔ Canonical 0x22000001) := by
  have reads : compactToTarget 0x22000001 = .ok (.ofNat (2 ^ 248)) := by rfl
  exact ⟨reads, targetToCompact_eq_iff_canonical reads⟩

/-- Written words are ordered as the targets are, and different ones stand for different targets. -/
theorem targetToCompact_mono {a b : Hash256} (le : a.value ≤ b.value) :
    targetToCompact a ≤ targetToCompact b ∧
      (targetToCompact a < targetToCompact b →
        ∃ x y, compactToTarget (targetToCompact a) = .ok x ∧
          compactToTarget (targetToCompact b) = .ok y ∧ x.value < y.value) := by
  refine ⟨compress_mono (by simpa using le), fun lt => ?_⟩
  obtain ⟨x, readsA, valueA⟩ := compactToTarget_targetToCompact a
  obtain ⟨y, readsB, valueB⟩ := compactToTarget_targetToCompact b
  have strict := rounded_lt_of_compress_lt lt
  rw [Hash256.toNat_toBitVec, Hash256.toNat_toBitVec, ← valueA, ← valueB] at strict
  exact ⟨x, y, readsA, readsB, strict⟩

theorem targetToCompact_mono_signByte :
    (Hash256.ofNat 0x7fffff).value ≤ (Hash256.ofNat 0x800000).value ∧
      targetToCompact (.ofNat 0x7fffff) < targetToCompact (.ofNat 0x800000) ∧
      ∃ x y, compactToTarget (targetToCompact (.ofNat 0x7fffff)) = .ok x ∧
        compactToTarget (targetToCompact (.ofNat 0x800000)) = .ok y ∧ x.value < y.value := by
  have le : (Hash256.ofNat 0x7fffff).value ≤ (Hash256.ofNat 0x800000).value := by decide
  have lt : targetToCompact (.ofNat 0x7fffff) < targetToCompact (.ofNat 0x800000) := by decide
  exact ⟨le, lt, (targetToCompact_mono le).2 lt⟩

end ChainProfile.Difficulty
