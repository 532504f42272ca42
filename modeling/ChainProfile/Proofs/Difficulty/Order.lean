import ChainProfile.Proofs.Hash256
import ChainProfile.Proofs.ProofOfWork
import ChainProfile.Proofs.Text.Order

/-! The order of hashes, as numbers and as they are shown. A hash keeps its least byte first and shows
its greatest byte first, in 64 digits, so the order of the texts is the order of the numbers. The
proof-of-work check compares numbers: a lower hash and a higher limit never undo it. -/

namespace ChainProfile.Difficulty

open Text (DigitsOf)

variable {bits : UInt32} {hash target limit lower higher : Hash256}

theorem digitsOf_hex (h : Hash256) : DigitsOf 16 h.hex.toList := by
  intro c member
  exact Hash256.exists_digit_of_mem_hex member

theorem hex_le_hex_iff : hash.hex ≤ target.hex ↔ hash.value ≤ target.value := by
  have same : target.hex.toList.length = hash.hex.toList.length := by
    rw [Hash256.length_hex, Hash256.length_hex]
  rw [← Hash256.number_hex hash, ← Hash256.number_hex target, ← Nat.not_lt, ← String.not_lt,
    String.lt_iff_toList_lt]
  exact not_congr (Text.lt_iff_numberIn_lt (by decide) (by decide) same (digitsOf_hex target)
    (digitsOf_hex hash))

theorem checkProofOfWork_eq_true_iff :
    checkProofOfWork hash bits limit = .ok true ↔
      ∃ x, expand bits = .ok x ∧ 0 < x.toNat ∧ x.toNat ≤ limit.value ∧ hash.value ≤ x.toNat := by
  rw [checkProofOfWork_eq_ok]
  constructor
  · rintro ⟨target, stands, positive, within, passes⟩
    obtain ⟨x, expands, rfl⟩ := compactToTarget_eq_ok.mp stands
    rw [Hash256.value_ofBitVec] at positive within
    rw [eq_comm, meets_iff, Hash256.value_ofBitVec] at passes
    exact ⟨x, expands, positive, within, passes⟩
  · rintro ⟨x, expands, positive, within, passes⟩
    refine ⟨.ofBitVec x, compactToTarget_eq_ok.mpr ⟨x, expands, rfl⟩, ?_, ?_, ?_⟩
    · rwa [Hash256.value_ofBitVec]
    · rwa [Hash256.value_ofBitVec]
    · rwa [eq_comm, meets_iff, Hash256.value_ofBitVec]

theorem checkProofOfWork_mono (passes : checkProofOfWork hash bits limit = .ok true)
    (below : lower.value ≤ hash.value) (above : limit.value ≤ higher.value) :
    checkProofOfWork lower bits higher = .ok true := by
  obtain ⟨x, expands, positive, within, enough⟩ := checkProofOfWork_eq_true_iff.mp passes
  exact checkProofOfWork_eq_true_iff.mpr
    ⟨x, expands, positive, within.trans above, below.trans enough⟩

/-- Hashes compare with targets as they are shown. The check passes exactly at the hashes up to what the
bits stand for, if that is neither zero nor above the limit, hence at each lower hash and under each
higher limit. -/
theorem meets_iff_hex_le :
    (∀ hash target, meets hash target = true ↔ hash.hex ≤ target.hex) ∧
    (∀ hash bits limit, checkProofOfWork hash bits limit = .ok true ↔
      ∃ x, expand bits = .ok x ∧ 0 < x.toNat ∧ x.toNat ≤ limit.value ∧ hash.value ≤ x.toNat) ∧
    ∀ hash bits limit, checkProofOfWork hash bits limit = .ok true →
      ∀ lower higher, lower.value ≤ hash.value → limit.value ≤ higher.value →
        checkProofOfWork lower bits higher = .ok true := by
  refine ⟨fun hash target => ?_, fun _ _ _ => checkProofOfWork_eq_true_iff,
    fun _ _ _ passes _ _ below above => checkProofOfWork_mono passes below above⟩
  rw [meets_iff, hex_le_hex_iff]

theorem meets_iff_hex_le_firstByte :
    let target := Hash256.ofNat (0xffff * 2 ^ 224)
    let low := Hash256.ofNat 256
    checkProofOfWork target 0x1f00ffff target = .ok true ∧
      low.value ≤ target.value ∧ checkProofOfWork low 0x1f00ffff target = .ok true ∧
      (Hash256.ofNat 255).hex ≤ low.hex := by
  intro target low
  have atTarget : checkProofOfWork target 0x1f00ffff target = .ok true := by decide
  have below : low.value ≤ target.value := by decide
  exact ⟨atTarget, below, meets_iff_hex_le.2.2 _ _ _ atTarget _ _ below (Nat.le_refl _),
    (meets_iff_hex_le.1 _ low).mp (by decide)⟩

end ChainProfile.Difficulty
