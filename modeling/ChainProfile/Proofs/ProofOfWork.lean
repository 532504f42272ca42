import ChainProfile.Difficulty
import ChainProfile.Proofs.LittleEndian
import ChainProfile.Proofs.Outcome

/-! The proof-of-work check. A compact word counts if it stands for a number that is neither zero nor
above the limit; then the check compares the hash with that number, which may be less than the
limit. -/

namespace ChainProfile.Difficulty

variable {bits : UInt32} {hash limit target : Hash256} {enough : Bool}

theorem compactToTarget_eq_ok :
    compactToTarget bits = .ok target ↔ ∃ x, expand bits = .ok x ∧ target = Hash256.ofBitVec x := by
  rw [compactToTarget, map_eq_ok]

theorem checkedTarget_eq_ok :
    checkedTarget bits limit = .ok target ↔
      compactToTarget bits = .ok target ∧ 0 < target.value ∧ target.value ≤ limit.value := by
  rw [compactToTarget_eq_ok, checkedTarget, bind_eq_ok]
  constructor
  · rintro ⟨x, expands, rest⟩
    by_cases zero : x = 0
    · rw [if_pos zero] at rest
      cases rest
    by_cases above : limit.value < x.toNat
    · rw [if_neg zero, if_pos above] at rest
      cases rest
    rw [if_neg zero, if_neg above] at rest
    cases rest
    refine ⟨⟨x, expands, rfl⟩, ?_⟩
    rw [Hash256.value_ofBitVec]
    exact ⟨Nat.pos_of_ne_zero fun none => zero (BitVec.eq_of_toNat_eq none), Nat.not_lt.mp above⟩
  · rintro ⟨⟨x, expands, rfl⟩, positive, within⟩
    rw [Hash256.value_ofBitVec] at positive within
    have zero : x ≠ 0 := by
      rintro rfl
      exact Nat.lt_irrefl 0 positive
    refine ⟨x, expands, ?_⟩
    rw [if_neg zero, if_neg (Nat.not_lt.mpr within)]
    rfl

theorem checkProofOfWork_eq_ok :
    checkProofOfWork hash bits limit = .ok enough ↔
      ∃ target, compactToTarget bits = .ok target ∧ 0 < target.value ∧
        target.value ≤ limit.value ∧ enough = meets hash target := by
  rw [checkProofOfWork, map_eq_ok]
  simp only [checkedTarget_eq_ok, and_assoc]

end ChainProfile.Difficulty
