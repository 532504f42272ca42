import ChainProfile.Proofs.Profile.Build
import ChainProfile.Proofs.Profile.Override

/-! Sound profiles: those that a node may run on. Every build is sound and overrides keep it so,
although they check no more than what they replace. -/

namespace ChainProfile.Profile

/-- A profile of that network which is valid, pays budgets before superblocks, and binds each
quorum role to an entry of the role's kind. -/
structure Sound (n : Network) (p : Profile) : Prop where
  network : p.network = n
  valid : p.validate = .ok ()
  starts : p.consensus.starts.budget < p.consensus.starts.superblock
  chainLocks : ∃ q, p.consensus.quorums.chainLocksQuorum = .ok q ∧
    q.kind = p.consensus.quorums.chainLocks
  instantSend : ∃ q, p.consensus.quorums.instantSendQuorum = .ok q ∧
    q.kind = p.consensus.quorums.instantSend

theorem validate_eq_ok {p : Profile} :
    p.validate = .ok () ↔
      p.consensus.deployments.validate = .ok () ∧ p.consensus.quorums.validate = .ok () ∧
        p.validateCheckpoints = .ok () := by
  rw [validate, check_bind_eq_ok, check_bind_eq_ok, mapError_eq_ok, mapError_eq_ok, mapError_eq_ok]

theorem starts_of (n : Network) :
    (Consensus.of n).starts.budget < (Consensus.of n).starts.superblock := by
  cases n <;> decide

theorem chainLocks_of (n : Network) :
    ∃ q, (Consensus.of n).quorums.chainLocksQuorum = .ok q ∧
      q.kind = (Consensus.of n).quorums.chainLocks := by
  cases n <;> exact ⟨_, rfl, rfl⟩

theorem instantSend_of (n : Network) :
    ∃ q, (Consensus.of n).quorums.instantSendQuorum = .ok q ∧
      q.kind = (Consensus.of n).quorums.instantSend := by
  cases n <;> exact ⟨_, rfl, rfl⟩

theorem sound_of_build {n : Network} {hasher : HeaderHasher} {name : String} {p : Profile}
    (built : (build n hasher name).run.value = .ok p) : p.Sound n := by
  have constants := consensus_of_build built
  refine ⟨network_of_build built, validate_of_build built, ?_, ?_, ?_⟩
  · rw [constants]
    exact starts_of n
  · rw [constants]
    exact chainLocks_of n
  · rw [constants]
    exact instantSend_of n

theorem Sound.override {n : Network} {o : Override} {p q : Profile} (sound : p.Sound n)
    (taken : o.apply p = .ok q) : q.Sound n := by
  obtain ⟨_, fits, rfl⟩ := Override.apply_eq_ok.mp taken
  obtain ⟨deployments, quorums, checkpoints⟩ := validate_eq_ok.mp sound.valid
  -- The check as a whole is not repeated: deployments were checked anew, the rest is as before.
  refine ⟨sound.network, ?_, fits.starts sound.starts, ?_, ?_⟩
  · refine validate_eq_ok.mpr ⟨fits.deployments deployments, ?_, checkpoints⟩
    rw [Override.effect_quorums]
    exact quorums
  · rw [Override.effect_quorums]
    exact sound.chainLocks
  · rw [Override.effect_quorums]
    exact sound.instantSend

end ChainProfile.Profile
