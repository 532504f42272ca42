import ChainProfile.Proofs.Profile.Genesis
import ChainProfile.Proofs.ProofOfWork

/-! Proof of work of the blocks that a build mines. The second development block is searched at the
target of its own bits, so it always passes the check. The test network's first block is searched at
the network's limit, and its bits stand for less: a hash between the two is taken all the same. -/

namespace ChainProfile.Profile

open NonceSearch Difficulty

variable {hasher : HeaderHasher} {name : String} {p : Profile} {nonce : UInt32}

theorem work_devnet (first : FirstWin devnetTarget hasher (devnetCandidate hasher name).header 0 nonce) :
    checkProofOfWork (((devnetCandidate hasher name).withNonce nonce).header.hash hasher)
      devnetGenesis.header.bits Consensus.devnet.work.limit = .ok true := by
  refine checkProofOfWork_eq_ok.mpr ⟨devnetTarget, compactToTarget_devnet, ?_, ?_, ?_⟩
  · decide
  · decide
  · exact ((meets_iff _ _).mpr first.wins).symm

def testnetTarget : Hash256 :=
  .ofNat 0x0000ffff00000000000000000000000000000000000000000000000000000000

theorem compactToTarget_testnet :
    compactToTarget testnetCandidate.header.bits = .ok testnetTarget := by
  rfl

theorem work_testnet (hash : Hash256) :
    checkProofOfWork hash testnetCandidate.header.bits Consensus.testnet.work.limit =
      .ok (meets hash testnetTarget) := by
  refine checkProofOfWork_eq_ok.mpr ⟨testnetTarget, compactToTarget_testnet, ?_, ?_, rfl⟩
  · decide
  · decide

/-- The check of the test network's first block never fails, but it answers by the block's bits,
while the block was searched at the limit. -/
theorem checkProofOfWork_of_build (built : (build .testnet hasher name).run.value = .ok p) :
    p.consensus.work.limit.value = 0xfffff * 2 ^ 220 ∧
      p.genesisHash.value ≤ 0xfffff * 2 ^ 220 ∧
      checkProofOfWork p.genesisHash p.genesis.header.bits p.consensus.work.limit =
        .ok (decide (p.genesisHash.value ≤ 0xffff * 2 ^ 224)) := by
  obtain ⟨nonce, first, rfl⟩ := mined_testnet.of_ok built
  have limit : Consensus.testnet.work.limit.value = 0xfffff * 2 ^ 220 := by decide
  have target : testnetTarget.value = 0xffff * 2 ^ 224 := by decide
  have wins := first.wins
  rw [Wins, limit] at wins
  refine ⟨limit, wins, ?_⟩
  rw [← target]
  exact work_testnet _

theorem checkProofOfWork_of_build_zero :
    let zero : HeaderHasher := fun _ => .zero
    ∃ p, (build .testnet zero "").run.value = .ok p ∧
      checkProofOfWork p.genesisHash p.genesis.header.bits p.consensus.work.limit =
        .ok (decide (p.genesisHash.value ≤ 0xffff * 2 ^ 224)) := by
  intro zero
  have wins : Wins Consensus.testnet.work.limit zero testnetCandidate.header 0 := by
    rw [Wins]
    decide
  obtain ⟨p, built⟩ := mined_testnet.exists_ok wins
  exact ⟨p, built, (checkProofOfWork_of_build built).2.2⟩

/-- A first block whose hash is the limit itself does not pass. -/
theorem checkProofOfWork_atLimit :
    let atLimit : HeaderHasher := fun _ => Consensus.testnet.work.limit
    ∃ p, (build .testnet atLimit "").run.value = .ok p ∧
      checkProofOfWork p.genesisHash p.genesis.header.bits p.consensus.work.limit = .ok false := by
  intro atLimit
  have wins : Wins Consensus.testnet.work.limit atLimit testnetCandidate.header 0 :=
    Nat.le_refl _
  obtain ⟨p, built⟩ := mined_testnet.exists_ok wins
  obtain ⟨nonce, _, rfl⟩ := mined_testnet.of_ok built
  have above : meets Consensus.testnet.work.limit testnetTarget = false := by decide
  refine ⟨_, built, ?_⟩
  rw [← above]
  exact work_testnet Consensus.testnet.work.limit

end ChainProfile.Profile
