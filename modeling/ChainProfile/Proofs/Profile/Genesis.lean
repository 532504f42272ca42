import ChainProfile.Proofs.Checkpoint
import ChainProfile.Proofs.Genesis.Binding
import ChainProfile.Proofs.Genesis.Devnet
import ChainProfile.Proofs.NonceSearch
import ChainProfile.Proofs.Profile.Sound

/-! How the first blocks of a profile are found. On the main and regression networks they are fixed.
The test network and development networks search a candidate from nonce zero on; the rest of their
profile passes its checks whatever block is found, so the search decides whether there is one. -/

namespace ChainProfile

theorem Genesis.verify_eq_ok {network : Network} {block : Block} {hasher : HeaderHasher}
    {hash root found : Hash256} :
    verify network block hasher hash root = .ok found ↔
      block.merkleRoot = block.header.merkleRoot ∧ block.merkleRoot = root ∧
        block.header.hash hasher = hash ∧ found = hash := by
  rw [verify_eq_verifyWith, verifyWith_eq_ok, Block.merkleRoot_eq_merkleRootWith]

namespace Profile

open NonceSearch

variable {hasher : HeaderHasher} {name : String}

theorem mined_build {n : Network} {target : Hash256} {header : Header} {made : UInt32 → Profile}
    {fault : ProfileError}
    (drafted : Mined target hasher header made fault (draft n hasher name).run.value)
    (valid : ∀ nonce, (made nonce).validate = .ok ()) :
    Mined target hasher header made fault (build n hasher name).run.value := by
  rw [build, Logged.value_run_bind]
  refine drafted.bind ?_
  intro nonce
  rw [Logged.value_run_bind, Logged.value_run_mk_pure, valid]
  rfl

theorem validate_testnetOf (genesis : Block) (hash : Hash256) :
    (testnetOf genesis hash).validate = .ok () := by
  refine validate_eq_ok.mpr ⟨rfl, rfl, ?_⟩
  exact Checkpoint.validate_eq_ok.mpr ⟨rfl, List.pairwise_singleton _ _⟩

theorem mined_testnet :
    Mined Consensus.testnet.work.limit hasher testnetCandidate.header
      (fun nonce => testnetOf (testnetCandidate.withNonce nonce)
        ((testnetCandidate.withNonce nonce).header.hash hasher))
      (.nonceSpaceExhausted .testnet testnetCandidate.header.bits)
      (build .testnet hasher name).run.value := by
  refine mined_build ?_ fun _ => validate_testnetOf _ _
  rw [draft, testnet, Logged.value_run_bind]
  exact (mined_mine _ _ _ _).bind fun _ => rfl

def devnetCandidate (hasher : HeaderHasher) (name : String) : Block :=
  Genesis.assemble
    (.coinbase (Genesis.devnetScript (Genesis.devnetName name))
      [⟨Genesis.reward, [Script.opReturn]⟩])
    (devnetGenesis.header.hash hasher) (nextTime devnetGenesis.header.time) 0
    devnetGenesis.header.bits Genesis.devnetVersion

def devnetTarget : Hash256 :=
  .ofNat 0x7fffff0000000000000000000000000000000000000000000000000000000000

theorem compactToTarget_devnet :
    Difficulty.compactToTarget devnetGenesis.header.bits = .ok devnetTarget := by
  rfl

theorem devnet_candidate :
    Genesis.devnet (devnetGenesis.header.hash hasher) (Genesis.devnetName name)
      (nextTime devnetGenesis.header.time) 0 devnetGenesis.header.bits Genesis.reward =
        .ok (devnetCandidate hasher name) :=
  if_neg (Genesis.devnetName_ne_empty name)

theorem validate_devnetOf (name : String) (hash : Hash256) (second : Block) (secondHash : Hash256) :
    (devnetOf name hash second secondHash).validate = .ok () := by
  refine validate_eq_ok.mpr ⟨rfl, rfl, ?_⟩
  have next : (0 : Int32) < 1 := by decide
  exact Checkpoint.validate_eq_ok.mpr ⟨rfl, List.pairwise_pair.mpr next⟩

/-- The build takes the second block with the least nonce that meets the target of its bits. -/
theorem mined_devnet :
    Mined devnetTarget hasher (devnetCandidate hasher name).header
      (fun nonce => devnetOf (Genesis.devnetName name) (devnetGenesis.header.hash hasher)
        ((devnetCandidate hasher name).withNonce nonce)
        (((devnetCandidate hasher name).withNonce nonce).header.hash hasher))
      (.nonceSpaceExhausted .devnet devnetGenesis.header.bits)
      (build .devnet hasher name).run.value := by
  refine mined_build ?_ fun _ => validate_devnetOf _ _ _ _
  have searched : (mineDevnet devnetGenesis.header (devnetGenesis.header.hash hasher)
      (Genesis.devnetName name) Genesis.reward hasher).run.value =
        (mine .devnet (devnetCandidate hasher name) devnetTarget hasher).run.value :=
    value_mineDevnet compactToTarget_devnet devnet_candidate
  rw [draft, devnet, Logged.value_run_bind, searched]
  exact (mined_mine _ _ _ _).bind fun _ => rfl

end Profile

end ChainProfile
