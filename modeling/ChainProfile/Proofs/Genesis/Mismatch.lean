import ChainProfile.Profile.Build

/-! What a refused first block is reported with. The root of the block's transactions is compared
with two others, the one in the header and the one that is fixed for the network, and either can
refuse the block, but the report always names the fixed one. So the two hashes of a report differ
except where the block has the fixed root and only its header says otherwise. -/

namespace ChainProfile.Genesis

variable {network : Network} {block : Block} {hasher : HeaderHasher} {hash root : Hash256}
variable {cause : ProfileError}

theorem verify_eq_error :
    verify network block hasher hash root = .error cause ↔
      (block.merkleRoot ≠ block.header.merkleRoot ∨ block.merkleRoot ≠ root) ∧
          cause = .genesisMismatch network .merkleRoot root block.merkleRoot ∨
        block.merkleRoot = block.header.merkleRoot ∧ block.merkleRoot = root ∧
          block.header.hash hasher ≠ hash ∧
          cause = .genesisMismatch network .blockHash hash (block.header.hash hasher) := by
  simp only [verify]
  by_cases strayed : block.merkleRoot ≠ block.header.merkleRoot ∨ block.merkleRoot ≠ root
  · rw [if_pos strayed]
    constructor
    · intro refused
      exact .inl ⟨strayed, (Except.error.inj refused).symm⟩
    · rintro (⟨_, rfl⟩ | ⟨own, fixed, _⟩)
      · rfl
      · exact absurd strayed (not_or.mpr ⟨not_not_intro own, not_not_intro fixed⟩)
  · obtain ⟨own, fixed⟩ := not_or.mp strayed
    rw [if_neg strayed]
    by_cases differs : block.header.hash hasher ≠ hash
    · rw [if_pos differs]
      constructor
      · intro refused
        exact .inr ⟨Decidable.not_not.mp own, Decidable.not_not.mp fixed, differs,
          (Except.error.inj refused).symm⟩
      · rintro (⟨again, _⟩ | ⟨_, _, _, rfl⟩)
        · exact absurd again strayed
        · rfl
    · rw [if_neg differs]
      constructor
      · intro accepted
        cases accepted
      · rintro (⟨again, _⟩ | ⟨_, _, again, _⟩)
        · exact absurd again strayed
        · exact absurd again differs

/-- Every refusal is reported as a mismatch, and of two different hashes except where the root in the
header is wrong and the block's own root is the expected one. -/
theorem verify_expected_eq_actual_iff
    (refused : verify network block hasher hash root = .error cause) :
    ∃ field expected actual, cause = .genesisMismatch network field expected actual ∧
      (expected = actual ↔
        field = .merkleRoot ∧ block.merkleRoot = root ∧ block.header.merkleRoot ≠ root) := by
  obtain ⟨strayed, rfl⟩ | ⟨own, fixed, differs, rfl⟩ := verify_eq_error.mp refused
  · refine ⟨.merkleRoot, root, block.merkleRoot, rfl, ?_⟩
    constructor
    · intro same
      have header := strayed.resolve_right (not_not_intro same.symm)
      exact ⟨rfl, same.symm, fun equal => header (same.symm.trans equal.symm)⟩
    · exact fun reported => reported.2.1.symm
  · refine ⟨.blockHash, hash, block.header.hash hasher, rfl, ?_⟩
    constructor
    · exact fun same => absurd same.symm differs
    · exact fun reported => nomatch reported.1

def unrooted : Block :=
  { Profile.mainGenesis with header := { Profile.mainGenesis.header with merkleRoot := .zero } }

theorem merkleRoot_mainGenesis : Profile.mainGenesis.merkleRoot = Profile.genesisRoot := by
  decide +kernel

theorem merkleRoot_unrooted : unrooted.merkleRoot = Profile.genesisRoot := by
  rw [← merkleRoot_mainGenesis, Block.merkleRoot, Block.merkleRoot, unrooted]

theorem zero_ne_genesisRoot : Hash256.zero ≠ Profile.genesisRoot := by
  decide

theorem verify_unrooted (hasher : HeaderHasher) :
    verify .main unrooted hasher Profile.mainGenesisHash Profile.genesisRoot =
      .error (.genesisMismatch .main .merkleRoot Profile.genesisRoot Profile.genesisRoot) := by
  have strayed : unrooted.merkleRoot ≠ unrooted.header.merkleRoot := by
    rw [merkleRoot_unrooted]
    exact zero_ne_genesisRoot.symm
  refine verify_eq_error.mpr (.inl ⟨.inl strayed, ?_⟩)
  rw [merkleRoot_unrooted]

theorem verify_mainGenesis_zero (hasher : HeaderHasher) :
    verify .main Profile.mainGenesis hasher Profile.mainGenesisHash .zero =
      .error (.genesisMismatch .main .merkleRoot .zero Profile.genesisRoot) := by
  have strayed : Profile.mainGenesis.merkleRoot ≠ .zero := by
    rw [merkleRoot_mainGenesis]
    exact zero_ne_genesisRoot.symm
  refine verify_eq_error.mpr (.inl ⟨.inr strayed, ?_⟩)
  rw [merkleRoot_mainGenesis]

theorem expected_eq_actual_unrooted :
    ∃ expected actual,
      verify .main unrooted Sha256.double Profile.mainGenesisHash Profile.genesisRoot =
          .error (.genesisMismatch .main .merkleRoot expected actual) ∧
        ¬ expected ≠ actual :=
  ⟨_, _, verify_unrooted Sha256.double, not_not_intro rfl⟩

theorem verify_expected_eq_actual_iff_mainGenesis :
    let report (expected actual : Hash256) : ProfileError :=
      .genesisMismatch .main .merkleRoot expected actual
    (verify .main unrooted Sha256.double Profile.mainGenesisHash Profile.genesisRoot =
        .error (report Profile.genesisRoot Profile.genesisRoot) ∧
      unrooted.merkleRoot = Profile.genesisRoot ∧
        unrooted.header.merkleRoot ≠ Profile.genesisRoot) ∧
      verify .main Profile.mainGenesis Sha256.double Profile.mainGenesisHash .zero =
          .error (report .zero Profile.genesisRoot) ∧
        ¬ Hash256.zero = Profile.genesisRoot := by
  intro report
  have wrongHeader := verify_unrooted Sha256.double
  have wrongRoot := verify_mainGenesis_zero Sha256.double
  constructor
  · obtain ⟨field, expected, actual, same, iff⟩ := verify_expected_eq_actual_iff wrongHeader
    cases same
    exact ⟨wrongHeader, (iff.mp rfl).2⟩
  · obtain ⟨field, expected, actual, same, iff⟩ := verify_expected_eq_actual_iff wrongRoot
    cases same
    refine ⟨wrongRoot, fun equal => ?_⟩
    obtain ⟨_, root, _⟩ := iff.mp equal
    rw [merkleRoot_mainGenesis] at root
    exact zero_ne_genesisRoot root.symm

end ChainProfile.Genesis
