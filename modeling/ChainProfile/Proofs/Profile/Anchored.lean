import ChainProfile.Proofs.Profile.Work

/-! Built profiles are anchored in their first blocks. Hashes are those of the headers, Merkle roots
those of the transactions, the checkpoint table starts with them, and what was mined has the least
nonce that wins. On the networks whose blocks are mined nothing but the search can fail. -/

namespace ChainProfile

def Block.Rooted (b : Block) : Prop := b.header.merkleRoot = b.merkleRoot

theorem Genesis.rooted_assemble (coinbase : Transaction) (previous : Hash256)
    (time nonce bits : UInt32) (version : Int32) :
    (assemble coinbase previous time nonce bits version).Rooted :=
  (merkleRoot_assemble coinbase previous time nonce bits version).symm

theorem Genesis.rooted_standard (time nonce bits : UInt32) (version : Int32) (pays : Int64) :
    (standard time nonce bits version pays).Rooted :=
  rooted_assemble _ _ _ _ _ _

theorem Block.Rooted.withNonce {b : Block} (rooted : b.Rooted) (nonce : UInt32) :
    (b.withNonce nonce).Rooted :=
  rooted

namespace Profile

open NonceSearch

variable {n : Network} {hasher : HeaderHasher} {name : String} {p : Profile}

structure Extended (hasher : HeaderHasher) (p : Profile) (second : DevnetGenesis) : Prop where
  previous : second.block.header.previous = p.genesisHash
  bits : second.block.header.bits = p.genesis.header.bits
  time : second.block.header.time = p.genesis.header.time + 1
  root : second.block.Rooted
  coinbase : ∃ t, second.block.transactions = [t] ∧ t.isCoinbase = true ∧
    second.block.header.merkleRoot = t.id
  hash : second.hash = second.block.header.hash hasher
  checkpoint : Checkpoint.hashAt? p.checkpoints 1 = some second.hash
  work : Difficulty.checkProofOfWork second.hash second.block.header.bits
    p.consensus.work.limit = .ok true

/-- The profile is that network's, and its hashes, roots and checkpoints are those of its blocks. -/
structure Anchored (n : Network) (hasher : HeaderHasher) (p : Profile) : Prop where
  network : p.network = n
  consensus : p.consensus = Consensus.of n
  hash : p.genesisHash = p.genesis.header.hash hasher
  root : p.genesis.Rooted
  checkpoint : Checkpoint.hashAt? p.checkpoints 0 = some p.genesisHash
  valid : p.validate = .ok ()
  searched : n = .testnet → p.genesisHash.value ≤ p.consensus.work.limit.value ∧
    FirstWin p.consensus.work.limit hasher p.genesis.header 0 p.genesis.header.nonce
  extended : n = .devnet → ∃ second, p.devnetBlock = some second ∧ p.Extended hasher second

theorem hashAt?_of_validate (valid : p.validate = .ok ()) {height : Int32} {hash : Hash256}
    (member : ⟨height, hash⟩ ∈ p.checkpoints) :
    Checkpoint.hashAt? p.checkpoints height = some hash := by
  have checked := (validate_eq_ok.mp valid).2.2
  have ascending := (Checkpoint.validate_eq_ok.mp checked).2
  exact (Checkpoint.hashAt?_eq_some ascending).mpr member

theorem hashAt?_zero_of_validate (valid : p.validate = .ok ()) :
    Checkpoint.hashAt? p.checkpoints 0 = some p.genesisHash := by
  have checked := (validate_eq_ok.mp valid).2.2
  have first := (Checkpoint.validate_eq_ok.mp checked).1
  exact hashAt?_of_validate valid (List.mem_of_mem_head? first)

theorem genesis_of_build (built : (build n hasher name).run.value = .ok p) :
    p.genesisHash = p.genesis.header.hash hasher ∧ p.genesis.Rooted := by
  have drafted := (build_eq_ok.mp built).1
  cases n with
  | main =>
    simp only [draft, mainnet, Logged.value_run_mk_pure, bind_eq_ok] at drafted
    obtain ⟨hash, verified, rest⟩ := drafted
    cases rest
    obtain ⟨_, _, expected, rfl⟩ := Genesis.verify_eq_ok.mp verified
    exact ⟨expected.symm, Genesis.rooted_standard _ _ _ _ _⟩
  | testnet =>
    obtain ⟨nonce, _, rfl⟩ := mined_testnet.of_ok built
    have rooted : testnetCandidate.Rooted := Genesis.rooted_standard _ _ _ _ _
    exact ⟨rfl, rooted.withNonce nonce⟩
  | devnet =>
    obtain ⟨_, _, rfl⟩ := mined_devnet.of_ok built
    exact ⟨rfl, Genesis.rooted_standard _ _ _ _ _⟩
  | regtest =>
    simp only [draft, regtest, Logged.value_run_mk_pure, bind_eq_ok] at drafted
    obtain ⟨hash, verified, rest⟩ := drafted
    cases rest
    obtain ⟨_, _, expected, rfl⟩ := Genesis.verify_eq_ok.mp verified
    exact ⟨expected.symm, Genesis.rooted_standard _ _ _ _ _⟩

theorem searched_of_build (built : (build .testnet hasher name).run.value = .ok p) :
    p.genesisHash.value ≤ p.consensus.work.limit.value ∧
      FirstWin p.consensus.work.limit hasher p.genesis.header 0 p.genesis.header.nonce := by
  obtain ⟨nonce, first, rfl⟩ := mined_testnet.of_ok built
  exact ⟨first.wins, first.reached, first.wins, first.least⟩

theorem extended_of_build (built : (build .devnet hasher name).run.value = .ok p) :
    ∃ second, p.devnetBlock = some second ∧ p.Extended hasher second := by
  have valid := validate_of_build built
  obtain ⟨nonce, first, rfl⟩ := mined_devnet.of_ok built
  refine ⟨_, rfl, ?_⟩
  constructor
  · rfl
  · rfl
  · rfl
  · exact Genesis.rooted_assemble _ _ _ _ _ _
  · exact ⟨_, rfl, Transaction.isCoinbase_coinbase _ _, rfl⟩
  · rfl
  · exact hashAt?_of_validate valid (List.mem_cons_of_mem _ List.mem_cons_self)
  · exact work_devnet first

/-- What is built is anchored in its first blocks. Where blocks are mined a build fails only if no
nonce wins. -/
theorem anchored_or_exhausted (n : Network) (hasher : HeaderHasher) (name : String) :
    (∀ p, (build n hasher name).run.value = .ok p → p.Anchored n hasher) ∧
      ∀ e, (build n hasher name).run.value = .error e →
        (n = .testnet → e = .nonceSpaceExhausted .testnet testnetCandidate.header.bits ∧
          ∀ nonce, ¬ Wins Consensus.testnet.work.limit hasher testnetCandidate.header nonce) ∧
        (n = .devnet → e = .nonceSpaceExhausted .devnet devnetGenesis.header.bits ∧
          ∀ nonce, ¬ Wins devnetTarget hasher (devnetCandidate hasher name).header nonce) := by
  constructor
  · intro p built
    have valid := validate_of_build built
    obtain ⟨hash, rooted⟩ := genesis_of_build built
    refine ⟨network_of_build built, consensus_of_build built, hash, rooted,
      hashAt?_zero_of_validate valid, valid, ?_, ?_⟩
    · rintro rfl
      exact searched_of_build built
    · rintro rfl
      exact extended_of_build built
  · intro e failed
    constructor
    · rintro rfl
      exact mined_testnet.of_error failed
    · rintro rfl
      exact mined_devnet.of_error failed

theorem anchored_or_exhausted_constant :
    let always : HeaderHasher := fun _ => .zero
    let never : HeaderHasher := fun _ => .ofNat (2 ^ 256 - 1)
    let main : HeaderHasher := fun _ => mainGenesisHash
    let regtest : HeaderHasher := fun _ => regtestGenesisHash
    (∃ p, (build .main main "").run.value = .ok p ∧ p.Anchored .main main) ∧
      (∃ p, (build .regtest regtest "").run.value = .ok p ∧ p.Anchored .regtest regtest) ∧
      (∃ p, (build .devnet always " alpha ").run.value = .ok p ∧ p.Anchored .devnet always) ∧
      ∃ e, (build .testnet never "").run.value = .error e ∧
        e = .nonceSpaceExhausted .testnet testnetCandidate.header.bits ∧
        ∀ nonce, ¬ Wins Consensus.testnet.work.limit never testnetCandidate.header nonce := by
  intro always never main regtest
  refine ⟨?_, ?_, ?_, ?_⟩
  · have ended : (build .main main "").run.value.isOk = true := by decide +kernel
    obtain ⟨p, built⟩ := isOk_iff.mp ended
    exact ⟨p, built, (anchored_or_exhausted .main main "").1 p built⟩
  · have ended : (build .regtest regtest "").run.value.isOk = true := by decide +kernel
    obtain ⟨p, built⟩ := isOk_iff.mp ended
    exact ⟨p, built, (anchored_or_exhausted .regtest regtest "").1 p built⟩
  · have wins : Wins devnetTarget always (devnetCandidate always " alpha ").header 0 := by
      rw [Wins]
      decide
    obtain ⟨p, built⟩ := mined_devnet.exists_ok wins
    exact ⟨p, built, (anchored_or_exhausted .devnet always " alpha ").1 p built⟩
  · have above : ¬ (Hash256.ofNat (2 ^ 256 - 1)).value ≤ Consensus.testnet.work.limit.value := by
      decide
    have failed : (build .testnet never "").run.value = _ := mined_testnet.eq_error fun _ => above
    exact ⟨_, failed, ((anchored_or_exhausted .testnet never "").2 _ failed).1 rfl⟩

end Profile

end ChainProfile
