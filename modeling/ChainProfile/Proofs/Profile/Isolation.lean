import ChainProfile.Proofs.Profile.Genesis

/-! Development networks are told apart by their names. Names that are equal once trimmed give one
profile. Other names give second blocks that differ in the name on record and in the coinbase, and
so in the header unless the two coinbases collide. Which nonces are found has no part in this. -/

namespace ChainProfile

/-- The blocks differ in name and coinbase, and in the header unless the coinbases collide. -/
structure DevnetGenesis.Apart (d e : DevnetGenesis) : Prop where
  name : d.name ≠ e.name
  coinbase : ∃ s t, d.block.transactions = [s] ∧ e.block.transactions = [t] ∧
    s ≠ t ∧ s.bytes ≠ t.bytes ∧
      (Sha256.double s.bytes ≠ Sha256.double t.bytes →
        d.block.header ≠ e.block.header ∧ d.block.header.bytes ≠ e.block.header.bytes)

namespace Profile

open NonceSearch

variable {hasher : HeaderHasher} {a b : String} {p q : Profile}

theorem build_devnet_congr (same : Text.trimmed a = Text.trimmed b) :
    build .devnet hasher a = build .devnet hasher b := by
  have full := Genesis.devnetName_inj.mpr same
  simp only [build, draft, devnet, full]

def devnetCoinbase (name : String) : Transaction :=
  .coinbase (Genesis.devnetScript (Genesis.devnetName name)) [⟨Genesis.reward, [Script.opReturn]⟩]

theorem merkleRoot_devnetCandidate (name : String) (nonce : UInt32) :
    ((devnetCandidate hasher name).withNonce nonce).header.merkleRoot = (devnetCoinbase name).id :=
  rfl

theorem devnetCoinbase_bytes_inj (same : (devnetCoinbase a).bytes = (devnetCoinbase b).bytes) :
    Text.trimmed a = Text.trimmed b :=
  Genesis.devnetName_inj.mp (Genesis.devnetScript_inj (Transaction.coinbase_bytes_inj same))

theorem apart_devnetCandidate (differ : Text.trimmed a ≠ Text.trimmed b) (m n : UInt32)
    (x y : Hash256) :
    DevnetGenesis.Apart ⟨Genesis.devnetName a, (devnetCandidate hasher a).withNonce m, x⟩
      ⟨Genesis.devnetName b, (devnetCandidate hasher b).withNonce n, y⟩ := by
  have names : Genesis.devnetName a ≠ Genesis.devnetName b :=
    fun same => differ (Genesis.devnetName_inj.mp same)
  have forms : (devnetCoinbase a).bytes ≠ (devnetCoinbase b).bytes :=
    fun same => differ (devnetCoinbase_bytes_inj same)
  constructor
  · dsimp only
    exact names
  · refine ⟨devnetCoinbase a, devnetCoinbase b, rfl, rfl, ?_, forms, ?_⟩
    · exact fun same => forms (congrArg Transaction.bytes same)
    · intro digests
      have headers : ((devnetCandidate hasher a).withNonce m).header ≠
          ((devnetCandidate hasher b).withNonce n).header := by
        intro same
        have roots := congrArg Header.merkleRoot same
        rw [merkleRoot_devnetCandidate, merkleRoot_devnetCandidate] at roots
        exact digests roots
      exact ⟨headers, fun same => headers (Header.bytes_inj same)⟩

/-- Two development networks of one hash function are the same network or apart from each other. -/
theorem isolated_of_build (first : (build .devnet hasher a).run.value = .ok p)
    (second : (build .devnet hasher b).run.value = .ok q) :
    (Text.trimmed a = Text.trimmed b → p = q) ∧
      (Text.trimmed a ≠ Text.trimmed b →
        ∃ d e, p.devnetBlock = some d ∧ q.devnetBlock = some e ∧ d.Apart e) := by
  constructor
  · intro same
    rw [build_devnet_congr same, second] at first
    exact (Except.ok.inj first).symm
  · intro differ
    obtain ⟨m, _, rfl⟩ := mined_devnet.of_ok first
    obtain ⟨n, _, rfl⟩ := mined_devnet.of_ok second
    exact ⟨_, _, rfl, rfl, apart_devnetCandidate differ m n _ _⟩

theorem isolated_of_build_zero :
    let zero : HeaderHasher := fun _ => .zero
    (∃ p q, (build .devnet zero " alpha ").run.value = .ok p ∧
      (build .devnet zero "alpha").run.value = .ok q ∧ p = q) ∧
      ∃ p q, (build .devnet zero "").run.value = .ok p ∧
        (build .devnet zero "alpha").run.value = .ok q ∧
        ∃ d e, p.devnetBlock = some d ∧ q.devnetBlock = some e ∧ d.Apart e := by
  intro zero
  have wins : ∀ name, Wins devnetTarget zero (devnetCandidate zero name).header 0 :=
    fun _ => Nat.zero_le _
  obtain ⟨bare, madeBare⟩ := mined_devnet.exists_ok (wins "")
  obtain ⟨named, madeNamed⟩ := mined_devnet.exists_ok (wins "alpha")
  obtain ⟨padded, madePadded⟩ := mined_devnet.exists_ok (wins " alpha ")
  refine ⟨⟨padded, named, madePadded, madeNamed, ?_⟩, bare, named, madeBare, madeNamed, ?_⟩
  · exact (isolated_of_build madePadded madeNamed).1 (by decide)
  · exact (isolated_of_build madeBare madeNamed).2 (by decide)

end Profile

end ChainProfile
