import ChainProfile.Genesis
import ChainProfile.Proofs.Merkle.Binding
import ChainProfile.Proofs.Wire.Block

/-! The check of a first block pins the whole block. The header is pinned by the hash, the list of
transaction ids by the Merkle root, each transaction by its id, unless strings that were hashed on
the way collide. The number of transactions is not pinned, since odd layers repeat a hash, and the
digest may be any function. -/

namespace ChainProfile

variable {digest : Bytes → Hash256}

namespace Block

def merkleRootWith (digest : Bytes → Hash256) (b : Block) : Hash256 :=
  Merkle.rootWith digest ((b.transactions.map Transaction.bytes).map digest)

def inputs (digest : Bytes → Hash256) (b : Block) : List Bytes :=
  b.transactions.map Transaction.bytes ++
    Merkle.inputs digest ((b.transactions.map Transaction.bytes).map digest)

theorem merkleRoot_eq_merkleRootWith (b : Block) :
    b.merkleRoot = b.merkleRootWith Sha256.double := by
  rw [merkleRoot, Merkle.root_eq_rootWith, merkleRootWith, List.map_map]
  rfl

theorem transactions_eq_or_collides {a b : Block}
    (length : a.transactions.length = b.transactions.length)
    (left : ∀ t ∈ a.transactions, t.Bounded) (right : ∀ t ∈ b.transactions, t.Bounded)
    (same : a.merkleRootWith digest = b.merkleRootWith digest) :
    a.transactions = b.transactions ∨ Collides digest (a.inputs digest) (b.inputs digest) := by
  have count : ((a.transactions.map Transaction.bytes).map digest).length =
      ((b.transactions.map Transaction.bytes).map digest).length := by
    simp only [List.length_map, length]
  obtain ids | collides := Merkle.eq_or_collides_of_rootWith count same
  · obtain forms | collides := eq_or_collides ids
    · exact .inl (Transaction.map_bytes_inj left right forms)
    · exact .inr (collides.mono (List.subset_append_left _ _) (List.subset_append_left _ _))
  · exact .inr (collides.mono (List.subset_append_right _ _) (List.subset_append_right _ _))

end Block

namespace Genesis

def verifyWith (digest : Bytes → Hash256) (network : Network) (block : Block)
    (hasher : HeaderHasher) (expectedHash expectedRoot : Hash256) : Except ProfileError Hash256 :=
  let root := block.merkleRootWith digest
  let hash := block.header.hash hasher
  if root ≠ block.header.merkleRoot ∨ root ≠ expectedRoot then
    .error (.genesisMismatch network .merkleRoot expectedRoot root)
  else if hash ≠ expectedHash then
    .error (.genesisMismatch network .blockHash expectedHash hash)
  else .ok hash

theorem verify_eq_verifyWith : verify = verifyWith Sha256.double := by
  funext network block hasher expectedHash expectedRoot
  simp only [verify, verifyWith, block.merkleRoot_eq_merkleRootWith]

variable {network : Network} {a b : Block} {hasher : HeaderHasher} {hash root x y : Hash256}

theorem verifyWith_eq_ok :
    verifyWith digest network a hasher hash root = .ok x ↔
      a.merkleRootWith digest = a.header.merkleRoot ∧ a.merkleRootWith digest = root ∧
        a.header.hash hasher = hash ∧ x = hash := by
  simp only [verifyWith]
  by_cases rooted : a.merkleRootWith digest = a.header.merkleRoot ∧ a.merkleRootWith digest = root
  · rw [if_neg (not_or.mpr ⟨not_not_intro rooted.1, not_not_intro rooted.2⟩)]
    by_cases hashed : a.header.hash hasher = hash
    · rw [if_neg (not_not_intro hashed), hashed, Except.ok.injEq]
      constructor
      · rintro rfl
        exact ⟨rooted.1, rooted.2, rfl, rfl⟩
      · exact fun accepted => accepted.2.2.2.symm
    · simp [hashed]
  · rw [if_pos (Classical.not_and_iff_not_or_not.mp rooted)]
    simp only [reduceCtorEq, false_iff]
    exact fun accepted => rooted ⟨accepted.1, accepted.2.1⟩

/-- Two blocks with one number of transactions that are accepted for the same hash and root are the
same block, unless their headers collide, or strings digested for the two. -/
theorem verify_pins {m n : Network} (length : a.transactions.length = b.transactions.length)
    (left : ∀ t ∈ a.transactions, t.Bounded) (right : ∀ t ∈ b.transactions, t.Bounded)
    (first : verifyWith digest m a hasher hash root = .ok x)
    (second : verifyWith digest n b hasher hash root = .ok y) :
    verify = verifyWith Sha256.double ∧
      (a = b ∨ a.header.bytes ≠ b.header.bytes ∧ hasher a.header.bytes = hasher b.header.bytes ∨
        Collides digest (a.inputs digest) (b.inputs digest)) := by
  refine ⟨verify_eq_verifyWith, ?_⟩
  obtain ⟨_, leftRoot, leftHash, _⟩ := verifyWith_eq_ok.mp first
  obtain ⟨_, rightRoot, rightHash, _⟩ := verifyWith_eq_ok.mp second
  by_cases headers : a.header.bytes = b.header.bytes
  · have roots := leftRoot.trans rightRoot.symm
    obtain transactions | collides := Block.transactions_eq_or_collides length left right roots
    · refine .inl ?_
      cases a
      cases b
      cases Header.bytes_inj headers
      cases transactions
      rfl
    · exact .inr (.inr collides)
  · exact .inr (.inl ⟨headers, leftHash.trans rightHash.symm⟩)

theorem verify_pins_zero :
    let zero : Bytes → Hash256 := fun _ => .zero
    let pays : Int64 → Transaction := fun value => .coinbase [] [⟨value, []⟩]
    let a : Block := ⟨⟨1, .zero, .zero, 0, 0, 0⟩, [pays 1, pays 2, pays 3]⟩
    let b : Block := ⟨⟨1, .zero, .zero, 0, 0, 0⟩, [pays 1, pays 2, pays 4]⟩
    a.transactions.length = b.transactions.length ∧ (∀ t ∈ a.transactions, t.Bounded) ∧
      (∀ t ∈ b.transactions, t.Bounded) ∧ verifyWith zero .main a zero .zero .zero = .ok .zero ∧
      verifyWith zero .main b zero .zero .zero = .ok .zero ∧
      verify = verifyWith Sha256.double ∧
      (a = b ∨ a.header.bytes ≠ b.header.bytes ∧ zero a.header.bytes = zero b.header.bytes ∨
        Collides zero (a.inputs zero) (b.inputs zero)) := by
  intro zero pays a b
  have bounded : ∀ value, (pays value).Bounded := fun value =>
    Transaction.bounded_coinbase (by decide) (by simp) (by simp)
  have left : ∀ t ∈ a.transactions, t.Bounded := by simp [a, bounded]
  have right : ∀ t ∈ b.transactions, t.Bounded := by simp [b, bounded]
  have rootA : a.merkleRootWith zero = .zero := by
    simp [a, zero, Block.merkleRootWith, Merkle.rootWith, Merkle.pairs]
  have rootB : b.merkleRootWith zero = .zero := by
    simp [b, zero, Block.merkleRootWith, Merkle.rootWith, Merkle.pairs]
  have first : verifyWith zero .main a zero .zero .zero = .ok .zero :=
    verifyWith_eq_ok.mpr ⟨rootA, rootA, rfl, rfl⟩
  have second : verifyWith zero .main b zero .zero .zero = .ok .zero :=
    verifyWith_eq_ok.mpr ⟨rootB, rootB, rfl, rfl⟩
  exact ⟨rfl, left, right, first, second, verify_pins rfl left right first second⟩

end Genesis

end ChainProfile
