import ChainProfile.Proofs.NonceSearch.Report
import ChainProfile.Proofs.ProofOfWork

/-! The block that is mined after a parent. There is one exactly where the parent's bits stand for a
target, the network has a name and some nonce brings the candidate under that target. It is then the
candidate of the first such nonce, and it passes the proof-of-work check of every limit that admits
its target: the search and the check read the bits alike. -/

namespace ChainProfile

theorem Genesis.devnet_eq_ok {previous : Hash256} {name : String} {time nonce bits : UInt32}
    {pays : Int64} {block : Block} :
    devnet previous name time nonce bits pays = .ok block ↔
      name ≠ "" ∧ block = assemble (.coinbase (devnetScript name) [⟨pays, [Script.opReturn]⟩])
        previous time nonce bits devnetVersion := by
  rw [devnet]
  by_cases unnamed : name = ""
  · simp [unnamed]
  · simp [unnamed, eq_comm]

theorem Genesis.devnet_withNonce {previous : Hash256} {name : String} {time nonce bits : UInt32}
    {pays : Int64} {block : Block} (made : devnet previous name time nonce bits pays = .ok block)
    (other : UInt32) : devnet previous name time other bits pays = .ok (block.withNonce other) := by
  obtain ⟨named, rfl⟩ := devnet_eq_ok.mp made
  exact devnet_eq_ok.mpr ⟨named, rfl⟩

namespace NonceSearch

open Difficulty

variable {parent : Header} {parentHash : Hash256} {name : String} {pays : Int64}
variable {hasher : HeaderHasher} {target : Hash256} {block : Block} {found : Found}

theorem toNat_nextTime (time : UInt32) :
    (nextTime time).toNat = min (time.toNat + 1) (2 ^ 32 - 1) := by
  have bound := time.toNat_lt
  have one : (1 : UInt32).toNat = 1 := rfl
  have latest : (0xffffffff : UInt32).toNat = 4294967295 := rfl
  rw [nextTime]
  split
  · rename_i last
    rw [last, latest]
    rfl
  · rename_i early
    rw [← UInt32.toNat_inj, latest] at early
    rw [UInt32.toNat_add, one]
    omega

/-- A block mined after a parent, of the target that the parent's bits stand for. -/
structure Succeeds (parent : Header) (parentHash : Hash256) (name : String) (pays : Int64)
    (hasher : HeaderHasher) (target : Hash256) (block : Block) (found : Found) : Prop where
  made : Genesis.devnet parentHash name block.header.time found.nonce parent.bits pays = .ok block
  time : block.header.time.toNat = min (parent.time.toNat + 1) (2 ^ 32 - 1)
  hash : found.hash = block.header.hash hasher
  first : FirstWin target hasher block.header 0 found.nonce
  root : block.header.merkleRoot = block.merkleRoot
  work : target.value ≠ 0 → ∀ limit : Hash256, target.value ≤ limit.value →
    checkProofOfWork found.hash block.header.bits limit = .ok true

theorem mineDevnet_eq_ok :
    (mineDevnet parent parentHash name pays hasher).run.value = .ok (block, found) ↔
      ∃ target, compactToTarget parent.bits = .ok target ∧
        ∃ candidate, Genesis.devnet parentHash name (nextTime parent.time) 0 parent.bits pays =
            .ok candidate ∧
          (mine .devnet candidate target hasher).run.value = .ok (block, found) := by
  constructor
  · intro went
    have links := went
    rw [mineDevnet] at links
    obtain ⟨target, wrapped, rest⟩ := Logged.run_bind_eq_ok.mp links
    obtain ⟨candidate, made, _⟩ := Logged.run_bind_eq_ok.mp rest
    have expands := mapError_eq_ok.mp wrapped
    rw [value_mineDevnet expands made] at went
    exact ⟨target, expands, candidate, made, went⟩
  · rintro ⟨target, expands, candidate, made, mined⟩
    rw [value_mineDevnet expands made]
    exact mined

theorem succeeds_of_mineDevnet (expands : compactToTarget parent.bits = .ok target)
    {candidate : Block}
    (made : Genesis.devnet parentHash name (nextTime parent.time) 0 parent.bits pays = .ok candidate)
    (reports : found.Reports target hasher candidate.header 0) :
    Succeeds parent parentHash name pays hasher target (candidate.withNonce found.nonce) found := by
  obtain ⟨_, rfl⟩ := Genesis.devnet_eq_ok.mp made
  constructor
  · exact Genesis.devnet_withNonce made found.nonce
  · exact toNat_nextTime parent.time
  · exact reports.hash
  · exact ⟨reports.first.reached, reports.first.wins, reports.first.least⟩
  · exact (Genesis.merkleRoot_assemble _ parentHash (nextTime parent.time) 0 parent.bits
      Genesis.devnetVersion).symm
  · intro positive limit within
    refine checkProofOfWork_eq_ok.mpr ⟨target, expands, Nat.pos_of_ne_zero positive, within, ?_⟩
    rw [reports.hash]
    exact ((meets_iff _ _).mpr reports.first.wins).symm

/-- A block is mined after a parent exactly where there is a target, a name and a winning nonce. -/
theorem mineDevnet_succeeds (parent : Header) (parentHash : Hash256) (name : String) (pays : Int64)
    (hasher : HeaderHasher) :
    ((∃ outcome, (mineDevnet parent parentHash name pays hasher).run.value = .ok outcome) ↔
        ∃ target, compactToTarget parent.bits = .ok target ∧ name ≠ "" ∧
          ∃ nonce candidate, Genesis.devnet parentHash name (nextTime parent.time) nonce parent.bits
              pays = .ok candidate ∧
            (candidate.header.hash hasher).value ≤ target.value) ∧
      ∀ block found,
        (mineDevnet parent parentHash name pays hasher).run.value = .ok (block, found) →
          ∃ target, compactToTarget parent.bits = .ok target ∧
            Succeeds parent parentHash name pays hasher target block found := by
  constructor
  · constructor
    · rintro ⟨⟨block, found⟩, went⟩
      obtain ⟨target, expands, candidate, made, mined⟩ := mineDevnet_eq_ok.mp went
      obtain ⟨reports, _⟩ := mine_eq_ok.mp mined
      exact ⟨target, expands, (Genesis.devnet_eq_ok.mp made).1, found.nonce, _,
        Genesis.devnet_withNonce made found.nonce, reports.first.wins⟩
    · rintro ⟨target, expands, _, nonce, candidate, made, wins⟩
      rw [value_mineDevnet expands (Genesis.devnet_withNonce made 0)]
      obtain ⟨_, rfl⟩ := Genesis.devnet_eq_ok.mp made
      exact exists_mine_eq_ok.mpr ⟨nonce, wins⟩
  · intro block found went
    obtain ⟨target, expands, candidate, made, mined⟩ := mineDevnet_eq_ok.mp went
    obtain ⟨reports, rfl⟩ := mine_eq_ok.mp mined
    exact ⟨target, expands, succeeds_of_mineDevnet expands made reports⟩

theorem mineDevnet_succeeds_latest :
    let zero : HeaderHasher := fun _ => .zero
    let parent : Header := ⟨1, .zero, .zero, 0xffffffff, 0x207fffff, 7⟩
    ∃ block found target, (mineDevnet parent .zero "devnet-t" 1 zero).run.value = .ok (block, found) ∧
      Succeeds parent .zero "devnet-t" 1 zero target block found ∧
      block.header.time.toNat = 0xffffffff ∧
      checkProofOfWork found.hash block.header.bits (.ofNat (2 ^ 256 - 1)) = .ok true := by
  intro zero parent
  have expands : compactToTarget 0x207fffff = .ok (.ofNat (0x7fffff * 2 ^ 232)) := by rfl
  obtain ⟨mined_iff, follows⟩ := mineDevnet_succeeds parent .zero "devnet-t" 1 zero
  have some : ∃ outcome, (mineDevnet parent .zero "devnet-t" 1 zero).run.value = .ok outcome := by
    refine mined_iff.mpr ⟨_, expands, by decide, 0, _, Genesis.devnet_eq_ok.mpr ⟨by decide, rfl⟩, ?_⟩
    exact Nat.zero_le _
  obtain ⟨⟨block, found⟩, went⟩ := some
  obtain ⟨target, expanded, succeeds⟩ := follows block found went
  obtain rfl := Except.ok.inj (expanded.symm.trans expands)
  refine ⟨block, found, _, went, succeeds, succeeds.time, succeeds.work ?_ _ ?_⟩
  · decide
  · decide

end NonceSearch

end ChainProfile
