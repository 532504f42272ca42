import ChainProfile.Proofs.Genesis.Mismatch
import ChainProfile.Proofs.Profile.Anchored

/-! Checkpoint look-ups of a profile. Its table is validated by its neighbours only, but that puts all
of it in order, so both searches answer exactly what the table holds: a hash for the heights of its
entries and for no other, and an entry to start from for every height of the chain. -/

namespace ChainProfile

/-- Both look-ups answer with the entries of the table, whatever the height. -/
structure Checkpoint.Exact (table : List Checkpoint) : Prop where
  hashAt : ∀ height hash, hashAt? table height = some hash ↔ ⟨height, hash⟩ ∈ table
  lastAtOrBelow : ∀ height c, lastAtOrBelow? table height = some c ↔
    c ∈ table ∧ c.height ≤ height ∧ ∀ d ∈ table, d.height ≤ height → d.height ≤ c.height
  beforeGenesis : ∀ height, lastAtOrBelow? table height = none ↔ height < 0

namespace Profile

variable {p : Profile}

theorem exact_of_validateCheckpoints (valid : p.validateCheckpoints = .ok ()) :
    Checkpoint.Exact p.checkpoints := by
  obtain ⟨start, ascending⟩ := Checkpoint.validate_eq_ok.mp valid
  constructor
  · exact fun height hash => Checkpoint.hashAt?_eq_some ascending
  · exact fun height c => Checkpoint.lastAtOrBelow?_eq_some ascending
  · intro height
    rw [Checkpoint.lastAtOrBelow?_eq_none ascending start]

theorem validateCheckpoints_eq_ok :
    p.validateCheckpoints = .ok () ↔
      (∃ rest, p.checkpoints = ⟨0, p.genesisHash⟩ :: rest) ∧
        ∀ i j (before : i < j) (inside : j < p.checkpoints.length),
          p.checkpoints[i].height < p.checkpoints[j].height := by
  rw [validateCheckpoints, Checkpoint.validate_eq_ok, List.head?_eq_some_iff]
  refine and_congr_right fun _ => List.pairwise_iff_getElem.trans ?_
  constructor
  · exact fun rises i j before inside => rises i j (Nat.lt_trans before inside) inside before
  · exact fun rises i j _ inside before => rises i j before inside

/-- A table passes exactly if it starts with the genesis block and every height is above all before it,
and then its look-ups are exact. -/
theorem checkpoints_exact (p : Profile) :
    (p.validateCheckpoints = .ok () → Checkpoint.Exact p.checkpoints) ∧
      (p.validateCheckpoints = .ok () ↔
        (∃ rest, p.checkpoints = ⟨0, p.genesisHash⟩ :: rest) ∧
          ∀ i j (before : i < j) (inside : j < p.checkpoints.length),
            p.checkpoints[i].height < p.checkpoints[j].height) :=
  ⟨exact_of_validateCheckpoints, validateCheckpoints_eq_ok⟩

theorem ascending_mainCheckpoints : Checkpoint.Ascending mainCheckpoints :=
  Checkpoint.firstStall?_eq_none.mp rfl

theorem exists_mainnet : ∃ p, mainnet (fun _ => mainGenesisHash) = .ok p ∧
    p.checkpoints = mainCheckpoints ∧ p.validateCheckpoints = .ok () := by
  have rooted : mainGenesis.Rooted := Genesis.rooted_standard _ _ _ _ _
  have verified : Genesis.verify .main mainGenesis (fun _ => mainGenesisHash) mainGenesisHash
      genesisRoot = .ok mainGenesisHash :=
    Genesis.verify_eq_ok.mpr ⟨rooted.symm, Genesis.merkleRoot_mainGenesis, rfl, rfl⟩
  have valid : Checkpoint.validate mainGenesisHash mainCheckpoints = .ok () :=
    Checkpoint.validate_eq_ok.mpr ⟨rfl, ascending_mainCheckpoints⟩
  rw [mainnet, verified]
  exact ⟨_, rfl, rfl, valid⟩

theorem checkpoints_exact_mainnet :
    ∃ p, mainnet (fun _ => mainGenesisHash) = .ok p ∧ p.validateCheckpoints = .ok () ∧
      Checkpoint.hashAt? p.checkpoints 226728 = none ∧
      Checkpoint.lastAtOrBelow? p.checkpoints 226728 = mainCheckpoints[19]? ∧
      Checkpoint.lastAtOrBelow? p.checkpoints Int32.maxValue = mainCheckpoints.getLast? ∧
      Checkpoint.lastAtOrBelow? p.checkpoints (-1) = none := by
  obtain ⟨p, made, table, valid⟩ := exists_mainnet
  have exact := (checkpoints_exact p).1 valid
  rw [table] at exact
  have absent : ∀ c ∈ mainCheckpoints, c.height ≠ 226728 := by decide
  refine ⟨p, made, valid, ?_⟩
  rw [table]
  refine ⟨?_, ?_, ?_, ?_⟩
  · refine Option.eq_none_iff_forall_ne_some.mpr fun hash found => ?_
    exact absent _ ((exact.hashAt _ hash).mp found) rfl
  · exact (exact.lastAtOrBelow _ _).mpr (by decide)
  · exact (exact.lastAtOrBelow _ _).mpr (by decide)
  · exact (exact.beforeGenesis _).mpr (by decide)

end Profile

end ChainProfile
