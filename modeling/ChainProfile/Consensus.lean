import ChainProfile.Deployment
import ChainProfile.Hash256
import ChainProfile.Network
import ChainProfile.Quorum

/-! The consensus constants of a network, grouped by rule. The three groups that test networks may
replace after construction are `starts`, `dip3` and `knobs`; with the deployment table they are all
that ever changes. -/

namespace ChainProfile

structure PaymentStarts where
  masternode : Int32
  budget : Int32
  superblock : Int32
  deriving DecidableEq, Repr

structure Dip3Heights where
  activation : Int32
  enforcement : Int32
  deriving DecidableEq, Repr

structure DevnetKnobs where
  minimumDifficultyBlocks : Int32
  highSubsidyBlocks : Int32
  highSubsidyFactor : Int32
  deriving DecidableEq, Repr

structure MasternodeRules where
  increaseBlock : Int32
  increasePeriod : Int32
  minimumConfirmations : Int32
  deriving DecidableEq

structure InstantSendRules where
  confirmations : Int32
  keepLock : Int32
  deriving DecidableEq

structure GovernanceRules where
  budgetCycle : Int32
  budgetWindow : Int32
  superblockCycle : Int32
  superblockHash : Option Hash256
  minQuorum : Int32
  filterElements : Int32
  deriving DecidableEq

structure ForkHeights where
  bip34 : Int32
  bip34Hash : Option Hash256
  bip65 : Int32
  bip66 : Int32
  dip1 : Int32
  dip3EnforcementHash : Option Hash256
  deriving DecidableEq

structure WorkRules where
  limit : Hash256
  timespan : Int64
  spacing : Int64
  allowMinDifficulty : Bool
  noRetargeting : Bool
  kgwHeight : Int32
  dgwHeight : Int32
  spacingFixHeight : Option Int32
  /-- The last height that is mined; later blocks are staked. -/
  lastBlock : Int32
  deriving DecidableEq

structure StakeRules where
  spacing : Int64
  timespan : Int64
  minAge : Option Int64
  maxAge : Int64
  minAgeSwitchTime : Option Int64
  mitigationSwitchTime : Option Int64
  firstBits : Option UInt32
  adjustRange : Option Int32
  deriving DecidableEq

structure SignallingRules where
  threshold : Int64
  window : Int64
  deriving DecidableEq

structure QuorumRules where
  table : QuorumTable
  chainLocks : QuorumKind
  instantSend : QuorumKind
  allowDummyCommitments : Bool
  deriving DecidableEq

structure Consensus where
  network : Network
  halvingInterval : Int32
  masternodes : MasternodeRules
  lockedSend : InstantSendRules
  governance : GovernanceRules
  forks : ForkHeights
  work : WorkRules
  stake : StakeRules
  signalling : SignallingRules
  minimumChainWork : Hash256
  assumeValid : Hash256
  quorums : QuorumRules
  deployments : DeploymentTable
  starts : PaymentStarts
  dip3 : Dip3Heights
  knobs : DevnetKnobs
  deriving DecidableEq

namespace Consensus

def neverHeight : Int32 := 0x7fffffff

/-- Blocks between two difficulty adjustments, rounded toward zero. The quotient exists unless the
spacing is zero or the result leaves 64 bits. -/
def adjustmentInterval? (c : Consensus) : Option Int64 :=
  if c.work.spacing = 0 ∨ (c.work.timespan = Int64.minValue ∧ c.work.spacing = -1) then none
  else some (c.work.timespan / c.work.spacing)

def isStaked (c : Consensus) (height : Int32) : Bool := c.work.lastBlock < height

def signalWindow (c : Consensus) (id : DeploymentId) : Int64 :=
  ((c.deployments.get id).window).getD c.signalling.window

def signalThreshold (c : Consensus) (id : DeploymentId) : Int64 :=
  ((c.deployments.get id).threshold).getD c.signalling.threshold

def dip3Active (c : Consensus) (height : Int32) : Bool := c.dip3.activation ≤ height

def dip3Enforced (c : Consensus) (height : Int32) : Bool := c.dip3.enforcement ≤ height

end Consensus

namespace QuorumRules

def chainLocksQuorum (r : QuorumRules) : Except QuorumError Quorum := r.table.role r.chainLocks

def instantSendQuorum (r : QuorumRules) : Except QuorumError Quorum := r.table.role r.instantSend

def validate (r : QuorumRules) : Except QuorumError Unit := do
  r.table.entries.forM fun entry => entry.2.validate
  discard r.chainLocksQuorum
  discard r.instantSendQuorum

end QuorumRules

end ChainProfile
