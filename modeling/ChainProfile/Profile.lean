import ChainProfile.Block
import ChainProfile.Consensus
import ChainProfile.Profile.Error

/-! Network profiles: all that a node has to know about the network it joins. `validate` checks the
parts that later changes could break: deployments, quorums, checkpoints, in that order. -/

namespace ChainProfile

structure ChainTxData where
  time : Int64
  count : UInt64
  rate : Float

namespace ChainTxData

def none : ChainTxData := ⟨0, 0, 0⟩

/-- Seconds since `time`, never negative and at most what a signed word of 64 bits holds. -/
def elapsed (d : ChainTxData) (now : Int64) : Int64 :=
  Int64.ofInt (min (max (now.toInt - d.time.toInt) 0) Int64.maxValue.toInt)

def estimate (d : ChainTxData) (now : Int64) : Float :=
  d.count.toFloat + (d.elapsed now).toFloat * d.rate

end ChainTxData

structure Base58Prefixes where
  pubkeyAddress : UInt8
  scriptAddress : UInt8
  secretKey : UInt8
  extPublicKey : Bytes
  extSecretKey : Bytes
  deriving DecidableEq

structure NetworkFlags where
  miningRequiresPeers : Bool
  consistencyChecks : Bool
  requireStandard : Bool
  mineOnDemand : Bool
  manyAddressesPerGroup : Bool
  manyPorts : Bool
  checkMasternodesUpgraded : Bool
  deriving DecidableEq

structure DevnetGenesis where
  name : String
  block : Block
  hash : Hash256
  deriving DecidableEq

structure Profile where
  network : Network
  consensus : Consensus
  messageStart : Bytes
  port : UInt16
  pruneAfterHeight : UInt64
  alertKey : Bytes
  genesis : Block
  genesisHash : Hash256
  devnetBlock : Option DevnetGenesis
  dnsSeeds : List String
  fixedSeeds : List String
  base58 : Base58Prefixes
  coinType : UInt32
  flags : NetworkFlags
  poolMin : UInt32
  poolMax : UInt32
  requestExpiry : Int64
  sporkAddresses : List String
  minSporkKeys : UInt32
  checkpoints : List Checkpoint
  chainTx : ChainTxData

namespace Profile

def devnetName (p : Profile) : Option String := p.devnetBlock.map DevnetGenesis.name

def validateCheckpoints (p : Profile) : Except CheckpointError Unit :=
  Checkpoint.validate p.genesisHash p.checkpoints

def validate (p : Profile) : Except ProfileError Unit := do
  p.consensus.deployments.validate.mapError .deployment
  p.consensus.quorums.validate.mapError .quorum
  p.validateCheckpoints.mapError (.checkpoints p.network)

end Profile

end ChainProfile
