import ChainProfile.Checkpoint
import ChainProfile.Deployment
import ChainProfile.Difficulty
import ChainProfile.Network
import ChainProfile.Quorum

/-! Why a profile cannot be built, changed or selected, and the wording of each cause. -/

namespace ChainProfile

inductive GenesisField
  | blockHash
  | merkleRoot
  deriving DecidableEq, Repr

def GenesisField.name : GenesisField → String
  | .blockHash => "block hash"
  | .merkleRoot => "merkle root"

inductive GuardedOperation
  | networkSelection
  | devnetRename
  | deploymentUpdate
  | dip3Update
  | budgetUpdate
  | knobUpdate
  | regtestOverride
  deriving DecidableEq, Repr

def GuardedOperation.name : GuardedOperation → String
  | .networkSelection => "network selection"
  | .devnetRename => "devnet rename"
  | .deploymentUpdate => "deployment update"
  | .dip3Update => "dip3 update"
  | .budgetUpdate => "budget update"
  | .knobUpdate => "subsidy and difficulty update"
  | .regtestOverride => "regtest parameter override"

inductive ProfileError
  | unknownNetwork (token : String)
  | genesisMismatch (network : Network) (field : GenesisField) (expected actual : Hash256)
  | nonceSpaceExhausted (network : Network) (bits : UInt32)
  | notSelected
  | devnetNotSelected
  | emptyDevnetName
  | wrongNetwork (operation : GuardedOperation) (network : Network)
  | notInSetup (operation : GuardedOperation)
  | invalidBudgetSchedule (budgetStart superblockStart : Int32)
  | deployment (cause : DeploymentError)
  | checkpoints (network : Network) (cause : CheckpointError)
  | quorum (cause : QuorumError)
  | compact (cause : Difficulty.CompactError)
  deriving DecidableEq

def hexWord (n : UInt32) : String := "0x" ++ Text.Hex.encode (Bytes.be 4 n.toNat)

def ProfileError.message : ProfileError → String
  | .unknownNetwork token => s!"unknown network '{token}' (expected main, test, dev or regtest)"
  | .genesisMismatch network field expected actual =>
    s!"{network.token} genesis {field.name} mismatch (expected {expected.hex}, got {actual.hex})"
  | .nonceSpaceExhausted network bits =>
    s!"{network.token} genesis: no nonce meets target {hexWord bits}"
  | .notSelected => "no network has been selected"
  | .devnetNotSelected => "devnet parameters requested before devnet was selected"
  | .emptyDevnetName => "devnet name must not be empty"
  | .wrongNetwork operation network =>
    s!"{operation.name} is not allowed on the {network.token} network"
  | .notInSetup operation => s!"{operation.name} is only allowed during setup"
  | .invalidBudgetSchedule budgetStart superblockStart =>
    s!"superblock start {superblockStart} must be above budget payments start {budgetStart}"
  | .deployment cause => cause.message
  | .checkpoints network cause => s!"{network.token} checkpoints: {cause.message}"
  | .quorum cause => cause.message
  | .compact cause => cause.message

end ChainProfile
