import ChainProfile.Consensus.Constants
import ChainProfile.NonceSearch
import ChainProfile.Profile

/-! The four profiles. On the main and regression networks the genesis block is fixed and checked,
on the test network it is mined at the proof-of-work limit, and a development network mines a second
block that carries its name. Every profile is validated before it is handed out. -/

namespace ChainProfile.Profile

/-- The root of the block that all networks start from. -/
def genesisRoot : Hash256 :=
  .ofNat 0x5dc9bcf5d1e4802dad0045a88849e3ad97d07a5b8aaee1114ed5ae03b98c4bfc

def mainGenesisHash : Hash256 :=
  .ofNat 0x000009701eb781a8113b1af1d814e2f060f6408a2c990db291bc5108a1345c1e

def regtestGenesisHash : Hash256 :=
  .ofNat 0x00000f3b4ec57f851b3706c056eda3120875896c9970495ae2efd49b46472a05

def mainGenesis : Block := Genesis.standard 1513862955 327643 0x1e0ffff0 1 Genesis.reward

def testnetCandidate : Block := Genesis.standard 1569000000 0 0x1f00ffff 1 Genesis.reward

def devnetGenesis : Block := Genesis.standard 1417713337 1096447 0x207fffff 1 Genesis.reward

def regtestGenesis : Block := Genesis.standard 1513831322 887612 0x1e0ffff0 1 Genesis.reward

def testAlertKey : Bytes :=
  Bytes.be 65
    0x04517d8a699cb43d3938d7b24faaff7cda448ca4ea267723ba614784de661949bf632d6304316b244646dea079735b9a6fc4af804efb4752075b9fe2245e14e412

def mainPrefixes : Base58Prefixes :=
  ⟨55, 56, 60, [0x03, 0xe2, 0x5d, 0x7e], [0x03, 0xe2, 0x59, 0x45]⟩

def testPrefixes : Base58Prefixes :=
  ⟨140, 19, 239, [0x04, 0x35, 0x87, 0xcf], [0x04, 0x35, 0x83, 0x94]⟩

def mainCheckpoints : List Checkpoint :=
  [⟨0, mainGenesisHash⟩,
   ⟨10, .ofNat 0x000006f686844f1873f4fcf77516eaa0a11f5762b797314c5875438c97fe4562⟩,
   ⟨50, .ofNat 0x00000547ca650f3be6ddf31871dfd5f76faafcd12b6083706e3d0a88c9a0cdbe⟩,
   ⟨100, .ofNat 0x000001c12d74ca8120d2751bb2846a5af44892045099750efe73a0cbb1eca860⟩,
   ⟨200, .ofNat 0x000000053db45327e7fcce9b8baf9060622c01456ac677121a6f8dcf15a98d7b⟩,
   ⟨300, .ofNat 0x00000000027d5a77e5c38e366465be2f21292fa3eb4d290efb6316eebcc5c0ca⟩,
   ⟨400, .ofNat 0x0000000000004bcce3cea51dd54da213272b7ef1aa35dca5269e92a56ec7974b⟩,
   ⟨500, .ofNat 0x000000000000157f78c69400b85824588e381ca4d11384e172394468a02bea32⟩,
   ⟨1000, .ofNat 0x00000000000061cd1733fc8b84017169be61d6a2406f21f8dca0dd9a57c7de96⟩,
   ⟨2000, .ofNat 0x000000000000129a0f9540f12a27a6b13242fa2d9b90f52083d860fa5ef5ec3e⟩,
   ⟨3000, .ofNat 0x0000000000000b5968c7af1b6e76b6958aa6058bf2f0a7aa66e67cbf4d47b690⟩,
   ⟨4000, .ofNat 0x0000000000000b443f7faeaaf85178b5364664ee7374259cf0f7b03e9531a108⟩,
   ⟨5000, .ofNat 0x00000000000004779b06d324ea780378ad8e41ddc9056129444030243faf5ad4⟩,
   ⟨6000, .ofNat 0x00000000000027ffb241efa3fafa43a3121216d70e79b28bc2afb8457d84cbfe⟩,
   ⟨7000, .ofNat 0x0000000000003a79e1b54fe39070e0d53799cdca901db726eb1c847ce8d0c890⟩,
   ⟨8000, .ofNat 0x000000000000045991733d2bc793d17a6fcafd7bfa35adb68b4036813b64fbf1⟩,
   ⟨70000, .ofNat 0x00000000000006fd8cdcc16c6432c8934e8f4b598f447db295851107437647a7⟩,
   ⟨80000, .ofNat 0x0000000000000eaf98251863568f95a865bba9476e060d93dfd7f02f123b0748⟩,
   ⟨100000, .ofNat 0x0000000000000818820ee2aecc291c7b6076984cf7c0c152869de128cf30262f⟩,
   ⟨111111, .ofNat 0x0000000000000bcea9747fd93566d7c37d7e07afb50066f332e17925ef776b3b⟩,
   ⟨226729, .ofNat 0x679fcb43f8318a3bdf42908c5290b6871426de008321589b72dcca907eeba0ea⟩,
   ⟨229186, .ofNat 0x79eb91ffb16cf095b4bc730ea2bd158df1aa81ee3246f64b85535b18d91593d6⟩,
   ⟨262800, .ofNat 0xc7ba46c8521735e42a84f9bb84b5bcc3fb6b57a2f32aee5d5c03ab52e0cf0e57⟩,
   ⟨270300, .ofNat 0xe31ddef7188566d6bbd8b1b74ba31b1ade883673bec95c6b4a41d5c21ab7f691⟩,
   ⟨280600, .ofNat 0xf2911e19b667f05b091d8217098813055aa26e1eca6c8eba5b84ff63df414208⟩,
   ⟨324353, .ofNat 0x852675a3957d48e0f1198fdda33e496211317d89bab71ff39c28faaf3d4e61af⟩,
   ⟨336284, .ofNat 0xd3dbdedff4c5b1f6e47ab43d2b0dc1f9a5a011035b4b936284a5b8725d405a78⟩,
   ⟨379624, .ofNat 0x58b38dde8562a110d53bae6cc5326678615a9f461095bcc189b6de6d0f7e65cc⟩]

def mainnet (hasher : HeaderHasher) : Except ProfileError Profile := do
  let genesisHash ← Genesis.verify .main mainGenesis hasher mainGenesisHash genesisRoot
  return {
    network := .main
    consensus := .mainnet
    messageStart := [0xbf, 0x0c, 0x6b, 0xbd]
    port := 24126
    pruneAfterHeight := 100000
    alertKey := Genesis.outputKey
    genesis := mainGenesis
    genesisHash
    devnetBlock := none
    dnsSeeds := ["dnsseed.poliscentral.org", "dnsseed.polispay.org"]
    fixedSeeds := []
    base58 := mainPrefixes
    coinType := 1997
    flags := {
      miningRequiresPeers := true
      consistencyChecks := false
      requireStandard := true
      mineOnDemand := false
      manyAddressesPerGroup := false
      manyPorts := false
      checkMasternodesUpgraded := true }
    poolMin := 3
    poolMax := 5
    requestExpiry := 60 * 60
    sporkAddresses := ["PAvya6xSBRb755Uhe2aXBFsjuyi68hTP8u"]
    minSporkKeys := 1
    checkpoints := mainCheckpoints
    chainTx := ⟨1561487163, 900795, 0.1⟩ }

def testnetOf (genesis : Block) (genesisHash : Hash256) : Profile where
  network := .testnet
  consensus := .testnet
  messageStart := [0xce, 0xe2, 0xca, 0xff]
  port := 21430
  pruneAfterHeight := 1000
  alertKey := testAlertKey
  genesis := genesis
  genesisHash := genesisHash
  devnetBlock := none
  dnsSeeds := ["testnetseed.poliscentral.org", "testnetseed2.poliscentral.org"]
  fixedSeeds := []
  base58 := testPrefixes
  coinType := 1
  flags := {
    miningRequiresPeers := true
    consistencyChecks := false
    requireStandard := false
    mineOnDemand := false
    manyAddressesPerGroup := false
    manyPorts := false
    checkMasternodesUpgraded := true }
  poolMin := 3
  poolMax := 3
  requestExpiry := 5 * 60
  sporkAddresses := ["yMCScEFCuhFGQL8aBS8UPXnKriFtjMVWra"]
  minSporkKeys := 1
  checkpoints := [⟨0, genesisHash⟩]
  chainTx := .none

def testnet (hasher : HeaderHasher) : ExceptT ProfileError Logged Profile := do
  let (genesis, found) ←
    NonceSearch.mine .testnet testnetCandidate Consensus.testnet.work.limit hasher
  return testnetOf genesis found.hash

def devnetOf (name : String) (genesisHash : Hash256) (second : Block) (secondHash : Hash256) :
    Profile where
  network := .devnet
  consensus := .devnet
  messageStart := [0xe2, 0xca, 0xff, 0xce]
  port := 19999
  pruneAfterHeight := 1000
  alertKey := testAlertKey
  genesis := devnetGenesis
  genesisHash := genesisHash
  devnetBlock := some ⟨name, second, secondHash⟩
  dnsSeeds := []
  fixedSeeds := []
  base58 := testPrefixes
  coinType := 1
  flags := {
    miningRequiresPeers := true
    consistencyChecks := false
    requireStandard := false
    mineOnDemand := false
    manyAddressesPerGroup := true
    manyPorts := true
    checkMasternodesUpgraded := false }
  poolMin := 3
  poolMax := 3
  requestExpiry := 5 * 60
  sporkAddresses := ["yjPtiKh2uwk3bDutTEA2q9mCtXyiZRWn55"]
  minSporkKeys := 1
  checkpoints := [⟨0, genesisHash⟩, ⟨1, secondHash⟩]
  chainTx := ⟨second.header.time.toUInt64.toInt64, 2, 0.01⟩

def devnet (hasher : HeaderHasher) (name : String) : ExceptT ProfileError Logged Profile := do
  let genesisHash := devnetGenesis.header.hash hasher
  let fullName := Genesis.devnetName name
  let (second, found) ←
    NonceSearch.mineDevnet devnetGenesis.header genesisHash fullName Genesis.reward hasher
  return devnetOf fullName genesisHash second found.hash

def regtest (hasher : HeaderHasher) : Except ProfileError Profile := do
  let genesisHash ← Genesis.verify .regtest regtestGenesis hasher regtestGenesisHash genesisRoot
  return {
    network := .regtest
    consensus := .regtest
    messageStart := [0xfc, 0xc1, 0xb7, 0xdc]
    port := 19994
    pruneAfterHeight := 1000
    alertKey := []
    genesis := regtestGenesis
    genesisHash
    devnetBlock := none
    dnsSeeds := []
    fixedSeeds := []
    base58 := testPrefixes
    coinType := 1
    flags := {
      miningRequiresPeers := false
      consistencyChecks := true
      requireStandard := false
      mineOnDemand := true
      manyAddressesPerGroup := true
      manyPorts := true
      checkMasternodesUpgraded := false }
    poolMin := 3
    poolMax := 5
    requestExpiry := 5 * 60
    sporkAddresses := ["yj949n1UH6fDhw6HtVE5VMj2iSTaSWBMcW"]
    minSporkKeys := 1
    checkpoints := [⟨0, genesisHash⟩]
    chainTx := .none }

def logTarget : String := "polisd_chainparams::networks"

/-- The profile before validation; the name matters on development networks only. -/
def draft (network : Network) (hasher : HeaderHasher) (devnetName : String) :
    ExceptT ProfileError Logged Profile :=
  match network with
  | .main => ExceptT.mk (pure (mainnet hasher))
  | .testnet => testnet hasher
  | .devnet => devnet hasher devnetName
  | .regtest => ExceptT.mk (pure (regtest hasher))

def build (network : Network) (hasher : HeaderHasher) (devnetName : String) :
    ExceptT ProfileError Logged Profile := do
  let profile ← draft network hasher devnetName
  ExceptT.mk (pure profile.validate)
  Logged.record .info logTarget
    s!"built {network.token} parameters (genesis {profile.genesisHash.hex}, {profile.checkpoints.length} checkpoints)"
  return profile

end ChainProfile.Profile
