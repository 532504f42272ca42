import ChainProfile.Consensus

/-! The consensus constants of the four networks. -/

namespace ChainProfile.Consensus

def testDummy : Deployment := .between 28 1199145601 1230767999

def mainnet : Consensus where
  network := .main
  halvingInterval := 262800
  masternodes := ⟨neverHeight, neverHeight, 15⟩
  lockedSend := ⟨6, 24⟩
  governance := {
    budgetCycle := 16616
    budgetWindow := 100
    superblockCycle := 16616
    superblockHash :=
      some (.ofNat 0x0000000000000a7d13390bb29ac6d4466afb16358aeb3cd0656215392ed2468d)
    minQuorum := 10
    filterElements := 20000 }
  forks := {
    bip34 := 951
    bip34Hash :=
      some (.ofNat 0x000001f35e70f7c5705f64c6c5cc3dea9449e74d5b5c7cf74dad1bcca14a8012)
    bip65 := 84672
    bip66 := 245817
    dip1 := 12096
    dip3EnforcementHash := none }
  work := {
    limit := .ofNat 0x00000fffff000000000000000000000000000000000000000000000000000000
    timespan := 24 * 60 * 60
    spacing := 120
    allowMinDifficulty := false
    noRetargeting := false
    kgwHeight := 551
    dgwHeight := 551
    spacingFixHeight := some 381587
    lastBlock := 209720 }
  stake := {
    spacing := 2 * 60
    timespan := 40 * 60
    minAge := none
    maxAge := 24 * 60 * 60
    minAgeSwitchTime := some 1561734000
    mitigationSwitchTime := some 1570665600
    firstBits := some 0x1e0ffff0
    adjustRange := some 5 }
  signalling := ⟨1916, 2016⟩
  minimumChainWork := .zero
  assumeValid := .ofNat 0x00000000000002115266e3f36778feb4fe9488fccabcd004e13c13ab46ddfaeb
  quorums := {
    table := .ofKinds [.fifty60, .fourHundred60, .fourHundred85]
    chainLocks := .fourHundred60
    instantSend := .fifty60
    allowDummyCommitments := false }
  deployments := {
    testDummy := testDummy
    csv := .between 0 1486252800 1517788800
    dip0001 := (Deployment.between 1 1508025600 1539561600).withWindow 4032 3226
    bip147 := (Deployment.between 2 1524477600 1556013600).withWindow 4032 3226
    dip0003 := (Deployment.between 3 Deployment.never Deployment.never).withWindow 4032 3226
    dip0008 := (Deployment.between 4 Deployment.never Deployment.never).withWindow 4032 3226 }
  starts := ⟨15, 32800, 66464⟩
  dip3 := ⟨neverHeight, neverHeight⟩
  knobs := ⟨0, 0, 1⟩

def testnet : Consensus where
  network := .testnet
  halvingInterval := neverHeight
  masternodes := ⟨neverHeight, neverHeight, 1⟩
  lockedSend := ⟨2, 6⟩
  governance := {
    budgetCycle := 24
    budgetWindow := 10
    superblockCycle := 24
    superblockHash := none
    minQuorum := 1
    filterElements := 500 }
  forks := {
    bip34 := 76
    bip34Hash :=
      some (.ofNat 0x000008ebb1db2598e897d17275285767717c6acfeac4c73def49fbea1ddcbcb6)
    bip65 := 2431
    bip66 := 2075
    dip1 := 50
    dip3EnforcementHash := none }
  work := {
    limit := .ofNat 0x0000fffff0000000000000000000000000000000000000000000000000000000
    timespan := 24 * 60 * 60
    spacing := 2 * 60
    allowMinDifficulty := true
    noRetargeting := false
    kgwHeight := 4001
    dgwHeight := 4001
    spacingFixHeight := none
    lastBlock := 150 }
  stake := {
    spacing := 2 * 60
    timespan := 40 * 60
    minAge := none
    maxAge := 30 * 24 * 60 * 60
    minAgeSwitchTime := none
    mitigationSwitchTime := none
    firstBits := some 0x1f00ffff
    adjustRange := some 1 }
  signalling := ⟨1512, 2016⟩
  minimumChainWork := .zero
  assumeValid := .zero
  quorums := {
    table := .ofKinds [.fifty60, .fourHundred60, .fourHundred85]
    chainLocks := .fifty60
    instantSend := .fifty60
    allowDummyCommitments := true }
  deployments := {
    testDummy := testDummy
    csv := .between 0 Deployment.alwaysActive Deployment.noTimeout
    dip0001 :=
      (Deployment.between 1 Deployment.alwaysActive Deployment.noTimeout).withWindow 4032 3226
    bip147 :=
      (Deployment.between 2 Deployment.alwaysActive Deployment.noTimeout).withWindow 4032 3226
    dip0003 :=
      (Deployment.between 3 Deployment.alwaysActive Deployment.noTimeout).withWindow 4032 3226
    dip0008 := (Deployment.between 4 Deployment.never Deployment.never).withWindow 4032 3226 }
  starts := ⟨15, 46, 3050⟩
  dip3 := ⟨1500, neverHeight⟩
  knobs := ⟨0, 0, 1⟩

def devnet : Consensus where
  network := .devnet
  halvingInterval := 210240
  masternodes := ⟨4030, 10, 1⟩
  lockedSend := ⟨2, 6⟩
  governance := {
    budgetCycle := 50
    budgetWindow := 10
    superblockCycle := 24
    superblockHash := none
    minQuorum := 1
    filterElements := 500 }
  forks := {
    bip34 := 1
    bip34Hash := none
    bip65 := 1
    bip66 := 1
    dip1 := 2
    dip3EnforcementHash := none }
  work := {
    limit := .ofNat 0x7fffffffffffffffffffffffffffffffffffffffffffffffffffffffffffffff
    timespan := 24 * 60 * 60
    spacing := 150
    allowMinDifficulty := true
    noRetargeting := false
    kgwHeight := 4001
    dgwHeight := 4001
    spacingFixHeight := some 700
    lastBlock := 180675 }
  stake := {
    spacing := 2 * 60
    timespan := 40 * 60
    minAge := some (60 * 60)
    maxAge := 24 * 60 * 60
    minAgeSwitchTime := some 1561734000
    mitigationSwitchTime := none
    firstBits := none
    adjustRange := none }
  signalling := ⟨1512, 2016⟩
  minimumChainWork := .zero
  assumeValid := .zero
  quorums := {
    table := .ofKinds [.fifty60, .fourHundred60, .fourHundred85]
    chainLocks := .fifty60
    instantSend := .fifty60
    allowDummyCommitments := true }
  deployments := {
    testDummy := testDummy
    csv := .between 0 1506556800 1538092800
    dip0001 := (Deployment.between 1 1505692800 1537228800).withWindow 100 50
    bip147 := (Deployment.between 2 1517792400 1549328400).withWindow 100 50
    dip0003 := (Deployment.between 3 1535752800 1567288800).withWindow 100 50
    dip0008 := (Deployment.between 4 1553126400 1584748800).withWindow 100 50 }
  starts := ⟨4010, 4100, 4200⟩
  dip3 := ⟨neverHeight, neverHeight⟩
  knobs := ⟨0, 0, 1⟩

def regtest : Consensus where
  network := .regtest
  halvingInterval := 150
  masternodes := ⟨350, 10, 1⟩
  lockedSend := ⟨2, 6⟩
  governance := {
    budgetCycle := 50
    budgetWindow := 10
    superblockCycle := 10
    superblockHash := none
    minQuorum := 1
    filterElements := 100 }
  forks := {
    bip34 := 100000000
    bip34Hash := none
    bip65 := 1351
    bip66 := 1251
    dip1 := 2000
    dip3EnforcementHash := none }
  work := {
    limit := .ofNat 0x7fffffffffffffffffffffffffffffffffffffffffffffffffffffffffffffff
    timespan := 24 * 60 * 60
    spacing := 120
    allowMinDifficulty := true
    noRetargeting := true
    kgwHeight := 15200
    dgwHeight := 34140
    spacingFixHeight := some 700
    lastBlock := 25 }
  stake := {
    spacing := 30
    timespan := 40 * 60
    minAge := some 60
    maxAge := 24 * 60 * 60
    minAgeSwitchTime := some 1561734000
    mitigationSwitchTime := none
    firstBits := some 0x1e0ffff0
    adjustRange := none }
  signalling := ⟨108, 144⟩
  minimumChainWork := .zero
  assumeValid := .zero
  quorums := {
    table := .ofKinds [.ten60, .fifty60]
    chainLocks := .ten60
    instantSend := .ten60
    allowDummyCommitments := true }
  deployments := {
    testDummy := .between 28 0 999999999999
    csv := .between 0 0 999999999999
    dip0001 := .between 1 0 999999999999
    bip147 := .between 2 0 999999999999
    dip0003 := .between 3 0 999999999999
    dip0008 := .between 4 0 999999999999 }
  starts := ⟨240, 25, 1500⟩
  dip3 := ⟨neverHeight, neverHeight⟩
  knobs := ⟨0, 0, 1⟩

def of : Network → Consensus
  | .main => mainnet
  | .testnet => testnet
  | .devnet => devnet
  | .regtest => regtest

theorem network_of (n : Network) : (of n).network = n := by
  cases n <;> rfl

end ChainProfile.Consensus
