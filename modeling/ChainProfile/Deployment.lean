/-! Soft-fork deployments. Miners signal a deployment on a bit of the block version during a window
of blocks; window and threshold may be left to the network. `DeploymentTable.validate` accepts the
tables with usable, distinct bits and no threshold above its own window. -/

namespace ChainProfile

inductive DeploymentId
  | testDummy
  | csv
  | dip0001
  | bip147
  | dip0003
  | dip0008
  deriving DecidableEq, Repr

namespace DeploymentId

def all : List DeploymentId := [testDummy, csv, dip0001, bip147, dip0003, dip0008]

def index : DeploymentId → Nat
  | testDummy => 0
  | csv => 1
  | dip0001 => 2
  | bip147 => 3
  | dip0003 => 4
  | dip0008 => 5

def name : DeploymentId → String
  | testDummy => "testdummy"
  | csv => "csv"
  | dip0001 => "dip0001"
  | bip147 => "bip147"
  | dip0003 => "dip0003"
  | dip0008 => "dip0008"

def ofName? (text : String) : Option DeploymentId := all.find? fun id => id.name == text

theorem mem_all (id : DeploymentId) : id ∈ all := by
  cases id <;> simp [all]

theorem ofName?_name (id : DeploymentId) : ofName? id.name = some id := by
  cases id <;> decide

def gbtForce (_ : DeploymentId) : Bool := true

def later (id : DeploymentId) : List DeploymentId := all.filter fun other => id.index < other.index

end DeploymentId

structure Deployment where
  bit : UInt8
  startTime : Int64
  timeout : Int64
  window : Option Int64
  threshold : Option Int64
  deriving DecidableEq, Repr

namespace Deployment

/-- The highest signalling bit; the three above it mark the version itself. -/
def maxBit : UInt8 := 28

def never : Int64 := 0xffffffff

def alwaysActive : Int64 := -1

def noTimeout : Int64 := 0x7fffffffffffffff

def between (bit : UInt8) (startTime timeout : Int64) : Deployment :=
  ⟨bit, startTime, timeout, none, none⟩

def withWindow (d : Deployment) (window threshold : Int64) : Deployment :=
  { d with window := some window, threshold := some threshold }

def isAlwaysActive (d : Deployment) : Bool := d.startTime = alwaysActive

def neverStarts (d : Deployment) : Bool := d.startTime = never

def thresholdAboveWindow (d : Deployment) : Bool :=
  match d.window, d.threshold with
  | some window, some threshold => window < threshold
  | _, _ => false

end Deployment

inductive DeploymentError
  | bitOutOfRange (id : DeploymentId) (bit : UInt8)
  | duplicateBit (first second : DeploymentId) (bit : UInt8)
  | thresholdAboveWindow (id : DeploymentId)
  deriving DecidableEq, Repr

def DeploymentError.message : DeploymentError → String
  | .bitOutOfRange id bit => s!"deployment {id.name} signals on bit {bit} (max {Deployment.maxBit})"
  | .duplicateBit first second bit =>
    s!"deployments {first.name} and {second.name} both signal on bit {bit}"
  | .thresholdAboveWindow id => s!"deployment {id.name} threshold exceeds its window"

structure DeploymentTable where
  testDummy : Deployment
  csv : Deployment
  dip0001 : Deployment
  bip147 : Deployment
  dip0003 : Deployment
  dip0008 : Deployment
  deriving DecidableEq, Repr

namespace DeploymentTable

def get (t : DeploymentTable) : DeploymentId → Deployment
  | .testDummy => t.testDummy
  | .csv => t.csv
  | .dip0001 => t.dip0001
  | .bip147 => t.bip147
  | .dip0003 => t.dip0003
  | .dip0008 => t.dip0008

def set (t : DeploymentTable) (id : DeploymentId) (d : Deployment) : DeploymentTable :=
  match id with
  | .testDummy => { t with testDummy := d }
  | .csv => { t with csv := d }
  | .dip0001 => { t with dip0001 := d }
  | .bip147 => { t with bip147 := d }
  | .dip0003 => { t with dip0003 := d }
  | .dip0008 => { t with dip0008 := d }

@[simp] theorem get_set_self (t : DeploymentTable) (id : DeploymentId) (d : Deployment) :
    (t.set id d).get id = d := by
  cases id <;> rfl

theorem get_set_of_ne (t : DeploymentTable) {id other : DeploymentId} (d : Deployment)
    (h : other ≠ id) : (t.set id d).get other = t.get other := by
  cases id <;> cases other <;> simp_all [get, set]

theorem ext_get {t u : DeploymentTable} (h : ∀ id, t.get id = u.get id) : t = u := by
  cases t
  cases u
  simp only [mk.injEq]
  exact ⟨h .testDummy, h .csv, h .dip0001, h .bip147, h .dip0003, h .dip0008⟩

/-- What is wrong at one position; a shared bit counts at the earlier of its two positions. -/
def faultAt? (t : DeploymentTable) (id : DeploymentId) : Option DeploymentError :=
  let d := t.get id
  if Deployment.maxBit < d.bit then some (.bitOutOfRange id d.bit)
  else if d.thresholdAboveWindow then some (.thresholdAboveWindow id)
  else (id.later.find? fun other => (t.get other).bit == d.bit).map fun other =>
    .duplicateBit id other d.bit

def fault? (t : DeploymentTable) : Option DeploymentError := DeploymentId.all.findSome? t.faultAt?

def validate (t : DeploymentTable) : Except DeploymentError Unit :=
  match t.fault? with
  | some fault => .error fault
  | none => .ok ()

end DeploymentTable

end ChainProfile
