import ChainProfile.Log.Trace
import ChainProfile.Profile

/-! Changes to a profile that exists already. Deployments, DIP3 heights and payment starts change on
the regression network only, the knobs on development networks only. An override that is refused
changes nothing. -/

namespace ChainProfile

structure DeploymentUpdate where
  startTime : Int64
  timeout : Int64
  /-- `none` keeps the window, and likewise the threshold. -/
  window : Option Int64
  threshold : Option Int64
  deriving DecidableEq, Repr

namespace DeploymentUpdate

def between (startTime timeout : Int64) : DeploymentUpdate := ⟨startTime, timeout, none, none⟩

def ofRaw (startTime timeout window threshold : Int64) : DeploymentUpdate :=
  ⟨startTime, timeout, unlessKept window, unlessKept threshold⟩
where
  unlessKept (n : Int64) : Option Int64 := if n = -1 then none else some n

def onto (u : DeploymentUpdate) (d : Deployment) : Deployment where
  bit := d.bit
  startTime := u.startTime
  timeout := u.timeout
  window := u.window.or d.window
  threshold := u.threshold.or d.threshold

end DeploymentUpdate

inductive Override
  | deployment (id : DeploymentId) (update : DeploymentUpdate)
  | dip3 (heights : Dip3Heights)
  | budget (starts : PaymentStarts)
  | knobs (values : DevnetKnobs)
  deriving DecidableEq, Repr

namespace Override

def network : Override → Network
  | .knobs _ => .devnet
  | _ => .regtest

def operation : Override → GuardedOperation
  | .deployment _ _ => .deploymentUpdate
  | .dip3 _ => .dip3Update
  | .budget _ => .budgetUpdate
  | .knobs _ => .knobUpdate

def onConsensus (o : Override) (c : Consensus) : Except ProfileError Consensus :=
  match o with
  | .deployment id update =>
    let table := c.deployments.set id (update.onto (c.deployments.get id))
    match table.validate with
    | .error fault => .error (.deployment fault)
    | .ok () => .ok { c with deployments := table }
  | .dip3 heights => .ok { c with dip3 := heights }
  | .budget starts =>
    if starts.superblock ≤ starts.budget then
      .error (.invalidBudgetSchedule starts.budget starts.superblock)
    else .ok { c with starts }
  | .knobs values => .ok { c with knobs := values }

def apply (o : Override) (p : Profile) : Except ProfileError Profile :=
  if p.network ≠ o.network then .error (.wrongNetwork o.operation p.network)
  else match o.onConsensus p.consensus with
    | .error fault => .error fault
    | .ok consensus => .ok { p with consensus }

def report (o : Override) (c : Consensus) : String :=
  match o with
  | .deployment id update =>
    s!"regtest deployment {id.name} set to start {update.startTime} timeout {update.timeout} window {c.signalWindow id} threshold {c.signalThreshold id}"
  | .dip3 heights =>
    s!"regtest dip3 activation {heights.activation} enforcement {heights.enforcement}"
  | .budget starts =>
    s!"regtest budget: masternode {starts.masternode} budget {starts.budget} superblock {starts.superblock}"
  | .knobs values =>
    s!"devnet knobs: min difficulty blocks {values.minimumDifficultyBlocks} high subsidy blocks {values.highSubsidyBlocks} factor {values.highSubsidyFactor}"

def logTarget : String := "polisd_chainparams::overrides"

def run (o : Override) (p : Profile) : Logged (Except ProfileError Profile) :=
  match o.apply p with
  | .error fault => ⟨.error fault, []⟩
  | .ok q => ⟨.ok q, [.record .info logTarget (o.report q.consensus)]⟩

@[simp] theorem value_run (o : Override) (p : Profile) : (o.run p).value = o.apply p := by
  unfold run
  split <;> simp_all

end Override

end ChainProfile
