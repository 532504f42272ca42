import ChainProfile.Options.NodeOptions
import ChainProfile.Registry

/-! A node's options at work. The log is configured first; options that do not fit the network are
refused before the registry is touched; then the network is selected and the overrides follow one
after the other, up to the first that fails. -/

namespace ChainProfile.NodeOptions

open Registry (Step Request)

def isRegtestOnly (o : NodeOptions) : Bool :=
  !o.deployments.isEmpty || o.budget.isSome || o.dip3.isSome

/-- The cause for which options are refused on their own network. -/
def misplaced? (o : NodeOptions) : Option ProfileError :=
  if o.isRegtestOnly ∧ o.network ≠ .regtest then some (.wrongNetwork .regtestOverride o.network)
  else if o.knobs.isSome ∧ o.network ≠ .devnet then some (.wrongNetwork .knobUpdate o.network)
  else none

def overrides (o : NodeOptions) : List Override :=
  o.deployments.map (fun d => .deployment d.1 d.2) ++ (o.dip3.map Override.dip3).toList ++
    (o.budget.map Override.budget).toList ++ (o.knobs.map Override.knobs).toList

def requests (o : NodeOptions) : List Request :=
  (o.devnetName.map Request.setDevnetName).toList ++ [.select o.network] ++
    o.overrides.map Request.override

def logTarget : String := "polisd_chainparams::config"

def opening (o : NodeOptions) : List Log.Action :=
  .configure o.log :: o.unknownKeys.map fun key =>
    .record .warn logTarget s!"ignoring unknown option {key}"

def applyTo (o : NodeOptions) (r : Registry) : Step ProfileError Profile :=
  match o.misplaced? with
  | some e => .refused r e
  | none => (r.performAll o.requests).andThen fun _ r =>
    match r.activeProfile with
    | .error e => .refused r e
    | .ok p => .done r p

/-- The active profile once the options are in force. -/
def apply (o : NodeOptions) (r : Registry) : Step OptionError Profile :=
  let step := (o.applyTo r).mapError OptionError.profile
  { step with log := o.opening ++ step.log }

end ChainProfile.NodeOptions
