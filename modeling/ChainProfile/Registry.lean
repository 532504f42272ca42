import ChainProfile.Override
import ChainProfile.Profile.Build

/-! The registry of all profiles and the selection among them. Main, test and regression profiles
exist from the start; the development profile is built when it is first selected and kept until
its name changes. Once the registry is running, nothing changes any more. -/

namespace ChainProfile

inductive Phase
  | setup
  | running
  deriving DecidableEq, Repr

structure Registry where
  hasher : HeaderHasher
  devnetName : String
  mainnet : Profile
  testnet : Profile
  regtest : Profile
  devnet : Option Profile
  active : Option Network
  phase : Phase

namespace Registry

/-- What a call gives: its result, the registry afterwards, and what it logged. -/
structure Step (ε α : Type) where
  result : Except ε α
  registry : Registry
  log : List Log.Action

namespace Step

def done {ε α : Type} (r : Registry) (a : α) : Step ε α := ⟨.ok a, r, []⟩

def refused {ε α : Type} (r : Registry) (e : ε) : Step ε α := ⟨.error e, r, []⟩

def andThen {ε α β : Type} (s : Step ε α) (next : α → Registry → Step ε β) : Step ε β :=
  match s.result with
  | .error e => ⟨.error e, s.registry, s.log⟩
  | .ok a =>
    let t := next a s.registry
    { t with log := s.log ++ t.log }

def mapError {ε δ α : Type} (f : ε → δ) (s : Step ε α) : Step δ α :=
  ⟨s.result.mapError f, s.registry, s.log⟩

def void {ε α : Type} (s : Step ε α) : Step ε Unit :=
  ⟨s.result.map fun _ => (), s.registry, s.log⟩

end Step

def logTarget : String := "polisd_chainparams::registry"

def create (hasher : HeaderHasher) : ExceptT ProfileError Logged Registry := do
  let mainnet ← Profile.build .main hasher ""
  let testnet ← Profile.build .testnet hasher ""
  let regtest ← Profile.build .regtest hasher ""
  return {
    hasher
    devnetName := ""
    mainnet
    testnet
    regtest
    devnet := none
    active := none
    phase := .setup }

def profile (r : Registry) : Network → Except ProfileError Profile
  | .main => .ok r.mainnet
  | .testnet => .ok r.testnet
  | .regtest => .ok r.regtest
  | .devnet =>
    match r.devnet with
    | some p => .ok p
    | none => .error .devnetNotSelected

def networkOf (token : String) : Except ProfileError Network :=
  match Network.ofToken? token with
  | some network => .ok network
  | none => .error (.unknownNetwork token)

def profileOf (r : Registry) (token : String) : Except ProfileError Profile :=
  match networkOf token with
  | .error e => .error e
  | .ok network => r.profile network

def activeProfile (r : Registry) : Except ProfileError Profile :=
  match r.active with
  | none => .error .notSelected
  | some network => r.profile network

def buildDevnet (r : Registry) (name : String) : Step ProfileError Unit :=
  let built := (Profile.build .devnet r.hasher name).run
  match built.value with
  | .error e => ⟨.error e, r, built.log⟩
  | .ok p => ⟨.ok (), { r with devnet := some p }, built.log⟩

/-- A new name drops the development profile, or builds it anew if it is active. -/
def setDevnetName (name : String) (r : Registry) : Step ProfileError Unit :=
  let name := Text.trimmed name
  if r.phase = .running then .refused r (.notInSetup .devnetRename)
  else if r.devnetName = name then .done r ()
  else if r.active = some .devnet then
    (r.buildDevnet name).andThen fun _ r => .done { r with devnetName := name } ()
  else .done { r with devnet := none, devnetName := name } ()

def activate (network : Network) (p : Profile) (r : Registry) : Step ProfileError Profile :=
  if r.active = some network then .done r p
  else
    let switch := r.active.map fun old =>
      Log.Action.record .warn logTarget
        s!"switching active network from {old.token} to {network.token}"
    ⟨.ok p, { r with active := some network },
      switch.toList ++ [.context (some network.token),
        .record .info logTarget s!"selected {network.token} network"]⟩

def ensureBuilt (network : Network) (r : Registry) : Step ProfileError Unit :=
  if network = .devnet ∧ r.devnet.isNone then r.buildDevnet r.devnetName else .done r ()

def select (network : Network) (r : Registry) : Step ProfileError Profile :=
  if r.phase = .running ∧ r.active ≠ some network then .refused r (.notInSetup .networkSelection)
  else (r.ensureBuilt network).andThen fun _ r =>
    match r.profile network with
    | .error e => .refused r e
    | .ok p => r.activate network p

def selectToken (token : String) (r : Registry) : Step ProfileError Profile :=
  match networkOf token with
  | .error e => .refused r e
  | .ok network => r.select network

def freeze (r : Registry) : Step ProfileError Profile :=
  match r.activeProfile with
  | .error e => .refused r e
  | .ok p =>
    if r.phase = .running then .done r p
    else ⟨.ok p, { r with phase := .running },
      [.record .info logTarget s!"parameters sealed for {p.network.token}"]⟩

def replace (o : Override) (p : Profile) (r : Registry) : Registry :=
  match o with
  | .knobs _ => { r with devnet := some p }
  | _ => { r with regtest := p }

def override (o : Override) (r : Registry) : Step ProfileError Unit :=
  if r.phase = .running then .refused r (.notInSetup o.operation)
  else match r.profile o.network with
    | .error e => .refused r e
    | .ok p =>
      match (o.run p).value with
      | .error e => ⟨.error e, r, (o.run p).log⟩
      | .ok q => ⟨.ok (), r.replace o q, (o.run p).log⟩

inductive Request
  | setDevnetName (name : String)
  | select (network : Network)
  | selectToken (token : String)
  | freeze
  | override (o : Override)

def perform (q : Request) (r : Registry) : Step ProfileError Unit :=
  match q with
  | .setDevnetName name => r.setDevnetName name
  | .select network => (r.select network).void
  | .selectToken token => (r.selectToken token).void
  | .freeze => r.freeze.void
  | .override o => r.override o

/-- Performs requests up to the first that fails. -/
def performAll : List Request → Registry → Step ProfileError Unit
  | [], r => .done r ()
  | q :: qs, r => (r.perform q).andThen fun _ r => r.performAll qs

end Registry

end ChainProfile
