import ChainProfile.Options.Arguments
import ChainProfile.Options.File
import ChainProfile.Override
import ChainProfile.Text.Decimal

/-! A node's options, read from a file and from arguments: its network, the overrides of the test
networks, and the settings of the log. An argument replaces what the file says for its key. -/

namespace ChainProfile

structure NodeOptions where
  network : Network
  /-- The empty name selects the unnamed development network. -/
  devnetName : Option String
  deployments : List (DeploymentId × DeploymentUpdate)
  budget : Option PaymentStarts
  dip3 : Option Dip3Heights
  knobs : Option DevnetKnobs
  log : Log.Config
  unknownKeys : List String
  deriving DecidableEq

namespace NodeOptions

open Options
open Text (trim split cut?)
open Text.Decimal (int32? int64?)

def knownKeys : List String :=
  ["network", "testnet", "regtest", "devnet", "vbparams", "budgetparams", "dip3params",
   "minimumdifficultyblocks", "highsubsidyblocks", "highsubsidyfactor", "loglevel", "logformat",
   "logtimestamps"]

/-- An empty value is yes. -/
def boolean? (value : String) : Option Bool :=
  match Text.lowercase (Text.trimmed value) with
  | "" => some true
  | "1" => some true
  | "true" => some true
  | "yes" => some true
  | "0" => some false
  | "false" => some false
  | "no" => some false
  | _ => none

def lastAs {α : Type} (read : String → Option α) (o : Options) (key : String) :
    Except OptionError (Option α) :=
  match last? o key with
  | none => .ok none
  | some value =>
    match read value with
    | some a => .ok (some a)
    | none => .error (.invalidValue key value)

def flag (o : Options) (key : String) : Except OptionError Bool :=
  (lastAs boolean? o key).map fun value => value.getD false

def selectors (o : Options) : Except OptionError (List Network) := do
  let token ← lastAs Network.ofToken? o "network"
  let testnet ← flag o "testnet"
  let regtest ← flag o "regtest"
  return token.toList ++ (if testnet then [.testnet] else []) ++
    (if regtest then [.regtest] else []) ++ (if (last? o "devnet").isSome then [.devnet] else [])

/-- The one network that all selectors name; the main network if there is none. -/
def resolve : List Network → Except OptionError Network
  | [] => .ok .main
  | first :: rest =>
    match rest.find? fun network => network ≠ first with
    | some second => .error (.conflictingNetworks first second)
    | none => .ok first

def numbers? {α : Type} (read : List Char → Option α) (cs : List Char) : Option (List α) :=
  (split ':' cs).mapM fun field => read (trim field)

def budget? (value : String) : Option PaymentStarts :=
  match numbers? int32? value.toList with
  | some [masternode, budget, superblock] => some ⟨masternode, budget, superblock⟩
  | _ => none

def dip3? (value : String) : Option Dip3Heights :=
  match numbers? int32? value.toList with
  | some [activation, enforcement] => some ⟨activation, enforcement⟩
  | _ => none

def knob? (value : String) : Option Int32 := int32? (trim value.toList)

def vbKey : String := "vbparams"

/-- A deployment's name, start and timeout, and optionally window and threshold. What follows the
name is quoted alone when one of its two or four numbers cannot be read. -/
def deployment (value : String) : Except OptionError (DeploymentId × DeploymentUpdate) :=
  let bad : OptionError := .invalidValue vbKey value
  match cut? ':' value.toList with
  | none => .error bad
  | some (name, rest) =>
    match DeploymentId.ofName? (String.ofList (trim name)) with
    | none => .error bad
    | some id =>
      if (split ':' rest).length = 2 ∨ (split ':' rest).length = 4 then
        match numbers? int64? rest with
        | some [startTime, timeout] => .ok (id, .between startTime timeout)
        | some [startTime, timeout, window, threshold] =>
          .ok (id, .ofRaw startTime timeout window threshold)
        | _ => .error (.invalidValue vbKey (String.ofList rest))
      else .error bad

def knobsOf (minimum blocks factor : Option Int32) : Option DevnetKnobs :=
  if minimum.isNone ∧ blocks.isNone ∧ factor.isNone then none
  else some ⟨minimum.getD 0, blocks.getD 0, factor.getD 1⟩

/-- With its key the switch decides, even when the key has no value. -/
def logTimestamps (o : Options) : Except OptionError Bool :=
  if has o "logtimestamps" then flag o "logtimestamps" else .ok Log.Config.standard.timestamps

def logConfig (o : Options) : Except OptionError Log.Config := do
  let level ← lastAs Log.Level.parse? o "loglevel"
  let format ← lastAs Log.Format.parse? o "logformat"
  let standard := Log.Config.standard
  let timestamps ← logTimestamps o
  return ⟨level.getD standard.level, format.getD standard.format, timestamps⟩

def unknownKeysOf (o : Options) : List String :=
  ((keys o).filter fun key => !knownKeys.contains key).mergeSort fun a b => a ≤ b

/-- Reads the options in a fixed order, so that of several faults the same one is reported. -/
def ofOptions (o : Options) : Except OptionError NodeOptions := do
  let network ← resolve (← selectors o)
  let deployments ← (values o vbKey).mapM deployment
  let budget ← lastAs budget? o "budgetparams"
  let dip3 ← lastAs dip3? o "dip3params"
  let minimum ← lastAs knob? o "minimumdifficultyblocks"
  let blocks ← lastAs knob? o "highsubsidyblocks"
  let factor ← lastAs knob? o "highsubsidyfactor"
  let log ← logConfig o
  return {
    network
    devnetName := last? o "devnet"
    deployments
    budget
    dip3
    knobs := knobsOf minimum blocks factor
    log
    unknownKeys := unknownKeysOf o }

/-- The options of a file, if one is named, under those of the arguments. -/
def load (file : Option File) (arguments : List String) : Except OptionError NodeOptions := do
  let fromFile ← match file with
    | none => pure none
    | some file => ofFile file
  let fromArguments ← ofArguments arguments
  ofOptions (shadow fromArguments (fromFile.getD []))

end NodeOptions

end ChainProfile
