import Mathlib.Data.List.Basic
import ChainProfile.Proofs.Options.Reading

/-! The network that options select. A token, two switches and a development name can each ask for a
network. A switch counts as its last value says, a development name by having a value, whatever the
value. Selectors that name one network give that network, and two different ones among them are
reported. -/

namespace ChainProfile.NodeOptions

open Options

variable {m : Options} {o : NodeOptions} {n : Network} {named : List Network} {e : OptionError}
variable {key value : String} {answer : Bool}

/-- The words for yes and for no. Saying nothing is yes. -/
def words : Bool → List String
  | true => ["", "1", "true", "yes"]
  | false => ["0", "false", "no"]

def Answers (value : String) (answer : Bool) : Prop :=
  Text.lowercase (Text.trimmed value) ∈ words answer

instance : Decidable (Answers value answer) := inferInstanceAs (Decidable (_ ∈ words answer))

def SwitchedOn (m : Options) (key : String) : Prop :=
  ∃ value, last? m key = some value ∧ Answers value true

inductive Selects (m : Options) : Network → Prop
  | token {n : Network} (last : last? m "network" = some n.token) : Selects m n
  | testnet (on : SwitchedOn m "testnet") : Selects m .testnet
  | regtest (on : SwitchedOn m "regtest") : Selects m .regtest
  | devnet (given : values m "devnet" ≠ []) : Selects m .devnet

end ChainProfile.NodeOptions
