import ChainProfile.Profile.Error

/-! Options as a map from keys to values. A row gives a key values of its own, and the rows of one key
count in their order of arrival. A row may be empty: its key is there then and need not have a value.
Most options take the last value of their key. -/

namespace ChainProfile

inductive OptionError
  | unreadableFile
  | missingValue (key : String)
  | invalidValue (key value : String)
  | conflictingNetworks (first second : Network)
  | profile (cause : ProfileError)
  deriving DecidableEq

def OptionError.message : OptionError → String
  | .unreadableFile => "options file cannot be read"
  | .missingValue key => s!"option {key} needs a value"
  | .invalidValue key value => s!"invalid value '{value}' for {key}"
  | .conflictingNetworks first second => s!"cannot select both {first.token} and {second.token}"
  | .profile cause => cause.message

def OptionError.source? : OptionError → Option String
  | .profile cause => some cause.message
  | _ => none

abbrev Options := List (String × List String)

namespace Options

/-- The row of a key that is given once. -/
def row (entry : String × String) : String × List String := (entry.1, [entry.2])

def values (o : Options) (key : String) : List String :=
  (o.filter fun row => row.1 == key).flatMap Prod.snd

def last? (o : Options) (key : String) : Option String := (values o key).getLast?

def has (o : Options) (key : String) : Bool := o.any fun row => row.1 == key

def keys (o : Options) : List String := (o.map Prod.fst).eraseDups

/-- The options of `upper`, and those of `lower` whose key is not among them. -/
def shadow (upper lower : Options) : Options :=
  lower.filter (fun row => !has upper row.1) ++ upper

theorem values_append (a b : Options) (key : String) :
    values (a ++ b) key = values a key ++ values b key := by
  simp [values]

end Options

end ChainProfile
