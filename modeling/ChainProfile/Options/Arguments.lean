import ChainProfile.Options.Entries
import ChainProfile.Text.Field

/-! Command-line options: `-key`, `-key=value`, `--key=value` and `--key value`. Only with two
dashes, and only for a key that is no switch, does the next argument give the value. -/

namespace ChainProfile.Options

open Text (cut?)

def switches : List String := ["testnet", "regtest", "devnet", "logtimestamps"]

def takesValue (key : String) : Bool := !switches.contains (Text.lowercase key)

inductive Argument
  | entry (key value : String)
  /-- A key whose value is the next argument. -/
  | awaiting (key : String)
  deriving DecidableEq, Repr

def withoutDashes? : List Char → Option (Bool × List Char)
  | '-' :: '-' :: rest => some (true, rest)
  | '-' :: rest => some (false, rest)
  | _ => none

def argument (arg : String) : Except OptionError Argument :=
  match withoutDashes? arg.toList with
  | none => .error (.invalidValue "argument" arg)
  | some (long, rest) =>
    match cut? '=' rest with
    | some (key, value) => .ok (.entry (String.ofList key) (String.ofList value))
    | none =>
      let key := String.ofList rest
      .ok (if long && takesValue key then .awaiting key else .entry key "")

def entryOf (arg key value : String) : Except OptionError (String × String) :=
  if key = "" then .error (.missingValue arg) else .ok (Text.lowercase key, value)

def startsWithDash (arg : String) : Bool := arg.toList.head? = some '-'

def ofArguments : List String → Except OptionError Options
  | [] => .ok []
  | arg :: rest =>
    match argument arg with
    | .error e => .error e
    | .ok (.entry key value) => do
      let entry ← entryOf arg key value
      return row entry :: (← ofArguments rest)
    | .ok (.awaiting key) =>
      match rest with
      | [] => .error (.missingValue key)
      | next :: after =>
        if startsWithDash next then .error (.missingValue key)
        else do
          let entry ← entryOf arg key next
          return row entry :: (← ofArguments after)

end ChainProfile.Options
