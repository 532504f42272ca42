import ChainProfile.Text.Blank

/-! Severity levels, line formats, and the settings a node's options choose for its log. -/

namespace ChainProfile.Log

inductive Level
  | error
  | warn
  | info
  | debug
  | trace
  deriving DecidableEq, Repr

namespace Level

/-- Grows with detail: a record passes when its verbosity is at most the level's. -/
def verbosity : Level → Nat
  | error => 1
  | warn => 2
  | info => 3
  | debug => 4
  | trace => 5

def label : Level → String
  | error => "ERROR"
  | warn => "WARN"
  | info => "INFO"
  | debug => "DEBUG"
  | trace => "TRACE"

def ofWord? : String → Option Level
  | "error" => some error
  | "warn" => some warn
  | "warning" => some warn
  | "info" => some info
  | "debug" => some debug
  | "trace" => some trace
  | _ => none

def parse? (text : String) : Option Level := ofWord? (Text.lowercase (Text.trimmed text))

end Level

inductive Format
  | text
  | json
  deriving DecidableEq, Repr

namespace Format

def ofWord? : String → Option Format
  | "text" => some text
  | "json" => some json
  | _ => none

def parse? (word : String) : Option Format := ofWord? (Text.lowercase (Text.trimmed word))

end Format

structure Config where
  level : Level
  format : Format
  timestamps : Bool
  deriving DecidableEq, Repr

def Config.standard : Config := ⟨.info, .text, true⟩

end ChainProfile.Log
