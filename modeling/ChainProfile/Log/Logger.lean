import ChainProfile.Log.Ring
import ChainProfile.Log.Trace

/-! The logger: its settings, the context tag, and the capture ring. A record passes when its level
is not above the configured one; it is then written as a line, if lines are wanted, and captured,
if the ring records. -/

namespace ChainProfile.Log

structure Logger where
  config : Config
  context : Option String
  echo : Bool
  ring : Ring
  deriving DecidableEq

namespace Logger

def fresh : Logger := ⟨.standard, none, true, .off⟩

def enabled (l : Logger) (level : Level) : Bool := level.verbosity ≤ l.config.level.verbosity

def line (l : Logger) (now : Instant) (r : Record) : String :=
  match l.config.format with
  | .text => r.text (if l.config.timestamps then some now.render else none)
  | .json => r.json

def log (l : Logger) (now : Instant) (level : Level) (target message : String) : Logger × String :=
  if l.enabled level then
    let r : Record := ⟨now.stamp, level, target, l.context, message⟩
    ({ l with ring := l.ring.push r }, if l.echo then l.line now r ++ "\n" else "")
  else (l, "")

def perform (l : Logger) (now : Instant) : Action → Logger × String
  | .record level target message => l.log now level target message
  | .context tag => ({ l with context := tag }, "")
  | .configure config => ({ l with config }, "")

def replay (now : Instant) (l : Logger) (actions : List Action) : Logger :=
  actions.foldl (fun l action => (l.perform now action).1) l

end Logger

end ChainProfile.Log
