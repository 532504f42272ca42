import ChainProfile.Log.Logger
import ChainProfile.Proofs.Latest

/-! Runs of the logger. A program calls its log in any order, and what a call meets is what the calls
before it put in force: the last level, the last tag, the last capacity above zero, and whether the
ring was last switched on or off. The logger keeps just that, whatever else it is called for. -/

namespace ChainProfile.Log

/-- What a program does with its log. The clock is read at each action. -/
inductive Call
  | act (now : Instant) (action : Action)
  | echo (on : Bool)
  | capture (capacity : Nat)
  | release

namespace Call

def level? : Call → Option Level
  | act _ (.configure config) => some config.level
  | _ => none

def tag? : Call → Option (Option String)
  | act _ (.context tag) => some tag
  | _ => none

/-- A capacity of zero leaves the one before it in force. -/
def capacity? : Call → Option Nat
  | capture capacity => if capacity = 0 then none else some capacity
  | _ => none

def recording? : Call → Option Bool
  | capture capacity => some (capacity ≠ 0)
  | release => some false
  | _ => none

end Call

def levelIn (calls : List Call) : Level := (latest Call.level? calls).getD .info

def tagIn (calls : List Call) : Option String := (latest Call.tag? calls).getD none

def capacityIn (calls : List Call) : Nat := (latest Call.capacity? calls).getD 0

def recordingIn (calls : List Call) : Bool := (latest Call.recording? calls).getD false

namespace Logger

def after (call : Call) (l : Logger) : Logger :=
  match call with
  | .act now action => (l.perform now action).1
  | .echo on => { l with echo := on }
  | .capture capacity => { l with ring := l.ring.enable capacity }
  | .release => { l with ring := l.ring.disable }

def run (calls : List Call) (l : Logger) : Logger := calls.foldl (fun l call => l.after call) l

theorem run_append (first second : List Call) (l : Logger) :
    l.run (first ++ second) = (l.run first).run second :=
  List.foldl_append

theorem log_eq (l : Logger) (now : Instant) (level : Level) (target message : String) :
    (l.log now level target message).1 =
      { l with ring := { l.ring with
          records :=
            if l.enabled level ∧ l.ring.recording then
              Ring.lastOf l.ring.capacity
                (l.ring.records ++ [⟨now.stamp, level, target, l.context, message⟩])
            else l.ring.records } } := by
  unfold log Ring.push
  by_cases passes : l.enabled level
  · rw [if_pos passes]
    dsimp only
    by_cases on : l.ring.recording
    · rw [if_pos on, if_pos ⟨passes, on⟩]
    · rw [if_neg on, if_neg (mt And.right on)]
  · rw [if_neg passes, if_neg (mt And.left passes)]

theorem level_after (call : Call) (l : Logger) :
    (l.after call).config.level = call.level?.getD l.config.level := by
  rcases call with ⟨now, _ | _ | _⟩ | _ | _ | _
  case act.record => rw [after, perform, log_eq]; rfl
  all_goals rfl

theorem context_after (call : Call) (l : Logger) :
    (l.after call).context = call.tag?.getD l.context := by
  rcases call with ⟨now, _ | _ | _⟩ | _ | _ | _
  case act.record => rw [after, perform, log_eq]; rfl
  all_goals rfl

theorem recording_after (call : Call) (l : Logger) :
    (l.after call).ring.recording = call.recording?.getD l.ring.recording := by
  rcases call with ⟨now, _ | _ | _⟩ | _ | capacity | _
  case act.record => rw [after, perform, log_eq]; rfl
  case capture =>
    by_cases off : capacity = 0 <;> simp [after, Ring.enable, Ring.disable, Call.recording?, off]
  all_goals rfl

theorem capacity_after (call : Call) (l : Logger) :
    (l.after call).ring.capacity = call.capacity?.getD l.ring.capacity := by
  rcases call with ⟨now, _ | _ | _⟩ | _ | capacity | _
  case act.record => rw [after, perform, log_eq]; rfl
  case capture =>
    by_cases off : capacity = 0 <;> simp [after, Ring.enable, Ring.disable, Call.capacity?, off]
  all_goals rfl

/-- The logger is set as the calls say. -/
structure InForce (calls : List Call) (l : Logger) : Prop where
  level : l.config.level = levelIn calls
  tag : l.context = tagIn calls
  recording : l.ring.recording = recordingIn calls
  capacity : l.ring.capacity = capacityIn calls

variable {l : Logger} {past : List Call}

theorem InForce.after (force : InForce past l) (call : Call) :
    InForce (past ++ [call]) (l.after call) := by
  obtain ⟨level, tag, recording, capacity⟩ := force
  constructor
  · rw [level_after, level, levelIn, levelIn, latest_concat, Option.getD_or]
  · rw [context_after, tag, tagIn, tagIn, latest_concat, Option.getD_or]
  · rw [recording_after, recording, recordingIn, recordingIn, latest_concat, Option.getD_or]
  · rw [capacity_after, capacity, capacityIn, capacityIn, latest_concat, Option.getD_or]

theorem InForce.run (force : InForce past l) (later : List Call) :
    InForce (past ++ later) (l.run later) := by
  induction later generalizing past l with
  | nil => rwa [List.append_nil]
  | cons call later ih => exact List.append_cons past call later ▸ ih (force.after call)

theorem inForce_nil : InForce [] fresh := ⟨rfl, rfl, rfl, rfl⟩

theorem inForce_run_fresh (calls : List Call) : InForce calls (fresh.run calls) :=
  inForce_nil.run calls

end Logger

end ChainProfile.Log
