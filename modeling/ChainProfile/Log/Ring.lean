import ChainProfile.Log.Record

/-! The capture ring: the newest records, kept in memory. The capacity bounds what a push leaves;
changing it, or switching the ring off, drops nothing. -/

namespace ChainProfile.Log

structure Ring where
  recording : Bool
  capacity : Nat
  /-- Oldest first. -/
  records : List Record
  deriving DecidableEq

namespace Ring

def off : Ring := ⟨false, 0, []⟩

def disable (r : Ring) : Ring := { r with recording := false }

/-- No capacity switches the ring off and leaves the capacity it had. -/
def enable (capacity : Nat) (r : Ring) : Ring :=
  if capacity = 0 then r.disable else { r with recording := true, capacity }

def lastOf {α : Type} (n : Nat) (xs : List α) : List α := xs.drop (xs.length - n)

theorem length_lastOf {α : Type} (n : Nat) (xs : List α) :
    (lastOf n xs).length = min n xs.length := by
  simp only [lastOf, List.length_drop]
  omega

def push (record : Record) (r : Ring) : Ring :=
  if r.recording then { r with records := lastOf r.capacity (r.records ++ [record]) } else r

def newest (limit : Nat) (r : Ring) : List Record := lastOf limit r.records

end Ring

end ChainProfile.Log
