import ChainProfile.Hash256

/-! Checkpoint tables: heights whose block hash is fixed. A table starts with the genesis block and
its heights increase. Look-ups halve the table until one entry is left, so on a table in order they
reach the last entry that is not too high. -/

namespace ChainProfile

structure Checkpoint where
  height : Int32
  hash : Hash256
  deriving DecidableEq

inductive CheckpointError
  | empty
  | notIncreasing (previous height : Int32)
  | missingGenesis (firstHeight : Int32)
  | genesisHash (expected actual : Hash256)
  deriving DecidableEq

def CheckpointError.message : CheckpointError → String
  | .empty => "checkpoint table is empty"
  | .notIncreasing previous height => s!"checkpoint height {height} does not follow {previous}"
  | .missingGenesis firstHeight => s!"first checkpoint is at height {firstHeight}, not 0"
  | .genesisHash expected actual =>
    s!"height 0 checkpoint {actual.hex} is not the genesis hash {expected.hex}"

namespace Checkpoint

/-- Halves the positions from `start` on until one is left; the right half is kept unless its first
position is too high. -/
def narrow (tooHigh : Nat → Bool) (start width : Nat) : Nat :=
  if width ≤ 1 then start
  else
    let middle := start + width / 2
    narrow tooHigh (if tooHigh middle then start else middle) (width - width / 2)
termination_by width

def isAbove (table : List Checkpoint) (height : Int32) (position : Nat) : Bool :=
  table[position]?.any fun c => height < c.height

def lastAtOrBelow? (table : List Checkpoint) (height : Int32) : Option Checkpoint :=
  table[narrow (isAbove table height) 0 table.length]?.filter fun c => c.height ≤ height

def hashAt? (table : List Checkpoint) (height : Int32) : Option Hash256 :=
  ((lastAtOrBelow? table height).filter fun c => c.height = height).map Checkpoint.hash

def firstStall? : List Checkpoint → Option (Checkpoint × Checkpoint)
  | c :: d :: rest => if d.height ≤ c.height then some (c, d) else firstStall? (d :: rest)
  | _ => none

def validate (genesisHash : Hash256) : List Checkpoint → Except CheckpointError Unit
  | [] => .error .empty
  | first :: rest =>
    if first.height ≠ 0 then .error (.missingGenesis first.height)
    else if first.hash ≠ genesisHash then .error (.genesisHash genesisHash first.hash)
    else match firstStall? (first :: rest) with
      | some (c, d) => .error (.notIncreasing c.height d.height)
      | none => .ok ()

end Checkpoint

end ChainProfile
