/-! Masternode quorums with threshold signatures. An entry says how many members a quorum has, how
many of them must take part and sign, and in which blocks of an interval its commitment may be
mined. A network's table holds at most one entry per kind. -/

namespace ChainProfile

inductive QuorumKind
  | fifty60
  | fourHundred60
  | fourHundred85
  | ten60
  deriving DecidableEq, Repr

namespace QuorumKind

def all : List QuorumKind := [fifty60, fourHundred60, fourHundred85, ten60]

def id : QuorumKind → UInt8
  | fifty60 => 1
  | fourHundred60 => 2
  | fourHundred85 => 3
  | ten60 => 100

def ofId? (n : UInt8) : Option QuorumKind := all.find? fun kind => kind.id == n

theorem mem_all (k : QuorumKind) : k ∈ all := by
  cases k <;> simp [all]

theorem ofId?_id (k : QuorumKind) : ofId? k.id = some k := by
  cases k <;> decide

def label : QuorumKind → String
  | fifty60 => "Llmq50_60"
  | fourHundred60 => "Llmq400_60"
  | fourHundred85 => "Llmq400_85"
  | ten60 => "Llmq10_60"

end QuorumKind

structure Quorum where
  kind : QuorumKind
  name : String
  size : UInt32
  minSize : UInt32
  threshold : UInt32
  interval : UInt32
  phaseBlocks : UInt32
  windowStart : UInt32
  windowEnd : UInt32
  deriving DecidableEq, Repr

inductive QuorumError
  | membership (quorum : Quorum)
  | miningWindow (quorum : Quorum)
  | missing (kind : QuorumKind)
  deriving DecidableEq, Repr

def QuorumError.message : QuorumError → String
  | .membership q =>
    s!"quorum {q.name} needs 0 < threshold <= min size <= size (got {q.threshold}/{q.minSize}/{q.size})"
  | .miningWindow q =>
    s!"quorum {q.name} mining window [{q.windowStart}, {q.windowEnd}) does not fit interval {q.interval}"
  | .missing kind => s!"quorum role bound to {kind.label} which is not configured"

namespace Quorum

def catalog : QuorumKind → Quorum
  | .fifty60 => ⟨.fifty60, "llmq_50_60", 50, 40, 30, 24, 2, 10, 18⟩
  | .fourHundred60 => ⟨.fourHundred60, "llmq_400_51", 400, 300, 240, 24 * 12, 4, 20, 28⟩
  | .fourHundred85 => ⟨.fourHundred85, "llmq_400_85", 400, 350, 340, 24 * 24, 4, 20, 48⟩
  | .ten60 => ⟨.ten60, "llmq_10", 10, 6, 6, 24, 2, 10, 18⟩

def ofName? (text : String) : Option Quorum :=
  (QuorumKind.all.map catalog).find? fun q => q.name == text

def soundMembership (q : Quorum) : Bool :=
  0 < q.threshold && q.threshold ≤ q.minSize && q.minSize ≤ q.size

def soundWindow (q : Quorum) : Bool := q.windowStart < q.windowEnd && q.windowEnd ≤ q.interval

def isConsistent (q : Quorum) : Bool := q.soundMembership && q.soundWindow

theorem isConsistent_catalog (k : QuorumKind) : (catalog k).isConsistent = true := by
  cases k <;> decide

/-- Looks for a fault, first in the membership and then in the mining window. -/
def validate (q : Quorum) : Except QuorumError Unit :=
  if q.threshold = 0 ∨ q.minSize < q.threshold ∨ q.size < q.minSize then .error (.membership q)
  else if q.windowEnd ≤ q.windowStart ∨ q.interval < q.windowEnd then .error (.miningWindow q)
  else .ok ()

end Quorum

structure QuorumTable where
  fifty60 : Option Quorum
  fourHundred60 : Option Quorum
  fourHundred85 : Option Quorum
  ten60 : Option Quorum
  deriving DecidableEq, Repr

namespace QuorumTable

def empty : QuorumTable := ⟨none, none, none, none⟩

def get? (t : QuorumTable) : QuorumKind → Option Quorum
  | .fifty60 => t.fifty60
  | .fourHundred60 => t.fourHundred60
  | .fourHundred85 => t.fourHundred85
  | .ten60 => t.ten60

def insert (t : QuorumTable) (kind : QuorumKind) (q : Quorum) : QuorumTable :=
  match kind with
  | .fifty60 => { t with fifty60 := some q }
  | .fourHundred60 => { t with fourHundred60 := some q }
  | .fourHundred85 => { t with fourHundred85 := some q }
  | .ten60 => { t with ten60 := some q }

@[simp] theorem get?_insert_self (t : QuorumTable) (kind : QuorumKind) (q : Quorum) :
    (t.insert kind q).get? kind = some q := by
  cases kind <;> rfl

theorem get?_insert_of_ne (t : QuorumTable) {kind other : QuorumKind} (q : Quorum)
    (h : other ≠ kind) : (t.insert kind q).get? other = t.get? other := by
  cases kind <;> cases other <;> simp_all [get?, insert]

def ofList (entries : List (QuorumKind × Quorum)) : QuorumTable :=
  entries.foldl (fun t entry => t.insert entry.1 entry.2) empty

def ofKinds (kinds : List QuorumKind) : QuorumTable :=
  ofList (kinds.map fun kind => (kind, Quorum.catalog kind))

def entries (t : QuorumTable) : List (QuorumKind × Quorum) :=
  QuorumKind.all.filterMap fun kind => (t.get? kind).map fun q => (kind, q)

def role (t : QuorumTable) (kind : QuorumKind) : Except QuorumError Quorum :=
  match t.get? kind with
  | some q => .ok q
  | none => .error (.missing kind)

end QuorumTable

end ChainProfile
