import ChainProfile.CompactSize
import ChainProfile.Sha256

/-! Transactions of the first version and their wire form. A transaction is identified by the double
digest of its bytes; a coinbase is one whose only input spends the null outpoint. -/

namespace ChainProfile

structure OutPoint where
  hash : Hash256
  index : UInt32
  deriving DecidableEq

namespace OutPoint

def null : OutPoint := ⟨.zero, 0xffffffff⟩

def isNull (o : OutPoint) : Bool := o = null

def bytes (o : OutPoint) : Bytes := o.hash.bytes ++ Bytes.u32 o.index

end OutPoint

structure TxIn where
  previous : OutPoint
  script : Bytes
  sequence : UInt32
  deriving DecidableEq

def TxIn.bytes (i : TxIn) : Bytes :=
  i.previous.bytes ++ CompactSize.sized i.script ++ Bytes.u32 i.sequence

structure TxOut where
  value : Int64
  script : Bytes
  deriving DecidableEq

def TxOut.bytes (o : TxOut) : Bytes := Bytes.i64 o.value ++ CompactSize.sized o.script

structure Transaction where
  version : Int32
  inputs : List TxIn
  outputs : List TxOut
  lockTime : UInt32
  deriving DecidableEq

namespace Transaction

def coinbase (script : Bytes) (outputs : List TxOut) : Transaction :=
  ⟨1, [⟨.null, script, 0xffffffff⟩], outputs, 0⟩

def isCoinbase (t : Transaction) : Bool :=
  match t.inputs with
  | [i] => i.previous.isNull
  | _ => false

theorem isCoinbase_coinbase (script : Bytes) (outputs : List TxOut) :
    (coinbase script outputs).isCoinbase = true := by
  simp [coinbase, isCoinbase, OutPoint.isNull]

def bytes (t : Transaction) : Bytes :=
  Bytes.i32 t.version ++ CompactSize.counted TxIn.bytes t.inputs ++
    CompactSize.counted TxOut.bytes t.outputs ++ Bytes.u32 t.lockTime

def id (t : Transaction) : Hash256 := Sha256.double t.bytes

end Transaction

end ChainProfile
