import ChainProfile.Block
import ChainProfile.Proofs.Wire.CompactSize

/-! Transactions and blocks are read back from their bytes, field by field in the order in which
they are written. So the bytes determine every field of every input and output, and no block or
transaction goes on in another. All counts have to fit a word of 64 bits. -/

namespace ChainProfile

def OutPoint.read : Reader OutPoint := OutPoint.mk <$> Reader.hash <*> Reader.u32

def TxIn.read : Reader TxIn :=
  TxIn.mk <$> OutPoint.read <*> CompactSize.readSized <*> Reader.u32

def TxOut.read : Reader TxOut := TxOut.mk <$> Reader.i64 <*> CompactSize.readSized

def Transaction.read : Reader Transaction :=
  Transaction.mk <$> Reader.i32 <*> CompactSize.readCounted TxIn.read <*>
    CompactSize.readCounted TxOut.read <*> Reader.u32

def Header.read : Reader Header :=
  Header.mk <$> Reader.i32 <*> Reader.hash <*> Reader.hash <*> Reader.u32 <*> Reader.u32 <*>
    Reader.u32

def Block.read : Reader Block :=
  Block.mk <$> Header.read <*> CompactSize.readCounted Transaction.read

/-- All counts in the bytes of the transaction fit a word. -/
structure Transaction.Bounded (t : Transaction) : Prop where
  inputs : t.inputs.length < 2 ^ 64
  outputs : t.outputs.length < 2 ^ 64
  inputScripts : ∀ i ∈ t.inputs, i.script.length < 2 ^ 64
  outputScripts : ∀ o ∈ t.outputs, o.script.length < 2 ^ 64

structure Block.Bounded (b : Block) : Prop where
  transactions : b.transactions.length < 2 ^ 64
  each : ∀ t ∈ b.transactions, t.Bounded

theorem Transaction.bounded_coinbase {script : Bytes} {outputs : List TxOut}
    (fits : script.length < 2 ^ 64) (count : outputs.length < 2 ^ 64)
    (scripts : ∀ o ∈ outputs, o.script.length < 2 ^ 64) : (coinbase script outputs).Bounded := by
  refine ⟨Nat.one_lt_two_pow (by decide), count, ?_, scripts⟩
  intro i only
  cases List.mem_singleton.mp only
  exact fits

theorem OutPoint.bytes_reads (o : OutPoint) : OutPoint.read.Reads o.bytes o :=
  ((Reader.hash_reads o.hash).map OutPoint.mk).seq (Reader.u32_reads o.index)

theorem TxIn.bytes_reads {i : TxIn} (fits : i.script.length < 2 ^ 64) :
    TxIn.read.Reads i.bytes i :=
  ((i.previous.bytes_reads.map TxIn.mk).seq (CompactSize.sized_reads fits)).seq
    (Reader.u32_reads i.sequence)

theorem TxOut.bytes_reads {o : TxOut} (fits : o.script.length < 2 ^ 64) :
    TxOut.read.Reads o.bytes o :=
  ((Reader.i64_reads o.value).map TxOut.mk).seq (CompactSize.sized_reads fits)

theorem Transaction.bytes_reads {t : Transaction} (bounded : t.Bounded) :
    Transaction.read.Reads t.bytes t := by
  have inputs : (CompactSize.readCounted TxIn.read).Reads
      (CompactSize.counted TxIn.bytes t.inputs) t.inputs :=
    CompactSize.counted_reads bounded.inputs fun i member =>
      TxIn.bytes_reads (bounded.inputScripts i member)
  have outputs : (CompactSize.readCounted TxOut.read).Reads
      (CompactSize.counted TxOut.bytes t.outputs) t.outputs :=
    CompactSize.counted_reads bounded.outputs fun o member =>
      TxOut.bytes_reads (bounded.outputScripts o member)
  have version := (Reader.i32_reads t.version).map Transaction.mk
  exact ((version.seq inputs).seq outputs).seq (Reader.u32_reads t.lockTime)

theorem Header.bytes_reads (h : Header) : Header.read.Reads h.bytes h := by
  have version := (Reader.i32_reads h.version).map Header.mk
  have hashes := (version.seq (Reader.hash_reads h.previous)).seq (Reader.hash_reads h.merkleRoot)
  have times := (hashes.seq (Reader.u32_reads h.time)).seq (Reader.u32_reads h.bits)
  exact times.seq (Reader.u32_reads h.nonce)

theorem Block.bytes_reads {b : Block} (bounded : b.Bounded) : Block.read.Reads b.bytes b := by
  have transactions : (CompactSize.readCounted Transaction.read).Reads
      (CompactSize.counted Transaction.bytes b.transactions) b.transactions :=
    CompactSize.counted_reads bounded.transactions fun t member =>
      Transaction.bytes_reads (bounded.each t member)
  exact (b.header.bytes_reads.map Block.mk).seq transactions

theorem Header.bytes_inj {h k : Header} (same : h.bytes = k.bytes) : h = k :=
  (h.bytes_reads.inj k.bytes_reads (congrArg (· ++ []) same)).1

theorem TxOut.bytes_inj {a b : TxOut} (same : a.bytes = b.bytes) : a = b := by
  obtain ⟨values, sizes⟩ := (Reader.i64_reads a.value).inj (Reader.i64_reads b.value) same
  have scripts := (CompactSize.sized_append_inj (x := []) (y := []) rfl
    (congrArg (· ++ []) sizes)).1
  cases a
  cases b
  cases values
  cases scripts
  rfl

theorem Transaction.bytes_inj {s t : Transaction} (left : s.Bounded) (right : t.Bounded)
    (same : s.bytes = t.bytes) : s = t :=
  ((bytes_reads left).inj (bytes_reads right) (congrArg (· ++ []) same)).1

theorem Transaction.map_bytes_inj {ss ts : List Transaction} (left : ∀ t ∈ ss, t.Bounded)
    (right : ∀ t ∈ ts, t.Bounded) (same : ss.map Transaction.bytes = ts.map Transaction.bytes) :
    ss = ts := by
  induction ss generalizing ts with
  | nil => exact (List.map_eq_nil_iff.mp same.symm).symm
  | cons s ss ih =>
    cases ts with
    | nil => cases same
    | cons t ts =>
      obtain ⟨first, rest⟩ := List.cons.inj same
      have heads := bytes_inj (left s List.mem_cons_self) (right t List.mem_cons_self) first
      have tails := ih (fun u member => left u (List.mem_cons_of_mem s member))
        (fun u member => right u (List.mem_cons_of_mem t member)) rest
      rw [heads, tails]

/-- Bytes that start with a block start with one block only, and likewise with a transaction. -/
theorem Block.bytes_append_inj :
    (∀ {a b : Block} {x y : Bytes}, a.Bounded → b.Bounded → a.bytes ++ x = b.bytes ++ y →
        a = b ∧ x = y) ∧
      ∀ {s t : Transaction} {x y : Bytes}, s.Bounded → t.Bounded → s.bytes ++ x = t.bytes ++ y →
        s = t ∧ x = y := by
  constructor
  · intro a b x y left right
    exact (Block.bytes_reads left).inj (Block.bytes_reads right)
  · intro s t x y left right
    exact (Transaction.bytes_reads left).inj (Transaction.bytes_reads right)

theorem Block.bytes_append_inj_longScript :
    let t : Transaction := .coinbase (List.replicate 300 0) []
    let a : Block := ⟨⟨4, .zero, .zero, 1, 2, 3⟩, [t, t]⟩
    let b : Block := ⟨⟨4, .zero, .zero, 1, 2, 3⟩, List.replicate 2 t⟩
    t.Bounded ∧ a.Bounded ∧ b.Bounded ∧ a.bytes ++ [0, 1] = b.bytes ++ Bytes.u16 256 ∧
      (a = b ∧ [0, 1] = Bytes.u16 256) ∧ (t = t ∧ [0, 1] = Bytes.u16 256) := by
  intro t a b
  have length : (List.replicate 300 (0 : UInt8)).length < 2 ^ 64 := by
    rw [List.length_replicate]
    decide
  have bounded : t.Bounded := Transaction.bounded_coinbase length (by decide) nofun
  have left : a.Bounded := ⟨by decide, by simp [a, bounded]⟩
  have right : b.Bounded := ⟨by decide, by simp [b, bounded]⟩
  have same : a.bytes ++ [0, 1] = b.bytes ++ Bytes.u16 256 := rfl
  exact ⟨bounded, left, right, same, bytes_append_inj.1 left right same,
    bytes_append_inj.2 bounded bounded rfl⟩

end ChainProfile
