import ChainProfile.Proofs.Genesis.Devnet
import ChainProfile.Proofs.Merkle.Binding
import ChainProfile.Proofs.Wire.Block

/-! First blocks commit to all that they are made from. The header holds the numbers, and its root is
the id of the only transaction, whose bytes determine the text, the reward and the output. The text
may have any length: the script in front of the sequence number ends at the first byte that no text
contains. So two recipes with one header are the same recipe, or their coinbases collide. -/

namespace ChainProfile

def TxOut.trailing (o : TxOut) : Bytes :=
  Bytes.u32 0xffffffff ++ CompactSize.counted TxOut.bytes [o] ++ Bytes.u32 0

theorem TxOut.trailing_inj {a b : TxOut} (same : a.trailing = b.trailing) : a = b := by
  have outputs := List.append_cancel_left (List.append_cancel_right same)
  have forms := List.append_cancel_left outputs
  rw [List.flatMap_singleton, List.flatMap_singleton] at forms
  exact bytes_inj forms

namespace Genesis

theorem coinbaseScript_append_inj {a b : String} {x y : Bytes}
    (same : coinbaseScript a ++ 0xff :: x = coinbaseScript b ++ 0xff :: y) : a = b ∧ x = y := by
  simp only [coinbaseScript, Script.assemble_cons, Script.assemble_nil, List.append_nil,
    List.append_assoc] at same
  have pushes := List.append_cancel_left (List.append_cancel_left same)
  simp only [Script.Piece.bytes, Script.push, List.append_assoc] at pushes
  obtain ⟨texts, rests⟩ := Bytes.append_cons_inj (Bytes.ff_notMem_utf8 a) (Bytes.ff_notMem_utf8 b)
    (Script.pushHeader_append_inj pushes)
  exact ⟨Bytes.utf8_inj texts, rests⟩

/-- What a first block is made from. -/
@[ext] structure Recipe where
  text : String
  output : Bytes
  time : UInt32
  nonce : UInt32
  bits : UInt32
  version : Int32
  pays : Int64

@[ext] structure DevnetRecipe where
  previous : Hash256
  name : String
  named : name ≠ ""
  time : UInt32
  nonce : UInt32
  bits : UInt32
  pays : Int64

def Recipe.make (r : Recipe) : Block :=
  build r.text r.output r.time r.nonce r.bits r.version r.pays

def Recipe.coinbase (r : Recipe) : Transaction :=
  .coinbase (coinbaseScript r.text) [⟨r.pays, r.output⟩]

def DevnetRecipe.make (r : DevnetRecipe) : Except ProfileError Block :=
  devnet r.previous r.name r.time r.nonce r.bits r.pays

def DevnetRecipe.coinbase (r : DevnetRecipe) : Transaction :=
  .coinbase (devnetScript r.name) [⟨r.pays, [Script.opReturn]⟩]

def DevnetRecipe.block (r : DevnetRecipe) : Block :=
  assemble r.coinbase r.previous r.time r.nonce r.bits devnetVersion

theorem DevnetRecipe.make_eq_ok (r : DevnetRecipe) : r.make = .ok r.block := if_neg r.named

theorem Recipe.coinbase_bytes_inj {r s : Recipe} (same : r.coinbase.bytes = s.coinbase.bytes) :
    r.text = s.text ∧ r.pays = s.pays ∧ r.output = s.output := by
  rw [coinbase, coinbase, Transaction.coinbase_bytes, Transaction.coinbase_bytes] at same
  -- The counts in front do not say where the scripts end, the sequence number behind them does.
  have scripts := CompactSize.append_eq_of_sized (List.append_cancel_left same)
  obtain ⟨texts, rests⟩ := coinbaseScript_append_inj scripts
  have outputs := TxOut.trailing_inj (congrArg (0xff :: ·) rests)
  obtain ⟨pays, output⟩ := TxOut.mk.inj outputs
  exact ⟨texts, pays, output⟩

theorem DevnetRecipe.coinbase_bytes_inj {r s : DevnetRecipe}
    (same : r.coinbase.bytes = s.coinbase.bytes) : r.name = s.name ∧ r.pays = s.pays := by
  rw [coinbase, coinbase, Transaction.coinbase_bytes, Transaction.coinbase_bytes] at same
  obtain ⟨scripts, rests⟩ := CompactSize.sized_append_inj
    (by simp [CompactSize.counted, TxOut.bytes]) (List.append_cancel_left same)
  have outputs := TxOut.trailing_inj rests
  exact ⟨devnetScript_inj scripts, (TxOut.mk.inj outputs).1⟩

end Genesis

def Header.SameButRoot (h k : Header) : Prop := { h with merkleRoot := k.merkleRoot } = k

theorem Header.SameButRoot.eq {h k : Header} (frame : h.SameButRoot k)
    (roots : h.merkleRoot = k.merkleRoot) : h = k := by
  rw [SameButRoot, ← roots] at frame
  exact frame

namespace Block

/-- The headers agree but for their roots, and transactions of the two blocks have one digest and
different bytes. -/
def Clash (x y : Block) : Prop :=
  x.header.SameButRoot y.header ∧
    Collides Sha256.double (x.transactions.map Transaction.bytes)
      (y.transactions.map Transaction.bytes)

theorem header_bytes_eq_iff_of_single {x y : Block} {s t : Transaction}
    (left : x.transactions = [s]) (right : y.transactions = [t])
    (leftRoot : x.header.merkleRoot = s.id) (rightRoot : y.header.merkleRoot = t.id) :
    x.header.bytes = y.header.bytes ↔
      x.header.SameButRoot y.header ∧ s.bytes = t.bytes ∨ x.Clash y := by
  rw [Clash, left, right]
  constructor
  · intro same
    have headers := Header.bytes_inj same
    have frame : x.header.SameButRoot y.header := by rw [Header.SameButRoot, headers]
    have ids : Sha256.double s.bytes = Sha256.double t.bytes := by
      rw [← Transaction.id, ← Transaction.id, ← leftRoot, ← rightRoot, headers]
    by_cases forms : s.bytes = t.bytes
    · exact .inl ⟨frame, forms⟩
    · exact .inr ⟨frame, s.bytes, List.mem_singleton_self _, t.bytes, List.mem_singleton_self _,
        forms, ids⟩
  · intro given
    obtain ⟨frame, ids⟩ : x.header.SameButRoot y.header ∧ s.id = t.id := by
      obtain ⟨frame, forms⟩ | ⟨frame, u, first, v, second, _, digests⟩ := given
      · exact ⟨frame, congrArg Sha256.double forms⟩
      · obtain rfl := List.mem_singleton.mp first
        obtain rfl := List.mem_singleton.mp second
        exact ⟨frame, digests⟩
    rw [frame.eq (by rw [leftRoot, rightRoot, ids])]

end Block

namespace Genesis

theorem Recipe.eq_iff {r s : Recipe} :
    r = s ↔ r.make.header.SameButRoot s.make.header ∧ r.coinbase.bytes = s.coinbase.bytes := by
  constructor
  · rintro rfl
    exact ⟨rfl, rfl⟩
  · rintro ⟨frame, forms⟩
    obtain ⟨text, pays, output⟩ := coinbase_bytes_inj forms
    obtain ⟨version, _, _, time, bits, nonce⟩ := Header.mk.inj frame
    exact Recipe.ext text output time nonce bits version pays

theorem DevnetRecipe.eq_iff {r s : DevnetRecipe} :
    r = s ↔ r.block.header.SameButRoot s.block.header ∧
      r.coinbase.bytes = s.coinbase.bytes := by
  constructor
  · rintro rfl
    exact ⟨rfl, rfl⟩
  · rintro ⟨frame, forms⟩
    obtain ⟨name, pays⟩ := coinbase_bytes_inj forms
    obtain ⟨_, previous, _, time, bits, nonce⟩ := Header.mk.inj frame
    exact DevnetRecipe.ext previous name time nonce bits pays

/-- Two recipes of one kind have one header exactly if they are the same recipe or their coinbases
clash, and every block that is made holds the root of its own transactions. -/
theorem header_bytes_eq_iff :
    (∀ r s : Recipe, r.make.header.bytes = s.make.header.bytes ↔ r = s ∨ r.make.Clash s.make) ∧
      (∀ r s : DevnetRecipe, ∃ x y, r.make = .ok x ∧ s.make = .ok y ∧
        (x.header.bytes = y.header.bytes ↔ r = s ∨ x.Clash y)) ∧
      (∀ r : Recipe, r.make.header.merkleRoot = r.make.merkleRoot) ∧
      ∀ r : DevnetRecipe, ∃ x, r.make = .ok x ∧ x.header.merkleRoot = x.merkleRoot := by
  refine ⟨?_, ?_, ?_, ?_⟩
  · intro r s
    rw [Recipe.eq_iff]
    exact Block.header_bytes_eq_iff_of_single (s := r.coinbase) (t := s.coinbase) rfl rfl rfl rfl
  · intro r s
    refine ⟨r.block, s.block, r.make_eq_ok, s.make_eq_ok, ?_⟩
    rw [DevnetRecipe.eq_iff]
    exact Block.header_bytes_eq_iff_of_single (s := r.coinbase) (t := s.coinbase) rfl rfl rfl rfl
  · intro r
    exact (merkleRoot_assemble _ _ _ _ _ _).symm
  · intro r
    exact ⟨r.block, r.make_eq_ok, (merkleRoot_assemble _ _ _ _ _ _).symm⟩

end Genesis

end ChainProfile
