import ChainProfile.Genesis
import ChainProfile.Proofs.Script.Push
import ChainProfile.Proofs.Text.Utf8
import ChainProfile.Proofs.Wire.CompactSize

/-! What the second block of a development network says of its name. Names that differ once trimmed
have different full names, and these give different coinbase scripts and so different coinbases,
however long the names are. -/

namespace ChainProfile

theorem Transaction.coinbase_bytes (script : Bytes) (outputs : List TxOut) :
    (coinbase script outputs).bytes =
      Bytes.i32 1 ++ CompactSize.encode 1 ++ OutPoint.null.bytes ++
        (CompactSize.sized script ++
          (Bytes.u32 0xffffffff ++ CompactSize.counted TxOut.bytes outputs ++ Bytes.u32 0)) := by
  simp only [coinbase, bytes, CompactSize.counted, TxIn.bytes, List.flatMap_singleton,
    List.append_assoc]
  rfl

theorem Transaction.coinbase_bytes_inj {s t : Bytes} {outputs : List TxOut}
    (same : (coinbase s outputs).bytes = (coinbase t outputs).bytes) : s = t := by
  rw [coinbase_bytes, coinbase_bytes] at same
  exact (CompactSize.sized_append_inj rfl (List.append_cancel_left same)).1

namespace Genesis

theorem devnetName_ne_empty (name : String) : devnetName name ≠ "" := by
  rw [devnetName]
  split <;> simp

theorem devnetName_inj {a b : String} :
    devnetName a = devnetName b ↔ Text.trimmed a = Text.trimmed b := by
  have bare : ∀ name, "devnet" ≠ "devnet-" ++ name := by
    intro name same
    have lengths := congrArg String.length same
    rw [String.length_append] at lengths
    have longer : "devnet".length < "devnet-".length := by decide
    omega
  rw [devnetName, devnetName]
  by_cases left : Text.trimmed a = ""
  · by_cases right : Text.trimmed b = ""
    · simp [left, right]
    · simp [left, right, bare, Ne.symm right]
  · by_cases right : Text.trimmed b = ""
    · simp [left, right, (bare _).symm]
    · simp [left, right, String.append_right_inj]

theorem devnetScript_inj {a b : String} (same : devnetScript a = devnetScript b) : a = b := by
  simp only [devnetScript, Script.assemble_cons, Script.assemble_nil, List.append_nil] at same
  exact Bytes.utf8_inj (Script.push_inj (List.append_cancel_left same))

end Genesis

end ChainProfile
