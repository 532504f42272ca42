import Mathlib.Data.List.Basic
import ChainProfile.Bytes

/-! The bytes of a text. They determine the text, and none of them is `0xff`, so that byte ends a text
wherever it is written behind one. -/

namespace ChainProfile.Bytes

theorem utf8_inj {s t : String} (same : utf8 s = utf8 t) : s = t :=
  String.toByteArray_inj.mp (ByteArray.ext (Array.toList_inj.mp same))

theorem toNat_utf8EncodeChar_le (c : Char) : ∀ b ∈ String.utf8EncodeChar c, b.toNat ≤ 247 := by
  have small (n : Nat) (bound : n ≤ 247) : (UInt8.ofNat n).toNat ≤ 247 := by
    rw [UInt8.toNat_ofNat']
    omega
  rw [String.utf8EncodeChar]
  repeat' split
  all_goals
    simp only [List.forall_mem_cons, List.not_mem_nil, false_implies, implies_true, and_true]
    and_intros
    all_goals exact small _ (by omega)

theorem utf8_eq_flatMap (s : String) : utf8 s = s.toList.flatMap String.utf8EncodeChar := by
  rw [utf8, String.toUTF8_eq_toByteArray, ← String.utf8Encode_toList, List.utf8Encode,
    List.data_toByteArray]

theorem ff_notMem_utf8 (s : String) : 0xff ∉ utf8 s := by
  rw [utf8_eq_flatMap]
  intro member
  obtain ⟨c, _, byte⟩ := List.mem_flatMap.mp member
  exact absurd (toNat_utf8EncodeChar_le c _ byte) (by decide)

theorem append_cons_inj {b : UInt8} {xs ys s t : Bytes} (left : b ∉ xs) (right : b ∉ ys)
    (same : xs ++ b :: s = ys ++ b :: t) : xs = ys ∧ s = t := by
  have places := congrArg (List.idxOf b) same
  rw [List.idxOf_append_of_notMem left, List.idxOf_append_of_notMem right, List.idxOf_cons_self,
    List.idxOf_cons_self] at places
  obtain ⟨fronts, backs⟩ := List.append_inj same places
  exact ⟨fronts, (List.cons.inj backs).2⟩

end ChainProfile.Bytes
