import Mathlib.Data.List.TakeWhile
import ChainProfile.Text.Field

/-! Fields and separators. No field holds the separator, a text without it is one field, and a cut
is at the first separator. -/

namespace ChainProfile.Text

variable {separator : Char} {cs : List Char}

theorem notMem_of_mem_split : ∀ field ∈ split separator cs, separator ∉ field := by
  induction cs with
  | nil => simp
  | cons c cs ih =>
    rw [split_cons]
    cases fields : split separator cs with
    | nil => exact absurd fields (split_ne_nil separator cs)
    | cons field rest =>
      rw [fields] at ih
      obtain ⟨here, later⟩ := List.forall_mem_cons.mp ih
      rw [splitStep]
      split
      · exact List.forall_mem_cons.mpr ⟨List.not_mem_nil, ih⟩
      · rename_i other
        refine List.forall_mem_cons.mpr ⟨?_, later⟩
        exact List.not_mem_cons_of_ne_of_not_mem (Ne.symm other) here

theorem split_of_notMem (absent : separator ∉ cs) : split separator cs = [cs] := by
  induction cs with
  | nil => rfl
  | cons c cs ih =>
    rw [List.mem_cons, not_or] at absent
    rw [split_cons, ih absent.2, splitStep, if_neg (Ne.symm absent.1)]

theorem cut?_of_notMem (absent : separator ∉ cs) : cut? separator cs = none := by
  have all : cs.dropWhile (· ≠ separator) = [] := by
    rw [List.dropWhile_eq_nil_iff]
    intro c member
    exact decide_eq_true (ne_of_mem_of_not_mem member absent)
  rw [cut?, all]

theorem cut?_cases (separator : Char) (cs : List Char) :
    separator ∉ cs ∧ cut? separator cs = none ∨
      ∃ left right, separator ∉ left ∧ cs = left ++ separator :: right ∧
        cut? separator cs = some (left, right) := by
  by_cases present : separator ∈ cs
  · obtain ⟨left, right, whole, first⟩ := List.eq_append_cons_of_mem present
    exact .inr ⟨left, right, first, whole, whole ▸ cut?_append separator right first⟩
  · exact .inl ⟨present, cut?_of_notMem present⟩

end ChainProfile.Text
