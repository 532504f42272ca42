import Mathlib.Data.List.DropRight
import ChainProfile.Text.Blank

/-! Trimming once is enough. A trimmed text starts and ends with no blank, and a text that does so
is its own trimmed form. -/

namespace ChainProfile.Text

variable {cs : List Char}

theorem trimEnd_eq_rdropWhile (cs : List Char) : trimEnd cs = cs.rdropWhile isBlank := rfl

theorem trimEnd_prefix (cs : List Char) : trimEnd cs <+: cs := by
  rw [trimEnd_eq_rdropWhile]
  exact List.rdropWhile_prefix isBlank cs

theorem trim_subset (cs : List Char) : trim cs ⊆ cs := by
  have cut : trim cs <+: trimStart cs := trimEnd_prefix (trimStart cs)
  exact fun _ member => List.dropWhile_subset _ (cut.subset member)

theorem trimStart_trim (cs : List Char) : trimStart (trim cs) = trim cs := by
  refine List.dropWhile_eq_self_iff.mpr ?_
  intro present
  have cut : trim cs <+: trimStart cs := trimEnd_prefix (trimStart cs)
  have kept : 0 < (trimStart cs).length := present.trans_le cut.length_le
  rw [cut.getElem present]
  exact List.dropWhile_get_zero_not _ cs kept

theorem trim_trim (cs : List Char) : trim (trim cs) = trim cs := by
  rw [trim, trimStart_trim, trim, trimEnd_eq_rdropWhile, trimEnd_eq_rdropWhile,
    List.rdropWhile_idempotent]

theorem trimStart_eq_self_iff : trimStart cs = cs ↔ ∀ c ∈ cs.head?, isBlank c = false := by
  rw [trimStart, List.dropWhile_eq_self_iff]
  cases cs <;> simp

theorem trimEnd_eq_self_iff : trimEnd cs = cs ↔ ∀ c ∈ cs.getLast?, isBlank c = false := by
  rw [trimEnd, List.reverse_eq_iff, trimStart_eq_self_iff, List.head?_reverse]

theorem trim_eq_self_iff :
    trim cs = cs ↔
      (∀ c ∈ cs.head?, isBlank c = false) ∧ ∀ c ∈ cs.getLast?, isBlank c = false := by
  rw [← trimStart_eq_self_iff, ← trimEnd_eq_self_iff]
  constructor
  · intro whole
    have start : trimStart cs = cs := by
      rw [← whole]
      exact trimStart_trim cs
    rw [trim, start] at whole
    exact ⟨start, whole⟩
  · rintro ⟨start, finish⟩
    rw [trim, start, finish]

theorem trim_of_dark (dark : ∀ c ∈ cs, isBlank c = false) : trim cs = cs := by
  rw [trim_eq_self_iff]
  exact ⟨fun c first => dark c (List.mem_of_head? first),
    fun c last => dark c (List.mem_of_getLast? last)⟩

@[simp] theorem trimmed_trimmed (s : String) : trimmed (trimmed s) = trimmed s := by
  rw [trimmed, toList_trimmed, trim_trim, ← trimmed]

theorem trim_toList {s : String} (whole : trimmed s = s) : trim s.toList = s.toList := by
  rw [← toList_trimmed, whole]

theorem trimmed_ofList (whole : trim cs = cs) :
    trimmed (String.ofList cs) = String.ofList cs := by
  rw [trimmed, String.toList_ofList, whole]

end ChainProfile.Text
