import Mathlib.Data.List.Basic
import ChainProfile.Options.Entries

/-! Options as a map from keys to rows of values. Two lists of rows are the same map where the same keys
are there and each has the same values in the same order; rows of different keys may stand in any order.
Where one map shadows another, a key has the values of the upper one if it is there, else those of the
lower. Where keys come with one value each, as in a file, every key that is there has a value. -/

namespace ChainProfile.Options

variable {a b : Options} {key value : String} {listed : List (String × String)}

def get? (o : Options) (key : String) : Option (List String) :=
  if has o key then some (values o key) else none

def entries (o : Options) : List (String × String) := o.flatMap fun row => row.2.map (row.1, ·)

def Valued (o : Options) : Prop := ∀ key, has o key = true → values o key ≠ []

theorem mem_entries : (key, value) ∈ entries a ↔ value ∈ values a key := by
  simp [entries, values]

theorem mem_keys : key ∈ keys a ↔ has a key = true := by
  simp [keys, has]

theorem has_of_values (some : values a key ≠ []) : has a key = true := by
  obtain ⟨value, member⟩ := List.exists_mem_of_ne_nil _ some
  obtain ⟨row, listed, -⟩ := List.mem_flatMap.mp member
  exact List.any_eq_true.mpr ⟨row, (List.mem_filter.mp listed)⟩

theorem nodup_eraseDups (names : List String) : names.eraseDups.Nodup := by
  cases names with
  | nil => exact List.nodup_nil
  | cons name rest =>
    have shorter := List.length_filter_le (fun other => !other == name) rest
    rw [List.eraseDups_cons, List.nodup_cons, List.mem_eraseDups]
    exact ⟨by simp, nodup_eraseDups _⟩
termination_by names.length

theorem nodup_keys (o : Options) : (keys o).Nodup := nodup_eraseDups _

theorem has_eq (o : Options) (key : String) : has o key = (get? o key).isSome := by
  rw [get?]
  split <;> simp_all

theorem values_eq (o : Options) (key : String) : values o key = (get? o key).getD [] := by
  by_cases there : has o key = true
  · rw [get?, if_pos there, Option.getD_some]
  · rw [get?, if_neg there, Option.getD_none]
    by_contra some
    exact there (has_of_values some)

/-- The same map: every key has the same values in the same order, or is in neither. -/
def SameAs (a b : Options) : Prop := ∀ key, get? a key = get? b key

namespace SameAs

variable (same : a.SameAs b)

include same

theorem values (key : String) : values a key = values b key := by
  rw [values_eq, values_eq, same]

theorem last? (key : String) : last? a key = last? b key := by
  rw [Options.last?, Options.last?, same.values]

theorem has (key : String) : has a key = has b key := by
  rw [has_eq, has_eq, same]

theorem mem_entries_iff {entry : String × String} : entry ∈ a.entries ↔ entry ∈ b.entries := by
  rw [← Prod.eta entry, mem_entries, mem_entries, same.values]

theorem keys_perm : (keys a).Perm (keys b) := by
  rw [List.perm_ext_iff_of_nodup (nodup_keys a) (nodup_keys b)]
  intro key
  rw [mem_keys, mem_keys, same.has]

end SameAs

theorem get?_of_values (left : Valued a) (right : Valued b) (agree : values a key = values b key) :
    get? a key = get? b key := by
  have there : has a key = has b key := by
    rw [Bool.eq_iff_iff]
    exact ⟨fun there => has_of_values (agree ▸ left key there),
      fun there => has_of_values (agree ▸ right key there)⟩
  rw [get?, get?, there, agree]

theorem values_map_row (listed : List (String × String)) (key : String) :
    values (listed.map row) key = (listed.filter (·.1 == key)).map Prod.snd := by
  rw [values, List.filter_map, List.flatMap_map, List.map_eq_flatMap]
  rfl

theorem entries_map_row (listed : List (String × String)) : entries (listed.map row) = listed := by
  simp [entries, row, List.flatMap_map]

theorem valued_map_row (listed : List (String × String)) : Valued (listed.map row) := by
  intro key there
  simpa [values_map_row, has, row] using there

theorem values_map_row_entries (o : Options) (key : String) :
    values (o.entries.map row) key = values o key := by
  rw [values_map_row]
  induction o with
  | nil => rfl
  | cons row rest ih =>
    have split : entries (row :: rest) = row.2.map (row.1, ·) ++ entries rest := List.flatMap_cons
    rw [split, List.filter_append, List.map_append, ih]
    by_cases own : row.1 = key <;>
      simp [values, own, List.filter_map, Function.comp_def, List.filter_true]

theorem get?_of_filter {other : Options}
    (same : a.filter (·.1 == key) = other.filter (·.1 == key)) :
    get? a key = get? other key := by
  have there (o : Options) : has o key = (o.filter (·.1 == key)).any fun _ => true := by
    rw [has, List.any_filter]
    simp
  rw [get?, get?, there, there, values, values, same]

theorem get?_shadow (upper lower : Options) (key : String) :
    get? (shadow upper lower) key = if has upper key then get? upper key else get? lower key := by
  have hides (row : String × List String) (own : (row.1 == key) = true) :
      (!has upper row.1) = !has upper key := by
    rw [eq_of_beq own]
  split
  case isTrue given =>
    refine get?_of_filter ?_
    have hidden : (lower.filter fun row => !has upper row.1).filter (·.1 == key) = [] := by
      rw [List.filter_filter, List.filter_eq_nil_iff]
      rintro row - kept
      obtain ⟨own, free⟩ := Bool.and_eq_true_iff.mp kept
      rw [hides row own, given] at free
      cases free
    rw [shadow, List.filter_append, hidden, List.nil_append]
  case isFalse absent =>
    refine get?_of_filter ?_
    have none : upper.filter (·.1 == key) = [] := by
      rw [List.filter_eq_nil_iff]
      exact fun row member own => absent (List.any_eq_true.mpr ⟨row, member, own⟩)
    rw [shadow, List.filter_append, none, List.append_nil, List.filter_filter]
    refine List.filter_congr fun row _ => ?_
    by_cases own : (row.1 == key) = true
    · rw [hides row own, own, Bool.eq_false_iff.mpr absent]
      rfl
    · rw [Bool.eq_false_iff.mpr own, Bool.false_and]

end ChainProfile.Options
