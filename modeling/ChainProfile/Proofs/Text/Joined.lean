import Mathlib.Data.List.Forall2
import ChainProfile.Proofs.Text.Field
import ChainProfile.Proofs.Text.Trim

/-! Fields joined to a text. Fields are written with a separator between each two and with blanks
around each as one likes. Splitting gives one field more than there are separators, and trimming what
was split gives the fields back. -/

namespace ChainProfile.Text

variable {separator : Char} {cs left right : List Char} {field text : String}
  {fields : List String}

inductive Spaced (field : String) : String → Prop
  | intro (before after : String) (left : ∀ c ∈ before.toList, isBlank c = true)
      (right : ∀ c ∈ after.toList, isBlank c = true) : Spaced field (before ++ field ++ after)

/-- Fields with blanks around each and the separator between each two. -/
def Joined (separator : Char) (fields : List String) (text : String) : Prop :=
  ∃ spaced, List.Forall₂ Spaced fields spaced ∧
    text = (String.singleton separator).intercalate spaced

/-- A text that keeps apart from blanks around it and from the separator. -/
structure IsField (separator : Char) (field : String) : Prop where
  trimmed : trim field.toList = field.toList
  free : separator ∉ field.toList

theorem Spaced.refl (field : String) : Spaced field field := by
  have bare : Spaced field ("" ++ field ++ "") := .intro "" "" (by simp) (by simp)
  simpa using bare

theorem joined_intercalate (separator : Char) (fields : List String) :
    Joined separator fields ((String.singleton separator).intercalate fields) :=
  ⟨fields, List.forall₂_same.mpr fun field _ => Spaced.refl field, rfl⟩

theorem joined_singleton : Joined separator [field] text ↔ Spaced field text := by
  constructor
  · rintro ⟨_, spaced, rfl⟩
    cases spaced with
    | cons here rest =>
      cases rest
      simpa using here
  · intro spaced
    exact ⟨[text], .cons spaced .nil, by simp⟩

theorem trimStart_append (blank : ∀ c ∈ left, isBlank c = true) (cs : List Char) :
    trimStart (left ++ cs) = trimStart cs :=
  List.dropWhile_append_of_pos blank

theorem trimEnd_append (cs : List Char) (blank : ∀ c ∈ right, isBlank c = true) :
    trimEnd (cs ++ right) = trimEnd cs := by
  have reversed : ∀ c ∈ right.reverse, isBlank c = true := by simpa using blank
  rw [trimEnd, List.reverse_append, trimStart_append reversed, ← trimEnd]

theorem mem_trim {c : Char} (member : c ∈ cs) (dark : isBlank c = false) : c ∈ trim cs := by
  have start (cs : List Char) (member : c ∈ cs) : c ∈ trimStart cs := by
    rw [← List.takeWhile_append_dropWhile (p := isBlank) (l := cs), List.mem_append] at member
    refine member.resolve_left fun early => ?_
    simp [List.mem_takeWhile_imp early] at dark
  exact List.mem_reverse.mpr (start _ (List.mem_reverse.mpr (start cs member)))

theorem trim_append (cs : List Char) (blank : ∀ c ∈ right, isBlank c = true) :
    trim (cs ++ right) = trim cs := by
  rw [trim, trim, trimStart, List.dropWhile_append]
  split
  case isTrue nothing =>
    have left : trimStart cs = [] := List.isEmpty_iff.mp nothing
    rw [List.dropWhile_eq_nil_iff.mpr blank, left]
  case isFalse => exact trimEnd_append _ blank

theorem trim_of_spaced (spaced : Spaced field text) (whole : trim field.toList = field.toList) :
    trim text.toList = field.toList := by
  obtain ⟨before, after, left, right⟩ := spaced
  rw [String.toList_append, String.toList_append, List.append_assoc, trim, trimStart_append left,
    ← trim, trim_append _ right, whole]

theorem length_split (separator : Char) (cs : List Char) :
    (split separator cs).length = cs.count separator + 1 := by
  induction cs with
  | nil => rfl
  | cons c cs ih =>
    rw [split_cons]
    cases fields : split separator cs with
    | nil => exact absurd fields (split_ne_nil separator cs)
    | cons field rest =>
      rw [fields] at ih
      by_cases same : c = separator <;> simp_all [splitStep]

theorem split_of_cut? (cut : cut? separator cs = some (left, right)) :
    split separator cs = left :: split separator right := by
  obtain ⟨_, uncut⟩ | ⟨first, rest, plain, rfl, again⟩ := cut?_cases separator cs
  · rw [uncut] at cut
    cases cut
  · cases again.symm.trans cut
    rw [split_append, split_of_notMem plain, List.singleton_append]

theorem notMem_of_spaced (spaced : Spaced field text) (dark : isBlank separator = false)
    (free : separator ∉ field.toList) : separator ∉ text.toList := by
  obtain ⟨before, after, left, right⟩ := spaced
  intro member
  rw [String.toList_append, String.toList_append, List.mem_append, List.mem_append] at member
  obtain (early | inside) | late := member
  · simp [left separator early] at dark
  · exact free inside
  · simp [right separator late] at dark

theorem split_of_joined (joined : Joined separator fields text) (some : fields ≠ [])
    (dark : isBlank separator = false) (apart : ∀ field ∈ fields, IsField separator field) :
    (split separator text.toList).map trim = fields.map String.toList := by
  obtain ⟨spaced, around, rfl⟩ := joined
  induction around with
  | nil => exact absurd rfl some
  | cons here later ih =>
    obtain ⟨fits, others⟩ := List.forall_mem_cons.mp apart
    have single := split_of_notMem (notMem_of_spaced here dark fits.free)
    have trimmed := trim_of_spaced here fits.trimmed
    cases later with
    | nil => simp [single, trimmed]
    | cons next more =>
      have onward := ih (List.cons_ne_nil _ _) others
      rw [String.intercalate_cons_cons, String.toList_append, String.toList_append,
        String.toList_singleton, List.append_assoc, List.singleton_append, split_append, single,
        List.singleton_append, List.map_cons, onward, trimmed]
      rfl

end ChainProfile.Text
