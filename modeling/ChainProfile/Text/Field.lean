/-! Texts cut at a separator. `split` gives all fields, always at least one, and `cut?` the two sides
of the first separator. -/

namespace ChainProfile.Text

def splitStep (separator c : Char) : List (List Char) → List (List Char)
  | [] => [[]]
  | field :: rest => if c = separator then [] :: field :: rest else (c :: field) :: rest

def split (separator : Char) (cs : List Char) : List (List Char) :=
  cs.foldr (splitStep separator) [[]]

@[simp] theorem split_nil (separator : Char) : split separator [] = [[]] := rfl

theorem split_cons (separator c : Char) (cs : List Char) :
    split separator (c :: cs) = splitStep separator c (split separator cs) := rfl

theorem split_ne_nil (separator : Char) (cs : List Char) : split separator cs ≠ [] := by
  cases cs with
  | nil => simp
  | cons c cs =>
    rw [split_cons]
    unfold splitStep
    split
    · simp
    · split <;> simp

theorem splitStep_append (separator c : Char) {fields : List (List Char)} (h : fields ≠ [])
    (more : List (List Char)) :
    splitStep separator c (fields ++ more) = splitStep separator c fields ++ more := by
  cases fields with
  | nil => exact absurd rfl h
  | cons field rest =>
    simp only [List.cons_append, splitStep]
    split <;> rfl

theorem split_append (separator : Char) (xs ys : List Char) :
    split separator (xs ++ separator :: ys) = split separator xs ++ split separator ys := by
  induction xs with
  | nil =>
    rw [List.nil_append, split_cons]
    cases h : split separator ys with
    | nil => exact absurd h (split_ne_nil separator ys)
    | cons field rest => simp [splitStep]
  | cons x xs ih =>
    rw [List.cons_append, split_cons, ih, splitStep_append _ _ (split_ne_nil _ _), split_cons]

def cut? (separator : Char) (cs : List Char) : Option (List Char × List Char) :=
  match cs.dropWhile (· ≠ separator) with
  | [] => none
  | _ :: rest => some (cs.takeWhile (· ≠ separator), rest)

theorem cut?_append (separator : Char) {xs : List Char} (ys : List Char) (h : separator ∉ xs) :
    cut? separator (xs ++ separator :: ys) = some (xs, ys) := by
  have all : ∀ x ∈ xs, (decide (x ≠ separator)) = true := by
    intro x hx
    simp only [ne_eq, decide_not, Bool.not_eq_eq_eq_not, Bool.not_true, decide_eq_false_iff_not]
    rintro rfl
    exact h hx
  rw [cut?, List.dropWhile_append_of_pos all, List.takeWhile_append_of_pos all]
  simp

end ChainProfile.Text
