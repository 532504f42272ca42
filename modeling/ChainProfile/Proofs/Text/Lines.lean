import Mathlib.Data.List.Basic
import ChainProfile.Proofs.Text.Field

/-! Lines of a text. A line feed ends a line, and a carriage return right before the feed belongs to that
end. The last line need not be ended, and a text that ends with a line has no empty line behind it. So the
lines are the fields between the line feeds but for such carriage returns and for an empty last field:
readers that care for neither get the same from both. -/

namespace ChainProfile.Text

variable {α : Type} {cs line : List Char}

def lines : List Char → List (List Char)
  | [] => []
  | '\n' :: rest => [] :: lines rest
  | '\r' :: '\n' :: rest => [] :: lines rest
  | c :: rest =>
    match lines rest with
    | [] => [[c]]
    | line :: more => (c :: line) :: more

def withoutReturn (line : List Char) : List Char :=
  if line.getLast? = some '\r' then line.dropLast else line

theorem withoutReturn_cons {c : Char} (inside : c ≠ '\r' ∨ line ≠ []) :
    withoutReturn (c :: line) = c :: withoutReturn line := by
  cases line with
  | nil =>
    have other : c ≠ '\r' := inside.resolve_right (not_not_intro rfl)
    simp [withoutReturn, other]
  | cons d more =>
    rw [withoutReturn, List.getLast?_cons_cons, List.dropLast_cons_cons, withoutReturn]
    split <;> rfl

theorem lines_cons {c : Char} {rest : List Char} (inside : c ≠ '\n')
    (apart : c ≠ '\r' ∨ rest.head? ≠ some '\n') :
    lines (c :: rest) = match lines rest with
      | [] => [[c]]
      | line :: more => (c :: line) :: more := by
  rw [lines]
  · exact inside
  · rintro tail rfl rfl
    obtain other | other := apart
    · exact other rfl
    · exact other rfl

theorem lines_append (bare : '\n' ∉ line) (rest : List Char) :
    lines (line ++ '\n' :: rest) = withoutReturn line :: lines rest := by
  induction line with
  | nil => rfl
  | cons c line ih =>
    rw [List.mem_cons, not_or] at bare
    by_cases ending : c = '\r' ∧ line = []
    · obtain ⟨rfl, rfl⟩ := ending
      rfl
    · rw [not_and_or] at ending
      have apart : c ≠ '\r' ∨ (line ++ '\n' :: rest).head? ≠ some '\n' := by
        refine ending.imp_right fun present => ?_
        rw [List.head?_append_of_ne_nil _ present]
        exact fun first => bare.2 (List.mem_of_head? first)
      rw [List.cons_append, lines_cons (Ne.symm bare.1) apart, ih bare.2,
        withoutReturn_cons ending]

theorem lines_of_notMem (bare : '\n' ∉ cs) (present : cs ≠ []) : lines cs = [cs] := by
  induction cs with
  | nil => exact absurd rfl present
  | cons c cs ih =>
    rw [List.mem_cons, not_or] at bare
    have apart : cs.head? ≠ some '\n' := fun first => bare.2 (List.mem_of_head? first)
    rw [lines_cons (Ne.symm bare.1) (.inr apart)]
    by_cases last : cs = []
    · rw [last]
      rfl
    · rw [ih bare.2 last]

/-- What is read from the lines is read from the fields, if neither an empty text nor a carriage return at
the end makes a difference. -/
theorem filterMap_lines {read : List Char → Option α} (empty : read [] = none)
    (ended : ∀ line, read (withoutReturn line) = read line) (cs : List Char) :
    (lines cs).filterMap read = (split '\n' cs).filterMap read := by
  -- The text before the first feed is a line of its own, and the recursion is on the text behind it.
  obtain ⟨bare, -⟩ | ⟨line, rest, bare, whole, -⟩ := cut?_cases '\n' cs
  · rw [split_of_notMem bare]
    by_cases nothing : cs = []
    · rw [nothing, List.filterMap_cons_none empty]
      rfl
    · rw [lines_of_notMem bare nothing]
  · have later := filterMap_lines empty ended rest
    rw [whole, lines_append bare, split_append, split_of_notMem bare, List.singleton_append,
      List.filterMap_cons, List.filterMap_cons, ended, later]
termination_by cs.length
decreasing_by
  rw [whole, List.length_append, List.length_cons]
  omega

end ChainProfile.Text
