import Mathlib.Logic.Function.Basic
import ChainProfile.Proofs.Options.Line
import ChainProfile.Proofs.Text.Joined
import ChainProfile.Proofs.Text.Lines

/-! Option files read line by line. A line with an entry puts its value at the end of the row of its key,
and any other line leaves the rows as they are. What a line says does not depend on the lines around it,
so two files one behind the other are read as the rows of the first followed by those of the second. -/

namespace ChainProfile.Options

open Text (trim lines withoutReturn)

abbrev Rows := String → List String

namespace Rows

def add (rows : Rows) (entry : String × String) : Rows :=
  Function.update rows entry.1 (rows entry.1 ++ [entry.2])

def after (rows : Rows) (line : List Char) : Rows := (entryOfLine? line).elim rows rows.add

def ofText (text : String) : Rows := (lines text.toList).foldl after fun _ => []

theorem add_apply (rows : Rows) (entry : String × String) (key : String) :
    rows.add entry key = rows key ++ values [row entry] key := by
  by_cases own : entry.1 = key
  · simp [add, values, row, ← own]
  · simp [add, values, row, own, Function.update_of_ne (Ne.symm own)]

theorem after_apply (rows : Rows) (line : List Char) (key : String) :
    rows.after line key = rows key ++ values ((entryOfLine? line).toList.map row) key := by
  rw [after]
  cases entryOfLine? line with
  | none => exact (List.append_nil _).symm
  | some entry => exact add_apply rows entry key

theorem foldl_after_apply (rows : Rows) (more : List (List Char)) (key : String) :
    more.foldl after rows key = rows key ++ values ((more.filterMap entryOfLine?).map row) key := by
  induction more generalizing rows with
  | nil => exact (List.append_nil _).symm
  | cons line more ih =>
    have entries : (line :: more).filterMap entryOfLine? =
        (entryOfLine? line).toList ++ more.filterMap entryOfLine? := by
      rw [List.filterMap_cons]
      cases entryOfLine? line <;> rfl
    rw [List.foldl_cons, ih, after_apply, entries, List.map_append, values_append,
      List.append_assoc]

end Rows

theorem content_concat_return (line : List Char) : content (line ++ ['\r']) = content line := by
  have blank : ∀ c ∈ ['\r'], Text.isBlank c = true := by
    rw [List.forall_mem_singleton]
    rfl
  rw [content, content, List.takeWhile_append]
  split
  case isTrue whole =>
    have all : line.takeWhile (fun c => !isCommentStart c) = line :=
      (List.takeWhile_prefix _).eq_of_length whole
    rw [all]
    exact Text.trim_append line blank
  case isFalse => rfl

theorem entryOfLine?_withoutReturn (line : List Char) :
    entryOfLine? (withoutReturn line) = entryOfLine? line := by
  rw [withoutReturn]
  split
  case isTrue ended =>
    have whole : line = line.dropLast ++ ['\r'] := (List.dropLast_append_getLast? _ ended).symm
    have same : content line.dropLast = content line := by
      rw [← content_concat_return, ← whole]
    rw [entryOfLine?, entryOfLine?, ← content, ← content, same]
  case isFalse => rfl

theorem Rows.ofText_eq (text : String) : Rows.ofText text = values (Options.ofText text) := by
  funext key
  rw [Rows.ofText, foldl_after_apply, List.nil_append, Options.ofText,
    Text.filterMap_lines rfl entryOfLine?_withoutReturn]

/-- A file is read line by line into the row of each key. With a line feed between them, two texts are
read as if the other were not there, whatever the first one ends with. -/
theorem values_ofText_parted :
    (∀ text, Rows.ofText text = values (ofText text)) ∧
      ∀ (a b key : String),
        values (ofText (a ++ "\n" ++ b)) key = values (ofText a) key ++ values (ofText b) key := by
  refine ⟨Rows.ofText_eq, ?_⟩
  intro a b key
  rw [ofText_append, values_append]

example :
    ofText ("Net = a\r" ++ "\n" ++ "\n; c\r\nnet=b\nbare#") =
      [("net", ["a"]), ("net", ["b"]), ("bare", [""])] := by
  decide +kernel

end ChainProfile.Options
