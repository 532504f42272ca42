import ChainProfile.Options.File
import ChainProfile.Proofs.Options.Entries
import ChainProfile.Proofs.Text.Field
import ChainProfile.Proofs.Text.Lowercase

/-! Option files written and read. An entry that a line can hold is read back from that line as a row of
its own, with its key in lower case. What is read from any file are such entries with lower-case keys,
so a file that lists them again is read as the same map. -/

namespace ChainProfile.Options

open Text (trim split cut?)

variable {entry : String × String} {entries : List (String × String)}

def line (entry : String × String) : String := entry.1 ++ "=" ++ entry.2

def text (entries : List (String × String)) : String := String.intercalate "\n" (entries.map line)

def lowered (entry : String × String) : String × String := (Text.lowercase entry.1, entry.2)

def Inline (c : Char) : Prop := c ≠ '#' ∧ c ≠ ';' ∧ c ≠ '\n'

instance : DecidablePred Inline := fun _ => inferInstanceAs (Decidable (_ ∧ _ ∧ _))

/-- An entry that a line can hold. -/
@[mk_iff]
structure Writable (entry : String × String) : Prop where
  named : entry.1 ≠ ""
  keyTrimmed : Text.trimmed entry.1 = entry.1
  valueTrimmed : Text.trimmed entry.2 = entry.2
  key : ∀ c ∈ entry.1.toList, c ≠ '=' ∧ Inline c
  value : ∀ c ∈ entry.2.toList, Inline c

instance : DecidablePred Writable := fun entry =>
  have := List.decidableBAll (fun c => c ≠ '=' ∧ Inline c) entry.1.toList
  have := List.decidableBAll Inline entry.2.toList
  decidable_of_iff' _ (writable_iff entry)

theorem toList_line (entry : String × String) :
    (line entry).toList = entry.1.toList ++ '=' :: entry.2.toList := by
  simp [line]

theorem inline_toLower {c : Char} (inline : Inline c) : Inline c.toLower :=
  ⟨Text.toLower_ne rfl inline.1, Text.toLower_ne rfl inline.2.1, Text.toLower_ne rfl inline.2.2⟩

def content (line : List Char) : List Char := trim (line.takeWhile fun c => !isCommentStart c)

theorem isCommentStart_eq_false {c : Char} : isCommentStart c = false ↔ c ≠ '#' ∧ c ≠ ';' := by
  simp [isCommentStart]

theorem inline_of_mem_content {line : List Char} (bare : '\n' ∉ line) :
    ∀ c ∈ content line, Inline c := by
  intro c member
  have kept := Text.trim_subset _ member
  have plain : isCommentStart c = false := by simpa using List.mem_takeWhile_imp kept
  obtain ⟨number, semicolon⟩ := isCommentStart_eq_false.mp plain
  exact ⟨number, semicolon, ne_of_mem_of_not_mem (List.takeWhile_subset _ kept) bare⟩

theorem content_of_inline {line : List Char} (inline : ∀ c ∈ line, Inline c)
    (trimmed : trim line = line) : content line = line := by
  have whole : line.takeWhile (fun c => !isCommentStart c) = line := by
    rw [List.takeWhile_eq_self_iff]
    intro c member
    have here := inline c member
    rw [isCommentStart_eq_false.mpr ⟨here.1, here.2.1⟩, Bool.not_false]
  rw [content, whole, trimmed]

theorem sides_append {left : List Char} (right : List Char) (plain : '=' ∉ left) :
    sides (left ++ '=' :: right) = (left, right) := by
  rw [sides, Text.cut?_append '=' right plain, Option.getD_some]

theorem sides_spec (line : List Char) :
    '=' ∉ (sides line).1 ∧ (sides line).1 ⊆ line ∧ (sides line).2 ⊆ line := by
  rw [sides]
  obtain ⟨absent, uncut⟩ | ⟨left, right, first, rfl, cut⟩ := Text.cut?_cases '=' line
  · rw [uncut]
    exact ⟨absent, List.Subset.refl _, List.nil_subset _⟩
  · rw [cut]
    refine ⟨first, List.subset_append_left _ _, ?_⟩
    exact List.subset_append_of_subset_right _ (List.subset_cons_self _ _)

theorem entryOfLine?_eq_some {line : List Char} :
    entryOfLine? line = some entry ↔
      trim (sides (content line)).1 ≠ [] ∧
        entry = (String.ofList ((trim (sides (content line)).1).map Char.toLower),
          String.ofList (trim (sides (content line)).2)) := by
  rw [entryOfLine?, ← content]
  obtain ⟨left, right⟩ := sides (content line)
  by_cases unnamed : trim left = [] <;> simp [unnamed, eq_comm]

theorem Writable.inline_line (writable : Writable entry) :
    ∀ c ∈ (line entry).toList, Inline c := by
  rw [toList_line]
  intro c member
  obtain before | rfl | after := by simpa using member
  · exact (writable.key c before).2
  · decide
  · exact writable.value c after

theorem Writable.trim_line (writable : Writable entry) :
    trim (line entry).toList = (line entry).toList := by
  have start := (Text.trim_eq_self_iff.mp (Text.trim_toList writable.keyTrimmed)).1
  have finish := (Text.trim_eq_self_iff.mp (Text.trim_toList writable.valueTrimmed)).2
  have named : entry.1.toList ≠ [] := by simpa using writable.named
  rw [toList_line, Text.trim_eq_self_iff, List.head?_append_of_ne_nil _ named,
    List.getLast?_append_of_ne_nil _ (List.cons_ne_nil _ _)]
  refine ⟨start, ?_⟩
  cases value : entry.2.toList with
  | nil =>
    have dark : Text.isBlank '=' = false := rfl
    simp [dark]
  | cons c rest =>
    rw [value] at finish
    rwa [List.getLast?_cons_cons]

theorem entryOfLine?_line (writable : Writable entry) :
    entryOfLine? (line entry).toList = some (lowered entry) := by
  have plain : '=' ∉ entry.1.toList := fun member => (writable.key _ member).1 rfl
  have named : entry.1.toList ≠ [] := by simpa using writable.named
  rw [entryOfLine?_eq_some, content_of_inline writable.inline_line writable.trim_line, toList_line,
    sides_append _ plain, Text.trim_toList writable.keyTrimmed,
    Text.trim_toList writable.valueTrimmed, String.ofList_toList]
  exact ⟨named, rfl⟩

theorem writable_of_entryOfLine? {line : List Char} (bare : '\n' ∉ line)
    (found : entryOfLine? line = some entry) : Writable entry ∧ lowered entry = entry := by
  obtain ⟨named, rfl⟩ := entryOfLine?_eq_some.mp found
  obtain ⟨plain, left, right⟩ := sides_spec (content line)
  have inline := inline_of_mem_content bare
  refine ⟨⟨?_, ?_, ?_, ?_, ?_⟩, ?_⟩
  · simpa using named
  · exact Text.trimmed_ofList (Text.trim_map_toLower (Text.trim_trim _))
  · exact Text.trimmed_ofList (Text.trim_trim _)
  · intro c member
    rw [String.toList_ofList, List.mem_map] at member
    obtain ⟨d, member, rfl⟩ := member
    have before := Text.trim_subset _ member
    exact ⟨Text.toLower_ne rfl (ne_of_mem_of_not_mem before plain),
      inline_toLower (inline d (left before))⟩
  · intro c member
    rw [String.toList_ofList] at member
    exact inline c (right (Text.trim_subset _ member))
  · simp [lowered, Text.lowercase, Function.comp_def]

theorem ofText_append (s t : String) : ofText (s ++ "\n" ++ t) = ofText s ++ ofText t := by
  have feed : "\n".toList = ['\n'] := rfl
  simp only [ofText, String.toList_append, feed, List.append_assoc, List.cons_append,
    List.nil_append, Text.split_append, List.filterMap_append, List.map_append]

theorem ofText_ended (s : String) : ofText (s ++ "\n") = ofText s := by
  have nothing : ofText "" = [] := rfl
  rw [← String.append_empty (s := s ++ "\n"), ofText_append, nothing, List.append_nil]

theorem ofText_line (writable : Writable entry) : ofText (line entry) = [row (lowered entry)] := by
  have whole : '\n' ∉ (line entry).toList := fun member => (writable.inline_line _ member).2.2 rfl
  rw [ofText, Text.split_of_notMem whole, List.filterMap_cons_some (entryOfLine?_line writable),
    List.filterMap_nil, List.map_singleton]

theorem ofText_text (writable : ∀ entry ∈ entries, Writable entry) :
    ofText (text entries) = (entries.map lowered).map row := by
  induction entries with
  | nil => rfl
  | cons entry rest ih =>
    obtain ⟨here, later⟩ := List.forall_mem_cons.mp writable
    cases rest with
    | nil => exact ofText_line here
    | cons next more =>
      have onward : text (entry :: next :: more) = line entry ++ "\n" ++ text (next :: more) :=
        String.intercalate_cons_cons
      rw [onward, ofText_append, ofText_line here, ih later]
      rfl

theorem writable_of_ofText {s : String} (member : entry ∈ (ofText s).entries) :
    Writable entry ∧ lowered entry = entry := by
  rw [ofText, entries_map_row] at member
  obtain ⟨line, field, found⟩ := List.mem_filterMap.mp member
  exact writable_of_entryOfLine? (Text.notMem_of_mem_split line field) found

/-- A file that lists what was read, in an order of its own among different keys, is read as the
same map, with its last line ended or not. -/
theorem ofText_text_sameAs (s : String) {listed : Options} (same : listed.SameAs (ofText s)) :
    (ofText (text listed.entries)).SameAs (ofText s) ∧
      (ofText (text listed.entries ++ "\n")).SameAs (ofText s) := by
  have held : ∀ entry ∈ listed.entries, Writable entry ∧ lowered entry = entry := fun _ member =>
    writable_of_ofText (same.mem_entries_iff.mp member)
  have unchanged : listed.entries.map lowered = listed.entries :=
    (List.map_congr_left fun entry member => (held entry member).2).trans (List.map_id _)
  have reread : ofText (text listed.entries) = listed.entries.map row := by
    rw [ofText_text fun entry member => (held entry member).1, unchanged]
  have again : Options.SameAs (listed.entries.map row) (ofText s) := by
    intro key
    refine get?_of_values (valued_map_row _) (valued_map_row _) ?_
    rw [values_map_row_entries, same.values]
  rw [ofText_ended, reread]
  exact ⟨again, again⟩

theorem ofText_text_sameAs_grouped :
    let s := "Net = a ; c\r\n#x\nb\nnet=b=c"
    let listed : Options := [("b", [""]), ("net", ["a", "b=c"])]
    ofText s = [("net", ["a"]), ("b", [""]), ("net", ["b=c"])] ∧ listed.SameAs (ofText s) ∧
      text listed.entries = "b=\nnet=a\nnet=b=c" ∧
      (ofText (text listed.entries)).SameAs (ofText s) := by
  intro s listed
  have read : ofText s = [("net", ["a"]), ("b", [""]), ("net", ["b=c"])] := by decide +kernel
  have same : listed.SameAs (ofText s) := by
    rw [read]
    intro key
    by_cases net : key = "net"
    · rw [net]
      rfl
    by_cases bare : key = "b"
    · rw [bare]
      rfl
    · simp [get?, has, listed, Ne.symm net, Ne.symm bare]
  exact ⟨read, same, by decide +kernel, (ofText_text_sameAs s same).1⟩

end ChainProfile.Options
