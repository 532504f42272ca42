import ChainProfile.Options.Arguments
import ChainProfile.Proofs.Options.Line

/-! Options as lines and as arguments. An entry has up to three spellings as arguments, and in a
list each entry may have its own. Each spelling is read as that entry and leaves the arguments
behind it alone, so the list is read as it is from the lines of a file. -/

namespace ChainProfile.Options

variable {entry : String × String} {key value : String} {entries : List (String × String)}
  {spelling arguments : List String} {spelled : List (List String)}

/-- The arguments that an entry can be given as. -/
inductive Spells : String × String → List String → Prop
  | short (key value : String) : Spells (key, value) ["-" ++ key ++ "=" ++ value]
  | long (key value : String) : Spells (key, value) ["--" ++ key ++ "=" ++ value]
  | apart {key value : String} (takes : takesValue key = true)
      (undashed : startsWithDash value = false) : Spells (key, value) ["--" ++ key, value]

theorem withoutDashes?_short {cs : List Char} (undashed : cs.head? ≠ some '-') :
    withoutDashes? ('-' :: cs) = some (false, cs) := by
  cases cs with
  | nil => rfl
  | cons c rest =>
    have other : c ≠ '-' := fun same => undashed (same ▸ rfl)
    simp [withoutDashes?, other]

theorem withoutDashes?_long (cs : List Char) :
    withoutDashes? ('-' :: '-' :: cs) = some (true, cs) := rfl

theorem argument_entry {arg : String} {long : Bool} (plain : '=' ∉ key.toList)
    (stripped : withoutDashes? arg.toList = some (long, key.toList ++ '=' :: value.toList)) :
    argument arg = .ok (.entry key value) := by
  simp only [argument, stripped, Text.cut?_append '=' _ plain, String.ofList_toList]

theorem argument_awaiting {arg : String} (plain : '=' ∉ key.toList) (takes : takesValue key = true)
    (stripped : withoutDashes? arg.toList = some (true, key.toList)) :
    argument arg = .ok (.awaiting key) := by
  simp only [argument, stripped, Text.cut?_of_notMem plain, String.ofList_toList, takes,
    Bool.and_self, if_true]

theorem entryOf_named (named : key ≠ "") (arg value : String) :
    entryOf arg key value = .ok (lowered (key, value)) := if_neg named

theorem ofArguments_entry {arg : String} (named : key ≠ "")
    (read : argument arg = .ok (.entry key value)) (rest : List String) :
    ofArguments (arg :: rest) = (ofArguments rest).map (row (lowered (key, value)) :: ·) := by
  rw [ofArguments, read]
  simp only [entryOf_named named]
  cases ofArguments rest <;> rfl

theorem ofArguments_awaiting {arg : String} (named : key ≠ "")
    (read : argument arg = .ok (.awaiting key)) (undashed : startsWithDash value = false)
    (rest : List String) :
    ofArguments (arg :: value :: rest) =
      (ofArguments rest).map (row (lowered (key, value)) :: ·) := by
  rw [ofArguments, read]
  simp only [entryOf_named named, undashed]
  cases ofArguments rest <;> rfl

theorem ofArguments_append (spells : Spells entry spelling) (writable : Writable entry)
    (undashed : startsWithDash entry.1 = false) (rest : List String) :
    ofArguments (spelling ++ rest) = (ofArguments rest).map (row (lowered entry) :: ·) := by
  have plain : '=' ∉ entry.1.toList := fun member => (writable.key _ member).1 rfl
  cases spells with
  | short key value =>
    have named : key.toList ≠ [] := by simpa using writable.named
    have start : (key.toList ++ '=' :: value.toList).head? ≠ some '-' := by
      rw [List.head?_append_of_ne_nil _ named]
      exact of_decide_eq_false undashed
    have stripped : withoutDashes? ("-" ++ key ++ "=" ++ value).toList =
        some (false, key.toList ++ '=' :: value.toList) := by
      simpa using withoutDashes?_short start
    exact ofArguments_entry writable.named (argument_entry plain stripped) rest
  | long key value =>
    have stripped : withoutDashes? ("--" ++ key ++ "=" ++ value).toList =
        some (true, key.toList ++ '=' :: value.toList) := by
      simpa using withoutDashes?_long (key.toList ++ '=' :: value.toList)
    exact ofArguments_entry writable.named (argument_entry plain stripped) rest
  | apart takes dashless =>
    rename_i key value
    have stripped : withoutDashes? ("--" ++ key).toList = some (true, key.toList) := by
      simpa using withoutDashes?_long key.toList
    exact ofArguments_awaiting writable.named (argument_awaiting plain takes stripped) dashless rest

theorem ofArguments_flatten (writable : ∀ entry ∈ entries, Writable entry)
    (undashed : ∀ entry ∈ entries, startsWithDash entry.1 = false)
    (spells : List.Forall₂ Spells entries spelled) :
    ofArguments spelled.flatten = .ok ((entries.map lowered).map row) := by
  induction spells with
  | nil => rfl
  | cons here later ih =>
    obtain ⟨fits, others⟩ := List.forall_mem_cons.mp writable
    obtain ⟨plain, rest⟩ := List.forall_mem_cons.mp undashed
    rw [List.flatten_cons, ofArguments_append here fits plain, ih others rest]
    rfl

/-- Entries are read alike from one line each, the last line ended or not, and from arguments of any
spelling: as one row each, in their order, with the keys in lower case. -/
theorem ofText_eq_ofArguments (writable : ∀ entry ∈ entries, Writable entry)
    (undashed : ∀ entry ∈ entries, startsWithDash entry.1 = false)
    (spells : List.Forall₂ Spells entries spelled) :
    ofText (text entries) = (entries.map lowered).map row ∧
      ofText (text entries ++ "\n") = (entries.map lowered).map row ∧
      ofArguments spelled.flatten = .ok ((entries.map lowered).map row) := by
  refine ⟨ofText_text writable, ?_, ofArguments_flatten writable undashed spells⟩
  rw [ofText_ended]
  exact ofText_text writable

theorem ofText_eq_ofArguments_mixed :
    let entries := [("RegTest", ""), ("network", "-a=b c"), ("VBParams", "csv:1:2"),
      ("Ключ", ""), ("vbparams", "csv:3:4")]
    let arguments := ["-RegTest=", "--network=-a=b c", "--VBParams", "csv:1:2", "--Ключ", "",
      "-vbparams=csv:3:4"]
    let read : Options := [("regtest", [""]), ("network", ["-a=b c"]), ("vbparams", ["csv:1:2"]),
      ("Ключ", [""]), ("vbparams", ["csv:3:4"])]
    (∀ entry ∈ entries, Writable entry) ∧ (∀ entry ∈ entries, startsWithDash entry.1 = false) ∧
      ofText "RegTest=\nnetwork=-a=b c\nVBParams=csv:1:2\nКлюч=\nvbparams=csv:3:4" = read ∧
      ofArguments arguments = .ok read := by
  intro entries arguments read
  have writable : ∀ entry ∈ entries, Writable entry := by decide +kernel
  have undashed : ∀ entry ∈ entries, startsWithDash entry.1 = false := by decide
  have spells : List.Forall₂ Spells entries [["-RegTest="], ["--network=-a=b c"],
      ["--VBParams", "csv:1:2"], ["--Ключ", ""], ["-vbparams=csv:3:4"]] := by
    refine .cons (.short _ _) (.cons (.long _ _) (.cons (.apart ?_ ?_) (.cons (.apart ?_ ?_)
      (.cons (.short _ _) .nil))))
    all_goals decide
  obtain ⟨lines, _, alike⟩ := ofText_eq_ofArguments writable undashed spells
  have lower : (entries.map lowered).map row = read := by decide
  rw [lower] at lines alike
  exact ⟨writable, undashed, lines, alike⟩

end ChainProfile.Options
