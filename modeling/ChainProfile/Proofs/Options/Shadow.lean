import ChainProfile.Proofs.Options.Entries
import ChainProfile.Proofs.Options.Reading

/-! Arguments over a file. A node's options are read from a map: from the values of each key, not
from the places of the rows. The map is the one of the arguments with the file's beneath it, so what
the file says for a key of an argument has no part in the options, nor in the fault that is
reported. -/

namespace ChainProfile.NodeOptions

open Options

variable {a b : Options} {first second : Option File} {arguments : List String}

theorem pairwise_unknownKeysOf (o : Options) : (unknownKeysOf o).Pairwise (· ≤ ·) := by
  refine (List.pairwise_mergeSort ?_ ?_ _).imp of_decide_eq_true
  · intro x y z lower upper
    exact decide_eq_true (String.le_trans (of_decide_eq_true lower) (of_decide_eq_true upper))
  · intro x y
    simpa using String.le_total x y

theorem unknownKeysOf_congr (same : a.SameAs b) : unknownKeysOf a = unknownKeysOf b := by
  have listed := same.keys_perm.filter fun key => !knownKeys.contains key
  have perm : (unknownKeysOf a).Perm (unknownKeysOf b) :=
    (List.mergeSort_perm _ _).trans (listed.trans (List.mergeSort_perm _ _).symm)
  exact perm.eq_of_pairwise (fun _ _ _ _ => String.le_antisymm) (pairwise_unknownKeysOf a)
    (pairwise_unknownKeysOf b)

theorem ofOptions_congr (same : a.SameAs b) : ofOptions a = ofOptions b := by
  have last {α : Type} (read : String → Option α) (key : String) :
      lastAs read a key = lastAs read b key := by rw [lastAs, lastAs, same.last?]
  simp only [ofOptions, selectors, flag, logConfig, logTimestamps, last, same.has, same.last?, same.values,
    unknownKeysOf_congr same]

def entriesOf : Option File → Except OptionError Options
  | none => .ok []
  | some file => (ofFile file).map fun found => found.getD []

theorem entriesOf_text (s : String) : entriesOf (some (.bytes s.toUTF8)) = .ok (ofText s) := by
  have decoded : String.fromUTF8? s.toUTF8 = some s := by
    rw [String.fromUTF8?, String.toUTF8_eq_toByteArray, dif_pos s.isValidUTF8]
    rfl
  rw [entriesOf, ofFile, decoded]
  rfl

theorem load_of_entries {file : Option File} {lower : Options}
    (found : entriesOf file = .ok lower) (arguments : List String) :
    load file arguments =
      ofArguments arguments >>= fun upper => ofOptions (shadow upper lower) := by
  cases file with
  | none =>
    cases found
    rfl
  | some file =>
    obtain ⟨parsed, read, rfl⟩ := map_eq_ok.mp found
    rw [load, read]
    rfl

theorem valued_of_entries {file : Option File} (found : entriesOf file = .ok a) : Valued a := by
  cases file with
  | none =>
    cases found
    exact valued_map_row []
  | some file =>
    obtain ⟨parsed, read, rfl⟩ := map_eq_ok.mp found
    cases file with
    | missing =>
      cases read
      exact valued_map_row []
    | unreadable => cases read
    | bytes content =>
      rw [ofFile] at read
      split at read
      · cases read
        exact valued_map_row _
      · cases read

/-- Two files that agree on the keys that are no arguments give the same options or the same error:
what is read from any map that has for the keys of the arguments what the arguments have, and for the
others what the file has. -/
theorem load_of_agree (left : entriesOf first = .ok a) (right : entriesOf second = .ok b)
    (agree : ∀ upper, ofArguments arguments = .ok upper →
      ∀ key, has upper key = false → values a key = values b key) :
    load first arguments = load second arguments ∧
      ∀ upper, ofArguments arguments = .ok upper → ∀ o : Options,
        (∀ key, get? o key = if has upper key then get? upper key else get? a key) →
        load first arguments = ofOptions o := by
  rw [load_of_entries left, load_of_entries right]
  cases given : ofArguments arguments with
  | error e => exact ⟨rfl, nofun⟩
  | ok upper =>
    constructor
    · refine ofOptions_congr fun key => ?_
      rw [get?_shadow, get?_shadow]
      split
      case isTrue => rfl
      case isFalse absent =>
        exact get?_of_values (valued_of_entries left) (valued_of_entries right)
          (agree upper given key (Bool.eq_false_iff.mpr absent))
    · rintro _ ⟨⟩ o merged
      refine ofOptions_congr fun key => ?_
      rw [get?_shadow, merged]

def csvFoo : NodeOptions where
  network := .regtest
  devnetName := none
  deployments := [(.csv, .between 1 2)]
  budget := none
  dip3 := none
  knobs := none
  log := .standard
  unknownKeys := ["foo"]

/-- Both keys of the arguments are in this text too: it turns the network off and names a deployment
that cannot be read. -/
def csvText : String := "regtest=0\nfoo=1\nvbparams=csv\nvbparams=csv:5:6"

def csvArguments : List String := ["-regtest", "--vbparams", "csv:1:2"]

def csvGiven : Options := [("regtest", [""]), ("vbparams", ["csv:1:2"])]

theorem ofText_csvText :
    ofText csvText =
      [("regtest", ["0"]), ("foo", ["1"]), ("vbparams", ["csv"]), ("vbparams", ["csv:5:6"])] := by
  decide +kernel

theorem ofArguments_csvArguments : ofArguments csvArguments = .ok csvGiven := rfl

theorem agree_csvText {key : String} (absent : has csvGiven key = false) :
    values (ofText csvText) key = values (ofText "foo=1") key := by
  have bare : ofText "foo=1" = [("foo", ["1"])] := by decide +kernel
  simp only [has, csvGiven, List.any_cons, List.any_nil, Bool.or_false, Bool.or_eq_false_iff]
    at absent
  simp [ofText_csvText, bare, values, List.filter_cons, absent]

theorem load_of_agree_csvText :
    ofArguments csvArguments = .ok csvGiven ∧
      (∀ key, has csvGiven key = false →
        values (ofText csvText) key = values (ofText "foo=1") key) ∧
      load (some (.bytes csvText.toUTF8)) csvArguments =
        load (some (.bytes "foo=1".toUTF8)) csvArguments ∧
      load (some (.bytes csvText.toUTF8)) csvArguments = .ok csvFoo := by
  have agree : ∀ upper, ofArguments csvArguments = .ok upper →
      ∀ key, has upper key = false → values (ofText csvText) key = values (ofText "foo=1") key := by
    intro upper given key absent
    rw [ofArguments_csvArguments] at given
    cases given
    exact agree_csvText absent
  obtain ⟨same, merged⟩ := load_of_agree (entriesOf_text csvText) (entriesOf_text "foo=1") agree
  have whole := merged csvGiven ofArguments_csvArguments _ (get?_shadow csvGiven (ofText csvText))
  have read : ofOptions (shadow csvGiven (ofText csvText)) = .ok csvFoo := by
    rw [ofText_csvText]
    decide +kernel
  exact ⟨ofArguments_csvArguments, fun _ => agree_csvText, same, whole.trans read⟩

end ChainProfile.NodeOptions
