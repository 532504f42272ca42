import ChainProfile.Proofs.Options.Reading
import ChainProfile.Proofs.Options.Value

/-! What a refusal quotes. Most options take the last value of their key, and a fault quotes it as it
was given. Deployments are read from every value of theirs, and a fault quotes the value that is
refused. Only of a misread one, it quotes the numbers and leaves out the name before them. -/

namespace ChainProfile.NodeOptions

open Options

variable {m : Options} {e : OptionError} {key quoted : String}

/-- The value that a fault of the key lies in: the first deployment that is refused, or else the last
value of the key. -/
def faulty? (m : Options) (key : String) : Option String :=
  if key = vbKey then (values m key).find? fun value => !(deployment value).isOk
  else last? m key

theorem mem_of_faulty? {written : String} (fault : faulty? m key = some written) :
    written ∈ values m key := by
  unfold faulty? at fault
  split at fault
  · exact List.mem_of_find?_eq_some fault
  · exact List.mem_of_getLast? fault

inductive Quotes (m : Options) : OptionError → Prop
  | last {key quoted : String} (other : key ≠ vbKey) (fault : faulty? m key = some quoted) :
      Quotes m (.invalidValue key quoted)
  | deployment {written : String} {e : OptionError} (fault : faulty? m vbKey = some written)
      (refused : deployment written = .error e) : Quotes m e
  | conflict (first second : Network) : Quotes m (.conflictingNetworks first second)

theorem quotes_of_lastAs {α : Type} {read : String → Option α}
    (failed : lastAs read m key = .error e) (other : key ≠ vbKey) : Quotes m e := by
  obtain ⟨quoted, last, -, rfl⟩ := lastAs_eq_error.mp failed
  refine .last other ?_
  rw [faulty?, if_neg other, last]

theorem quotes_of_flag (failed : flag m key = .error e) (other : key ≠ vbKey) : Quotes m e := by
  rw [flag, map_eq_error] at failed
  exact quotes_of_lastAs failed other

theorem quotes_of_selectors (failed : selectors m = .error e) : Quotes m e := by
  simp only [selectors, bind_eq_error] at failed
  obtain token | ⟨_, -, testnet | ⟨_, -, regtest | ⟨_, -, done⟩⟩⟩ := failed
  · exact quotes_of_lastAs token (by decide)
  · exact quotes_of_flag testnet (by decide)
  · exact quotes_of_flag regtest (by decide)
  · cases done

theorem quotes_of_resolve {named : List Network} (failed : resolve named = .error e) :
    Quotes m e := by
  cases named with
  | nil => cases failed
  | cons first rest =>
    rw [resolve] at failed
    split at failed
    · cases failed
      exact .conflict _ _
    · cases failed

theorem quotes_of_logTimestamps (failed : logTimestamps m = .error e) : Quotes m e := by
  rw [logTimestamps] at failed
  split at failed
  · exact quotes_of_flag failed (by decide)
  · cases failed

theorem quotes_of_logConfig (failed : logConfig m = .error e) : Quotes m e := by
  simp only [logConfig, bind_eq_error] at failed
  obtain level | ⟨_, -, format | ⟨_, -, timestamps | ⟨_, -, done⟩⟩⟩ := failed
  · exact quotes_of_lastAs level (by decide)
  · exact quotes_of_lastAs format (by decide)
  · exact quotes_of_logTimestamps timestamps
  · cases done

theorem quotes_of_ofOptions (failed : ofOptions m = .error e) : Quotes m e := by
  simp only [ofOptions, bind_eq_error] at failed
  obtain selected | ⟨_, -, resolved | ⟨_, -, deployments | ⟨_, -, budget | ⟨_, -, dip3 |
    ⟨_, -, minimum | ⟨_, -, blocks | ⟨_, -, factor | ⟨_, -, log | ⟨_, -, done⟩⟩⟩⟩⟩⟩⟩⟩⟩ := failed
  · exact quotes_of_selectors selected
  · exact quotes_of_resolve resolved
  · obtain ⟨written, first, refused⟩ := find?_of_mapM_eq_error deployments
    exact .deployment first refused
  · exact quotes_of_lastAs budget (by decide)
  · exact quotes_of_lastAs dip3 (by decide)
  · exact quotes_of_lastAs minimum (by decide)
  · exact quotes_of_lastAs blocks (by decide)
  · exact quotes_of_lastAs factor (by decide)
  · exact quotes_of_logConfig log
  · cases done

theorem ne_of_misread {value numbers : String} (misread : Misread value numbers) :
    numbers ≠ value := by
  obtain ⟨id, name, -, -, rfl⟩ := misread.named
  intro same
  have lengths := congrArg String.length same
  simp at lengths

/-- An invalid value is quoted as the faulty value of its key is written, except for a misread
deployment, of which only the numbers are quoted. -/
theorem invalidValue_quotes_iff (failed : ofOptions m = .error (.invalidValue key quoted)) :
    ∃ written ∈ values m key, faulty? m key = some written ∧
      (quoted = written ↔ ¬ ∃ numbers, key = vbKey ∧ Misread written numbers) ∧
      ∀ numbers, key = vbKey → Misread written numbers → quoted = numbers := by
  cases quotes_of_ofOptions failed with
  | last other fault =>
    refine ⟨quoted, mem_of_faulty? fault, fault, iff_of_true rfl ?_, ?_⟩
    · rintro ⟨numbers, same, -⟩
      exact other same
    · exact fun _ same => absurd same other
  | @deployment written _ fault refused =>
    -- Only a misread value can be quoted otherwise, and its numbers are shorter than itself.
    obtain ⟨whole, same, quotation⟩ := deployment_eq_error refused
    cases same
    have numbersOf (numbers : String) (misread : Misread written numbers) : quoted = numbers := by
      rw [deployment_of_misread misread] at refused
      cases refused
      rfl
    refine ⟨written, mem_of_faulty? fault, fault, ?_, fun numbers _ => numbersOf numbers⟩
    constructor
    · rintro rfl ⟨numbers, -, misread⟩
      exact ne_of_misread misread (numbersOf numbers misread).symm
    · exact fun plain => quotation.resolve_right fun misread => plain ⟨quoted, rfl, misread⟩

def misreadFirst : Options := [(vbKey, ["csv:1:x", "csv"])]

theorem ofOptions_misreadFirst : ofOptions misreadFirst = .error (.invalidValue vbKey "1:x") := by
  decide +kernel

theorem quoted_notMem_misreadFirst :
    ofOptions misreadFirst = .error (.invalidValue vbKey "1:x") ∧
      "1:x" ∉ values misreadFirst vbKey :=
  ⟨ofOptions_misreadFirst, by decide⟩

theorem misread_csv : Misread "csv:1:x" "1:x" where
  named := ⟨.csv, "csv", by decide, by decide +kernel, rfl⟩
  counted := .inl (by decide)
  illegible := by decide +kernel

theorem invalidValue_quotes_iff_misreadFirst :
    (faulty? misreadFirst vbKey = some "csv:1:x" ∧ Misread "csv:1:x" "1:x" ∧
        ∀ numbers, Misread "csv:1:x" numbers → "1:x" = numbers) ∧
      ofOptions [("regtest", ["no", "maybe"])] = .error (.invalidValue "regtest" "maybe") ∧
      "maybe" ∈ values [("regtest", ["no", "maybe"])] "regtest" := by
  have first : faulty? misreadFirst vbKey = some "csv:1:x" := by decide +kernel
  have whole : ofOptions [("regtest", ["no", "maybe"])] =
      .error (.invalidValue "regtest" "maybe") := by decide +kernel
  obtain ⟨written, -, fault, -, alone⟩ := invalidValue_quotes_iff ofOptions_misreadFirst
  obtain rfl : written = "csv:1:x" := Option.some.inj (fault.symm.trans first)
  obtain ⟨last, listed, -, quoted, -⟩ := invalidValue_quotes_iff whole
  have same : "maybe" = last := by
    refine quoted.mpr ?_
    rintro ⟨-, other, -⟩
    exact absurd other (by decide)
  exact ⟨⟨first, misread_csv, fun numbers => alone numbers rfl⟩, whole, same ▸ listed⟩

end ChainProfile.NodeOptions
