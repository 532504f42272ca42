import ChainProfile.Proofs.Options.Shadow
import ChainProfile.Proofs.Options.Value

/-! Overrides printed and read. Numbers that are written in decimal with colons between them and blanks
around them are read back as they are, over the whole range of their words. A text with another number
of fields is refused, and so is one with a number beyond the range. -/

namespace ChainProfile.NodeOptions

open Options
open Text (trim split Joined IsField Spaced)
open Text.Decimal

variable {m : Options} {o : NodeOptions} {value : String} {fields : List String}

theorem isField_toString (n : Int) : IsField ':' (toString n) where
  trimmed := Text.Decimal.trim_of_integer? (integer?_toString n)
  free := Text.Decimal.colon_notMem_of_integer? (integer?_toString n)

theorem isField_int32 (n : Int32) : IsField ':' (toString n) := isField_toString n.toInt

theorem isField_int64 (n : Int64) : IsField ':' (toString n) := isField_toString n.toInt

theorem isField_name (id : DeploymentId) : IsField ':' id.name := by
  cases id <;> exact ⟨by decide, by decide⟩

theorem numbers?_of_joined {numbers : List Int32}
    (joined : Joined ':' (numbers.map toString) value) (some : numbers ≠ []) :
    numbers? int32? value.toList = .some numbers := by
  have apart : ∀ field ∈ numbers.map toString, IsField ':' field := by
    simpa using fun n _ => isField_int32 n
  rw [numbers?_eq_some, Text.split_of_joined joined (by simpa using some) rfl apart,
    List.forall₂_map_left_iff, List.forall₂_map_left_iff, List.forall₂_same]
  exact fun n _ => int32?_toString n

theorem deployment_of_joined {id : DeploymentId} {update : DeploymentUpdate} (numbers : List Int64)
    (joined : Joined ':' (id.name :: numbers.map toString) value)
    (fits : update? numbers = some update) : deployment value = .ok (id, update) := by
  have apart : ∀ field ∈ id.name :: numbers.map toString, IsField ':' field := by
    rw [List.forall_mem_cons]
    exact ⟨isField_name id, by simpa using fun n _ => isField_int64 n⟩
  have whole := Text.split_of_joined joined (List.cons_ne_nil _ _) rfl apart
  refine deployment_eq_ok.mpr ⟨_, numbers, whole, ?_, fits⟩
  rw [List.forall₂_map_left_iff, List.forall₂_map_left_iff, List.forall₂_same]
  exact fun n _ => int64?_toString n

def OutOfRange (low high : Int) (value : String) : Prop :=
  ∃ field ∈ split ':' value.toList, ¬ Within low high (trim field)

theorem count_of_deployment {d : DeploymentId × DeploymentUpdate}
    (read : deployment value = .ok d) :
    value.toList.count ':' = 2 ∨ value.toList.count ':' = 4 := by
  obtain ⟨fields, numbers, whole, each, fits⟩ := deployment_eq_ok.mp read
  have counted := congrArg List.length whole
  rw [List.length_map, Text.length_split, List.length_cons, each.length_eq] at counted
  by_contra other
  have unfit : update? numbers = none := update?_eq_none.mpr (by omega)
  rw [unfit] at fits
  cases fits

theorem within_name (id : DeploymentId) {low high : Int} : Within low high id.name.toList := by
  cases id <;> exact fun _ number => nomatch number

theorem inRange_of_deployment {d : DeploymentId × DeploymentUpdate}
    (read : deployment value = .ok d) :
    ¬ OutOfRange Int64.minValue.toInt Int64.maxValue.toInt value := by
  obtain ⟨fields, numbers, whole, each, -⟩ := deployment_eq_ok.mp read
  rintro ⟨field, member, beyond⟩
  have listed : trim field ∈ d.1.name.toList :: fields := whole ▸ List.mem_map_of_mem member
  obtain own | inside := List.mem_cons.mp listed
  · exact beyond (own ▸ within_name d.1)
  · exact beyond (forall_of_forall₂ each (fun _ _ => within_of_int64?) _ inside)

theorem inRange_of_numbers? {numbers : List Int32}
    (found : numbers? int32? value.toList = some numbers) :
    ¬ OutOfRange Int32.minValue.toInt Int32.maxValue.toInt value := by
  rintro ⟨field, member, beyond⟩
  exact beyond (forall_of_forall₂ (numbers?_eq_some.mp found) (fun _ _ => within_of_int32?) _
    (List.mem_map_of_mem member))

/-- The options that take numbers of 32 bits, with how many each takes. -/
def numberKeys : List (String × Nat) :=
  [("budgetparams", 3), ("dip3params", 2), ("minimumdifficultyblocks", 1),
    ("highsubsidyblocks", 1), ("highsubsidyfactor", 1)]

theorem numbers?_of_ofOptions {key : String} {count : Nat} (read : ofOptions m = .ok o)
    (listed : (key, count) ∈ numberKeys) (last : last? m key = some value) :
    ∃ numbers, numbers? int32? value.toList = some numbers ∧ numbers.length = count := by
  have parts := ofOptions_eq_ok.mp read
  obtain ⟨minimum, blocks, factor, first, second, third, -⟩ := parts.knobs
  simp only [numberKeys, List.mem_cons, List.not_mem_nil, or_false, Prod.mk.injEq] at listed
  rcases listed with ⟨rfl, rfl⟩ | ⟨rfl, rfl⟩ | ⟨rfl, rfl⟩ | ⟨rfl, rfl⟩ | ⟨rfl, rfl⟩
  · obtain ⟨starts, found⟩ := legible_of_lastAs parts.budget last
    exact ⟨_, budget?_eq_some.mp found, rfl⟩
  · obtain ⟨heights, found⟩ := legible_of_lastAs parts.dip3 last
    exact ⟨_, dip3?_eq_some.mp found, rfl⟩
  · obtain ⟨n, found⟩ := legible_of_lastAs first last
    exact ⟨_, knob?_eq_some.mp found, rfl⟩
  · obtain ⟨n, found⟩ := legible_of_lastAs second last
    exact ⟨_, knob?_eq_some.mp found, rfl⟩
  · obtain ⟨n, found⟩ := legible_of_lastAs third last
    exact ⟨_, knob?_eq_some.mp found, rfl⟩

/-- Options that hold payment starts, heights and knobs alone, each printed in its own text. -/
structure PrintedAlone (m : Options) (starts : PaymentStarts) (heights : Dip3Heights)
    (knobs : DevnetKnobs) (budget dip3 minimum blocks factor : String) : Prop where
  alone : m.SameAs [("budgetparams", [budget]), ("dip3params", [dip3]),
    ("minimumdifficultyblocks", [minimum]), ("highsubsidyblocks", [blocks]),
    ("highsubsidyfactor", [factor])]
  starts : Joined ':' ([starts.masternode, starts.budget, starts.superblock].map toString) budget
  heights : Joined ':' ([heights.activation, heights.enforcement].map toString) dip3
  minimum : Spaced (toString knobs.minimumDifficultyBlocks) minimum
  blocks : Spaced (toString knobs.highSubsidyBlocks) blocks
  factor : Spaced (toString knobs.highSubsidyFactor) factor

theorem knob?_of_spaced {n : Int32} (spaced : Spaced (toString n) value) : knob? value = some n :=
  knob?_eq_some.mpr (numbers?_of_joined (Text.joined_singleton.mpr spaced) (List.cons_ne_nil _ _))

theorem ofOptions_of_printedAlone {starts : PaymentStarts} {heights : Dip3Heights}
    {knobs : DevnetKnobs} {budget dip3 minimum blocks factor : String}
    (printed : PrintedAlone m starts heights knobs budget dip3 minimum blocks factor) :
    ofOptions m = .ok {
      network := .main
      devnetName := none
      deployments := []
      budget := some starts
      dip3 := some heights
      knobs := some knobs
      log := .standard
      unknownKeys := [] } := by
  have starts := budget?_eq_some.mpr (numbers?_of_joined printed.starts (List.cons_ne_nil _ _))
  have heights := dip3?_eq_some.mpr (numbers?_of_joined printed.heights (List.cons_ne_nil _ _))
  rw [ofOptions_congr printed.alone, ofOptions_eq_ok]
  exact {
    network := ⟨[], rfl, rfl⟩
    devnetName := rfl
    deployments := rfl
    budget := lastAs_of_read rfl starts
    dip3 := lastAs_of_read rfl heights
    knobs := ⟨_, _, _, lastAs_of_read rfl (knob?_of_spaced printed.minimum),
      lastAs_of_read rfl (knob?_of_spaced printed.blocks),
      lastAs_of_read rfl (knob?_of_spaced printed.factor), rfl⟩
    log := rfl
    unknownKeys := (unknownKeysOf_eq_nil (by simp [knownKeys])).symm }

/-- Printed overrides are read back: a deployment with two numbers or with four, and payment starts,
heights and knobs from options that hold them alone. A deployment with another number of fields or a
number of more than 64 bits is refused, and so are options where another number of fields than the
key takes, or a number of more than 32 bits, is the last value of a key that takes numbers. -/
theorem printed_read_back :
    (∀ (id : DeploymentId) (startTime timeout window threshold : Int64) (value : String),
      Joined ':' [id.name, toString startTime, toString timeout, toString window,
        toString threshold] value →
      deployment value = .ok (id, .ofRaw startTime timeout window threshold)) ∧
    (∀ (id : DeploymentId) (startTime timeout : Int64) (value : String),
      Joined ':' [id.name, toString startTime, toString timeout] value →
      deployment value = .ok (id, .between startTime timeout)) ∧
    (∀ m starts heights knobs budget dip3 minimum blocks factor,
      PrintedAlone m starts heights knobs budget dip3 minimum blocks factor →
      ofOptions m = .ok {
        network := .main
        devnetName := none
        deployments := []
        budget := some starts
        dip3 := some heights
        knobs := some knobs
        log := .standard
        unknownKeys := [] }) ∧
    (∀ value, value.toList.count ':' ≠ 2 ∧ value.toList.count ':' ≠ 4 ∨
        OutOfRange Int64.minValue.toInt Int64.maxValue.toInt value →
      ∃ quoted, deployment value = .error (.invalidValue vbKey quoted)) ∧
    ∀ m key count value, (key, count) ∈ numberKeys → last? m key = some value →
      value.toList.count ':' + 1 ≠ count ∨
        OutOfRange Int32.minValue.toInt Int32.maxValue.toInt value →
      ∃ e, ofOptions m = .error e := by
  refine ⟨?_, ?_, ?_, ?_, ?_⟩
  · intro id startTime timeout window threshold value joined
    exact deployment_of_joined [startTime, timeout, window, threshold] joined rfl
  · intro id startTime timeout value joined
    exact deployment_of_joined [startTime, timeout] joined rfl
  · intro m starts heights knobs budget dip3 minimum blocks factor printed
    exact ofOptions_of_printedAlone printed
  · intro value strange
    cases read : deployment value with
    | error e =>
      obtain ⟨quoted, rfl, -⟩ := deployment_eq_error read
      exact ⟨quoted, rfl⟩
    | ok d =>
      exfalso
      obtain ⟨short, long⟩ | beyond := strange
      · exact (count_of_deployment read).elim short long
      · exact inRange_of_deployment read beyond
  · intro m key count value listed last strange
    refine exists_eq_error fun o read => ?_
    obtain ⟨numbers, found, counted⟩ := numbers?_of_ofOptions read listed last
    obtain miscounted | beyond := strange
    · exact miscounted ((length_numbers? found).symm.trans counted)
    · exact inRange_of_numbers? found beyond

theorem joined_csv :
    Joined ':' [DeploymentId.csv.name, toString Int64.maxValue, toString Int64.minValue,
      toString (-1 : Int64), toString (0 : Int64)]
      " csv :\t9223372036854775807:-9223372036854775808:-1:0" := by
  refine ⟨[" " ++ "csv" ++ " ", "\t" ++ toString Int64.maxValue ++ "", toString Int64.minValue,
    toString (-1 : Int64), toString (0 : Int64)], ?_, by decide +kernel⟩
  have blank : ∀ c ∈ " ".toList, Text.isBlank c = true := List.all_eq_true.mp rfl
  have tab : ∀ c ∈ "\t".toList, Text.isBlank c = true := List.all_eq_true.mp rfl
  refine .cons (.intro " " " " blank blank) (.cons (.intro "\t" "" tab (List.all_eq_true.mp rfl)) ?_)
  exact List.forall₂_same.mpr fun _ _ => .refl _

def extremes : Options :=
  [("budgetparams", ["2147483647:-2147483648:0"]), ("dip3params", ["-2147483648:2147483647"]),
    ("minimumdifficultyblocks", ["2147483647\t"]), ("highsubsidyblocks", ["-1"]),
    ("highsubsidyfactor", ["-2147483648"])]

theorem printedAlone_extremes :
    PrintedAlone extremes ⟨Int32.maxValue, Int32.minValue, 0⟩ ⟨Int32.minValue, Int32.maxValue⟩
      ⟨Int32.maxValue, -1, Int32.minValue⟩ "2147483647:-2147483648:0" "-2147483648:2147483647"
      "2147483647\t" "-1" "-2147483648" where
  alone _ := rfl
  starts := Text.joined_intercalate ':' _
  heights := Text.joined_intercalate ':' _
  minimum := .intro "" "\t" (List.all_eq_true.mp rfl) (List.all_eq_true.mp rfl)
  blocks := .refl _
  factor := .refl _

theorem printed_read_back_extremes :
    deployment " csv :\t9223372036854775807:-9223372036854775808:-1:0" =
        .ok (.csv, .ofRaw Int64.maxValue Int64.minValue (-1) 0) ∧
      deployment "csv:9223372036854775807:-9223372036854775808" =
        .ok (.csv, .between Int64.maxValue Int64.minValue) ∧
      ofOptions extremes = .ok {
        network := .main
        devnetName := none
        deployments := []
        budget := some ⟨Int32.maxValue, Int32.minValue, 0⟩
        dip3 := some ⟨Int32.minValue, Int32.maxValue⟩
        knobs := some ⟨Int32.maxValue, -1, Int32.minValue⟩
        log := .standard
        unknownKeys := [] } ∧
      (∃ quoted, deployment "csv:1:2:3" = .error (.invalidValue vbKey quoted)) ∧
      (∃ quoted, deployment "csv:1:9223372036854775808" = .error (.invalidValue vbKey quoted)) ∧
      (∃ e, ofOptions [("dip3params", ["1:2:3"])] = .error e) ∧
      ∃ e, ofOptions [("highsubsidyfactor", ["2147483648"])] = .error e := by
  obtain ⟨long, short, alone, refusedDeployment, refused⟩ := printed_read_back
  refine ⟨long _ _ _ _ _ _ joined_csv, short _ _ _ _ (Text.joined_intercalate ':' _),
    alone _ _ _ _ _ _ _ _ _ printedAlone_extremes, ?_, ?_, ?_, ?_⟩
  · exact refusedDeployment _ (.inl (by decide))
  · refine refusedDeployment _ (.inr ⟨"9223372036854775808".toList, by decide, fun within => ?_⟩)
    exact absurd (within 9223372036854775808 (by decide)).2 (by decide)
  · exact refused _ "dip3params" 2 _ (by decide) rfl (.inl (by decide))
  · refine refused _ "highsubsidyfactor" 1 _ (by decide) rfl
      (.inr ⟨"2147483648".toList, by decide, fun within => ?_⟩)
    exact absurd (within 2147483648 (by decide)).2 (by decide)

end ChainProfile.NodeOptions
