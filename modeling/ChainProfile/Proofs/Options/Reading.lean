import ChainProfile.Options.NodeOptions
import ChainProfile.Proofs.Outcome

/-! Options that can be read, part by part. All selectors in force have to name the network. A
development name is one of them, whatever the name, so options with a development name are for the
development network. -/

namespace ChainProfile.NodeOptions

open Options

variable {m : Options} {o : NodeOptions} {n : Network} {named : List Network}

section Last

variable {α : Type} {read : String → Option α} {key value : String} {found : Option α} {a : α}
  {e : OptionError}

theorem lastAs_of_read (last : last? m key = some value) (legible : read value = some a) :
    lastAs read m key = .ok (some a) := by
  simp [lastAs, last, legible]

theorem legible_of_lastAs (went : lastAs read m key = .ok found) (last : last? m key = some value) :
    ∃ a, read value = some a := by
  simp only [lastAs, last] at went
  cases legible : read value with
  | none => simp [legible] at went
  | some a => exact ⟨a, rfl⟩

theorem lastAs_eq_error :
    lastAs read m key = .error e ↔
      ∃ value, last? m key = some value ∧ read value = none ∧ e = .invalidValue key value := by
  unfold lastAs
  cases last? m key with
  | none => simp
  | some value => cases legible : read value <;> simp [legible, eq_comm]

end Last

structure ReadFrom (o : NodeOptions) (m : Options) : Prop where
  network : ∃ named, selectors m = .ok named ∧ resolve named = .ok o.network
  devnetName : o.devnetName = last? m "devnet"
  deployments : (values m vbKey).mapM deployment = .ok o.deployments
  budget : lastAs budget? m "budgetparams" = .ok o.budget
  dip3 : lastAs dip3? m "dip3params" = .ok o.dip3
  knobs : ∃ minimum blocks factor, lastAs knob? m "minimumdifficultyblocks" = .ok minimum ∧
    lastAs knob? m "highsubsidyblocks" = .ok blocks ∧
    lastAs knob? m "highsubsidyfactor" = .ok factor ∧ o.knobs = knobsOf minimum blocks factor
  log : logConfig m = .ok o.log
  unknownKeys : o.unknownKeys = unknownKeysOf m

theorem ofOptions_eq_ok : ofOptions m = .ok o ↔ o.ReadFrom m := by
  simp only [ofOptions, bind_eq_ok]
  constructor
  · rintro ⟨named, selected, network, resolved, deployments, updates, budget, starts, dip3, heights,
      minimum, first, blocks, second, factor, third, log, config, read⟩
    cases read
    exact ⟨⟨named, selected, resolved⟩, rfl, updates, starts, heights,
      ⟨minimum, blocks, factor, first, second, third, rfl⟩, config, rfl⟩
  · rintro ⟨⟨named, selected, resolved⟩, name, updates, starts, heights,
      ⟨minimum, blocks, factor, first, second, third, knobs⟩, config, unknown⟩
    refine ⟨named, selected, _, resolved, _, updates, _, starts, _, heights, minimum, first, blocks,
      second, factor, third, _, config, ?_⟩
    rw [← name, ← knobs, ← unknown]
    rfl

theorem unknownKeysOf_eq_nil (known : ∀ row ∈ m, row.1 ∈ knownKeys) : unknownKeysOf m = [] := by
  have none : (keys m).filter (fun key => !knownKeys.contains key) = [] := by
    rw [List.filter_eq_nil_iff]
    intro key listed
    obtain ⟨row, member, rfl⟩ := List.mem_map.mp (List.mem_eraseDups.mp listed)
    simp [known row member]
  rw [unknownKeysOf, none, List.mergeSort_nil]

theorem eq_of_resolve (resolved : resolve named = .ok n) : ∀ other ∈ named, other = n := by
  cases named with
  | nil => exact fun _ member => nomatch member
  | cons first rest =>
    rw [resolve] at resolved
    cases found : rest.find? fun network => network ≠ first with
    | some second =>
      rw [found] at resolved
      cases resolved
    | none =>
      rw [found] at resolved
      cases resolved
      refine List.forall_mem_cons.mpr ⟨rfl, ?_⟩
      simpa using List.find?_eq_none.mp found

theorem devnet_mem_of_selectors {name : String} (selected : selectors m = .ok named)
    (given : last? m "devnet" = some name) : .devnet ∈ named := by
  simp only [selectors, bind_eq_ok] at selected
  obtain ⟨token, _, testnet, _, regtest, _, selected⟩ := selected
  cases selected
  simp [given]

theorem ReadFrom.network_of_devnetName (read : o.ReadFrom m) {name : String}
    (given : o.devnetName = some name) : o.network = .devnet := by
  obtain ⟨named, selected, resolved⟩ := read.network
  have listed := devnet_mem_of_selectors selected (read.devnetName.symm.trans given)
  exact (eq_of_resolve resolved _ listed).symm

end ChainProfile.NodeOptions
