import ChainProfile.Proofs.Options.Reading
import ChainProfile.Proofs.Options.Refusal
import ChainProfile.Proofs.Registry.Commute

/-! Options in force. Where options are granted the network they are for is active and every other
profile is what it was. The profile of that network is the one that was there, or for a development
network that has another name or no profile yet the one that is built, and in it are the constants
that the options give. -/

namespace ChainProfile

def DeploymentTable.updated (t : DeploymentTable)
    (updates : List (DeploymentId × DeploymentUpdate)) : DeploymentTable :=
  updates.foldl (fun t d => t.set d.1 (d.2.onto (t.get d.1))) t

theorem Override.foldl_effect_deployments (updates : List (DeploymentId × DeploymentUpdate))
    (c : Consensus) :
    (updates.map fun d => Override.deployment d.1 d.2).foldl (fun c v => v.effect c) c =
      { c with deployments := c.deployments.updated updates } := by
  induction updates generalizing c with
  | nil => rfl
  | cons d rest ih =>
    rw [List.map_cons, List.foldl_cons, ih]
    rfl

namespace NodeOptions

open Registry (Request create knownBlocks)

variable {m : Options} {o : NodeOptions} {r s : Registry} {p : Profile}

/-- The name that the development network has once the options are in force. -/
def nameIn (o : NodeOptions) (r : Registry) : String :=
  (o.devnetName.map Text.trimmed).getD r.devnetName

theorem nameIn_of_unnamed (given : o.devnetName = none) : o.nameIn r = r.devnetName := by
  rw [nameIn, given]
  rfl

theorem nameIn_of_named {name : String} (given : o.devnetName = some name) :
    o.nameIn r = Text.trimmed name := by
  rw [nameIn, given]
  rfl

/-- A development profile that options start from: the stored one if it has their name, else one
that is built under that name. -/
inductive StartsFrom (o : NodeOptions) (r : Registry) (base : Profile) : Prop
  | kept (same : o.nameIn r = r.devnetName) (stored : r.devnet = some base)
  | built (fresh : o.nameIn r ≠ r.devnetName ∨ r.devnet = none)
      (made : (Profile.build .devnet r.hasher (o.nameIn r)).run.value = .ok base)

/-- What a registry `r` has become, and which profile is active in it, once options are in force. -/
structure InForce (o : NodeOptions) (r s : Registry) (p : Profile) : Prop where
  active : s.active = some o.network
  stored : s.profile o.network = .ok p
  others : ∀ n, n ≠ o.network → s.profile n = r.profile n
  devnetName : s.devnetName = o.nameIn r
  phase : s.phase = r.phase
  plain : o.network ≠ .regtest → o.network ≠ .devnet → r.profile o.network = .ok p
  regtest : o.network = .regtest →
    p = { r.regtest with consensus := { r.regtest.consensus with
      deployments := r.regtest.consensus.deployments.updated o.deployments
      dip3 := o.dip3.getD r.regtest.consensus.dip3
      starts := o.budget.getD r.regtest.consensus.starts } }
  devnet : o.network = .devnet → ∃ base, o.StartsFrom r base ∧
    p = { base with consensus := { base.consensus with
      knobs := o.knobs.getD base.consensus.knobs } }

/-- What is stored of the development network under the name of the options: a profile that they
start from, or nothing where one is still to be built. -/
structure Renamed (o : NodeOptions) (r : Registry) (d : Option Profile) : Prop where
  base : ∀ base, d = some base → o.StartsFrom r base
  missing : d = none → o.nameIn r ≠ r.devnetName ∨ r.devnet = none

theorem renamed_of_same (same : o.nameIn r = r.devnetName) : o.Renamed r r.devnet :=
  ⟨fun _ stored => .kept same stored, .inr⟩

theorem renamed_of_grants {name : String} (given : o.nameIn r = Text.trimmed name)
    (grants : r.Grants (.setDevnetName name) s) :
    ∃ d, s = { r with devnet := d, devnetName := o.nameIn r } ∧ o.Renamed r d := by
  rw [given]
  cases grants with
  | keepName setup same =>
    refine ⟨r.devnet, ?_, renamed_of_same (given.trans same.symm)⟩
    rw [← same]
  | dropDevnet setup new inactive =>
    have fresh : o.nameIn r ≠ r.devnetName := given.symm ▸ new.symm
    refine ⟨none, rfl, ⟨?_, fun _ => .inl fresh⟩⟩
    exact fun _ stored => nomatch stored
  | rebuildDevnet setup new active built =>
    rename_i p
    have fresh : o.nameIn r ≠ r.devnetName := given.symm ▸ new.symm
    rw [← given] at built
    refine ⟨some p, rfl, ⟨?_, nofun⟩⟩
    rintro _ ⟨⟩
    exact .built (.inl fresh) built
  | select selects free found => cases selects
  | buildAndSelect selects free missing built => cases selects

theorem renamed_of_granted
    (went : (r.performAll (o.devnetName.map Request.setDevnetName).toList).result = .ok ()) :
    ∃ d, (r.performAll (o.devnetName.map Request.setDevnetName).toList).registry =
        { r with devnet := d, devnetName := o.nameIn r } ∧ o.Renamed r d := by
  cases given : o.devnetName with
  | none =>
    have same : o.nameIn r = r.devnetName := nameIn_of_unnamed given
    refine ⟨r.devnet, ?_, renamed_of_same same⟩
    rw [same]
    rfl
  | some name =>
    have own : o.nameIn r = Text.trimmed name := nameIn_of_named given
    rw [given] at went
    obtain ⟨here, _, whole⟩ := Registry.performAll_cons_of_granted went
    exact whole ▸ renamed_of_grants own (Registry.grants_of_perform here)

theorem selected_of_grants {d : Option Profile} (renamed : o.Renamed r d)
    (grants : Registry.Grants { r with devnet := d, devnetName := o.nameIn r }
      (.select o.network) s) :
    ∃ d, s = { r with devnet := d, devnetName := o.nameIn r, active := some o.network } ∧
      (o.network = .devnet → ∃ base, d = some base ∧ o.StartsFrom r base) := by
  generalize asked : Request.select o.network = q at grants
  cases grants with
  | select selects free found =>
    cases asked
    cases selects
    refine ⟨d, rfl, ?_⟩
    intro own
    rw [own] at found
    have stored := Registry.profile_devnet.mp found
    exact ⟨_, stored, renamed.base _ stored⟩
  | buildAndSelect selects free missing built =>
    cases asked
    rename_i p
    have own : o.network = .devnet := selects
    refine ⟨some p, ?_, fun _ => ⟨p, rfl, .built (renamed.missing missing) built⟩⟩
    rw [own]
  | _ => cases asked

theorem foldl_effect_overrides (o : NodeOptions) (c : Consensus) :
    o.overrides.foldl (fun c v => v.effect c) c = { c with
      deployments := c.deployments.updated o.deployments
      dip3 := o.dip3.getD c.dip3
      starts := o.budget.getD c.starts
      knobs := o.knobs.getD c.knobs } := by
  rw [overrides, List.foldl_append, List.foldl_append, List.foldl_append,
    Override.foldl_effect_deployments]
  cases o.dip3 <;> cases o.budget <;> cases o.knobs <;> rfl

theorem registry_of_granted (went : (o.apply r).result = .ok p) :
    ∃ d, (o.apply r).registry = o.overrides.foldl (fun s v => s.amend v)
        { r with devnet := d, devnetName := o.nameIn r, active := some o.network } ∧
      (o.network = .devnet → ∃ base, d = some base ∧ o.StartsFrom r base) := by
  obtain ⟨placed, went, _⟩ := apply_eq_ok.mp went
  rw [registry_apply_of_placed placed, requests]
  rw [requests] at went
  obtain ⟨first, third, whole⟩ := Registry.performAll_append_of_granted went
  obtain ⟨first, second, part⟩ := Registry.performAll_append_of_granted first
  obtain ⟨d, renamed, base⟩ := renamed_of_granted first
  rw [renamed] at second part
  obtain ⟨here, _, one⟩ := Registry.performAll_cons_of_granted second
  obtain ⟨d, selected, base⟩ := selected_of_grants base (Registry.grants_of_perform here)
  refine ⟨d, ?_, base⟩
  rw [whole, Registry.performAll_overrides third, part, one, ← selected]
  rfl

theorem selection_of_granted (went : (o.apply r).result = .ok p) :
    (o.apply r).registry.active = some o.network ∧
      (o.apply r).registry.devnetName = o.nameIn r := by
  obtain ⟨d, whole, _⟩ := registry_of_granted went
  rw [whole]
  exact Registry.foldl_amend_same

theorem profile_of_granted (went : (o.apply r).result = .ok p) :
    (o.apply r).registry.profile o.network = .ok p ∧
      ∃ base,
        p = { base with consensus := o.overrides.foldl (fun c v => v.effect c) base.consensus } ∧
        (o.network = .devnet → o.StartsFrom r base) ∧
        (o.network ≠ .devnet → r.profile o.network = .ok base) := by
  obtain ⟨placed, _, found⟩ := apply_eq_ok.mp went
  obtain ⟨d, whole, starts⟩ := registry_of_granted went
  have own : ∀ v ∈ o.overrides, v.network = o.network := fun v listed =>
    network_of_override placed (mem_requests.mpr (.inr (.inr ⟨v, listed, rfl⟩)))
  rw [← registry_apply_of_placed placed] at found
  obtain ⟨n, active, stored⟩ := Registry.activeProfile_eq_ok.mp found
  rw [whole, Registry.foldl_amend_same.1] at active
  cases active
  refine ⟨stored, ?_⟩
  rw [whole] at stored
  cases before : Registry.profile
      { r with devnet := d, devnetName := o.nameIn r, active := some o.network } o.network with
  | error e =>
    obtain ⟨devnet, missing, _⟩ := Registry.profile_eq_error.mp before
    obtain ⟨base, present, _⟩ := starts devnet
    rw [present] at missing
    cases missing
  | ok base =>
    rw [Registry.profile_foldl_amend own before] at stored
    cases stored
    refine ⟨base, rfl, ?_, ?_⟩
    · intro devnet
      obtain ⟨base, present, start⟩ := starts devnet
      rw [devnet] at before
      cases present.symm.trans (Registry.profile_devnet.mp before)
      exact start
    · exact fun other => Registry.profile_of_ne before other rfl rfl rfl

theorem isRegtestOnly_eq_false :
    o.isRegtestOnly = false ↔ o.deployments = [] ∧ o.budget = none ∧ o.dip3 = none := by
  simp [isRegtestOnly, and_assoc]

theorem regtestOnly_absent (placed : o.misplaced? = none) (other : o.network ≠ .regtest) :
    o.deployments = [] ∧ o.budget = none ∧ o.dip3 = none := by
  rw [← isRegtestOnly_eq_false, Bool.eq_false_iff]
  exact fun given => other ((misplaced?_eq_none.mp placed).1 given)

theorem knobs_absent (placed : o.misplaced? = none) (other : o.network ≠ .devnet) :
    o.knobs = none := by
  rw [← Option.not_isSome_iff_eq_none]
  exact fun given => other ((misplaced?_eq_none.mp placed).2 given)

theorem Confined.profile_of_ne (confined : o.Confined r s)
    (dev : ∀ name, o.devnetName = some name → o.network = .devnet) {n : Network}
    (apart : n ≠ o.network) : s.profile n = r.profile n := by
  cases n with
  | main => exact congrArg Except.ok confined.mainnet
  | testnet => exact congrArg Except.ok confined.testnet
  | regtest => exact congrArg Except.ok (confined.regtest apart.symm)
  | devnet =>
    have unnamed : o.devnetName = none :=
      Option.eq_none_iff_forall_ne_some.mpr fun name given => apart (dev name given).symm
    have kept := confined.devnet unnamed apart.symm
    simp only [Registry.profile, kept]

theorem inForce_of_granted (went : (o.apply r).result = .ok p)
    (dev : ∀ name, o.devnetName = some name → o.network = .devnet) :
    o.InForce r (o.apply r).registry p := by
  have confined := o.confined_apply r
  obtain ⟨placed, _, _⟩ := apply_eq_ok.mp went
  obtain ⟨active, named⟩ := selection_of_granted went
  obtain ⟨stored, base, rfl, devnet, other⟩ := profile_of_granted went
  constructor
  case active => exact active
  case stored => exact stored
  case others => exact fun n apart => confined.profile_of_ne dev apart
  case devnetName => exact named
  case phase => exact confined.phase
  case plain =>
    intro regtest devnet
    rw [overrides_eq_nil placed regtest devnet]
    exact other devnet
  case regtest =>
    intro own
    have apart : o.network ≠ .devnet := own ▸ nofun
    have found := other apart
    rw [own] at found
    cases found
    rw [foldl_effect_overrides, knobs_absent placed apart]
    rfl
  case devnet =>
    intro own
    obtain ⟨deployments, budget, dip3⟩ := regtestOnly_absent placed (own ▸ nofun)
    refine ⟨base, devnet own, ?_⟩
    rw [foldl_effect_overrides, deployments, budget, dip3]
    rfl

theorem apply_of_misplaced {e : ProfileError} (misplaced : o.misplaced? = some e) :
    (o.apply r).result = .error (.profile e) ∧ (o.apply r).registry = r := by
  obtain ⟨refused, kept⟩ := applyTo_of_misplaced (r := r) misplaced
  refine ⟨?_, kept⟩
  rw [result_apply, refused]
  rfl

/-- Options are in force as soon as they are granted, whatever the registry was before. Overrides of
the regression network on another network, and knobs outside the development network, are refused
without a trace. -/
theorem apply_effect (read : ofOptions m = .ok o) (r : Registry) :
    (∀ p, (o.apply r).result = .ok p → o.InForce r (o.apply r).registry p) ∧
      (o.deployments ≠ [] ∨ o.budget ≠ none ∨ o.dip3 ≠ none → o.network ≠ .regtest →
        (o.apply r).result = .error (.profile (.wrongNetwork .regtestOverride o.network)) ∧
          (o.apply r).registry = r) ∧
      (o.knobs ≠ none → o.network ≠ .devnet →
        ∃ operation, (o.apply r).result =
            .error (.profile (.wrongNetwork operation o.network)) ∧
          (o.apply r).registry = r) := by
  have read := ofOptions_eq_ok.mp read
  refine ⟨?_, ?_, ?_⟩
  · exact fun p went => inForce_of_granted went fun _ given => read.network_of_devnetName given
  · intro given elsewhere
    have regtest : o.isRegtestOnly = true := by
      rw [← Bool.not_eq_false, isRegtestOnly_eq_false]
      rintro ⟨deployments, budget, dip3⟩
      exact given.elim (· deployments) fun given => given.elim (· budget) (· dip3)
    exact apply_of_misplaced (if_pos ⟨regtest, elsewhere⟩)
  · intro given elsewhere
    have knobs : o.knobs.isSome = true := Option.isSome_iff_ne_none.mpr given
    by_cases regtest : o.isRegtestOnly = true ∧ o.network ≠ .regtest
    · exact ⟨_, apply_of_misplaced (if_pos regtest)⟩
    · exact ⟨_, apply_of_misplaced ((if_neg regtest).trans (if_pos ⟨knobs, elsewhere⟩))⟩

def csvEntries : Options :=
  [("vbparams", ["csv:1:2:300:200", "csv:3:4:-1:150"]), ("dip3params", ["500:600"]),
   ("budgetparams", ["10:40:50"])]

def csvTwice (network : Network) : NodeOptions where
  network
  devnetName := none
  deployments := [(.csv, ⟨1, 2, some 300, some 200⟩), (.csv, ⟨3, 4, none, some 150⟩)]
  budget := some ⟨10, 40, 50⟩
  dip3 := some ⟨500, 600⟩
  knobs := none
  log := .standard
  unknownKeys := []

theorem ofOptions_csvEntries : ofOptions csvEntries = .ok (csvTwice .main) := by decide +kernel

theorem ofOptions_csvEntries_regtest :
    ofOptions (("regtest", [""]) :: csvEntries) = .ok (csvTwice .regtest) := by decide +kernel

theorem csvTwice_apply {r₀ : Registry} (created : (create knownBlocks).run.value = .ok r₀) :
    ∃ p, ((csvTwice .regtest).apply (r₀.run [.request (.select .main)])).result = .ok p := by
  refine isOk_iff.mp (Registry.of_create_knownBlocks (fun r =>
    ((csvTwice .regtest).apply (r.run [.request (.select .main)])).result.isOk) created ?_)
  -- Of any other new registry the profile is not closed, and its table is dear to check.
  decide +kernel

theorem apply_effect_csvTwice :
    ∃ r₀ : Registry, (create knownBlocks).run.value = .ok r₀ ∧
      let r := r₀.run [.request (.select .main)]
      ofOptions (("regtest", [""]) :: csvEntries) = .ok (csvTwice .regtest) ∧
        (∃ p, ((csvTwice .regtest).apply r).result = .ok p ∧
          (csvTwice .regtest).InForce r ((csvTwice .regtest).apply r).registry p ∧
          p.consensus.deployments.csv.window = some 300 ∧
          p.consensus.deployments.csv.threshold = some 150) ∧
        ofOptions csvEntries = .ok (csvTwice .main) ∧
        ((csvTwice .main).apply r).result =
          .error (.profile (.wrongNetwork .regtestOverride .main)) ∧
        ((csvTwice .main).apply r).registry = r := by
  obtain ⟨r₀, created⟩ := Registry.create_knownBlocks
  obtain ⟨p, went⟩ := csvTwice_apply created
  have inForce := (apply_effect ofOptions_csvEntries_regtest _).1 p went
  have refused := (apply_effect ofOptions_csvEntries (r₀.run [.request (.select .main)])).2.1
    (.inl nofun) nofun
  refine ⟨r₀, created, ofOptions_csvEntries_regtest, ⟨p, went, inForce, ?_, ?_⟩,
    ofOptions_csvEntries, refused⟩
  · rw [inForce.regtest rfl]
    rfl
  · rw [inForce.regtest rfl]
    rfl

end NodeOptions
end ChainProfile
