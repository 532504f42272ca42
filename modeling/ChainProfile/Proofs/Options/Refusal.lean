import ChainProfile.Proofs.Registry.Frozen

/-! Refused options. Options are no transaction: what they ask for is performed request by request,
and when one is refused those before it stay in force. What can be left behind is confined to what
the options name, and it is nothing once the registry runs or for the main and test networks. -/

namespace ChainProfile.NodeOptions

open Registry (Path Reachable Request create knownBlocks)

variable {o : NodeOptions} {r s s' : Registry} {q : Request}

/-- Nothing is different but what the options name. -/
structure Confined (o : NodeOptions) (r s : Registry) : Prop where
  phase : s.phase = r.phase
  mainnet : s.mainnet = r.mainnet
  testnet : s.testnet = r.testnet
  active : s.active = r.active ∨ s.active = some o.network
  devnetName : s.devnetName = r.devnetName ∨
    ∃ name, o.devnetName = some name ∧ s.devnetName = Text.trimmed name
  devnet : o.devnetName = none → o.network ≠ .devnet → s.devnet = r.devnet
  regtest : o.network ≠ .regtest → s.regtest = r.regtest

namespace Confined

theorem refl (o : NodeOptions) (r : Registry) : o.Confined r r :=
  ⟨rfl, rfl, rfl, .inl rfl, .inl rfl, fun _ _ => rfl, fun _ => rfl⟩

theorem replace (confined : o.Confined r s) {v : Override} (own : v.network = o.network)
    (p : Profile) : o.Confined r (s.replace v p) := by
  cases v with
  | knobs values =>
    exact { confined with devnet := fun _ other => absurd own.symm other }
  | _ => exact { confined with regtest := fun other => absurd own.symm other }

theorem rename (confined : o.Confined r s) {name : String}
    (asked : .setDevnetName name ∈ o.requests) (d : Option Profile) :
    o.Confined r { s with devnet := d, devnetName := Text.trimmed name } := by
  have given := devnetName_of_rename asked
  refine { confined with devnetName := .inr ⟨name, given, rfl⟩, devnet := ?_ }
  intro absent
  rw [given] at absent
  cases absent

theorem grants (confined : o.Confined r s) (placed : o.misplaced? = none)
    (asked : q ∈ o.requests) (grants : s.Grants q s') : o.Confined r s' := by
  cases grants with
  | keepName setup same => exact confined
  | dropDevnet setup new inactive => exact confined.rename asked none
  | rebuildDevnet setup new active built => exact confined.rename asked _
  | select selects free found =>
    rw [network_of_selects asked selects]
    exact { confined with active := .inr rfl }
  | buildAndSelect selects free missing built =>
    have own := network_of_selects asked selects
    refine { confined with active := .inr (own ▸ rfl), devnet := ?_ }
    intro _ other
    exact absurd own.symm other
  | freeze found => exact absurd asked freeze_not_mem_requests
  | override setup there taken =>
    exact confined.replace (network_of_override placed asked) _

end Confined

theorem confined_apply (o : NodeOptions) (r : Registry) : o.Confined r (o.apply r).registry := by
  rw [registry_apply]
  cases placed : o.misplaced? with
  | some e => exact .refl o r
  | none =>
    have path := Registry.performAll_path o.requests r
    refine path.invariant (fun granted grants confined => ?_) (.refl o r)
    exact confined.grants placed (Registry.granted_subset _ r granted) grants

theorem activeProfile_of_requests (coherent : r.Coherent)
    (went : (r.performAll o.requests).result = .ok ()) :
    ∃ p, (r.performAll o.requests).registry.activeProfile = .ok p := by
  have path := Registry.performAll_path o.requests r
  have after := path.invariant (fun _ grants kept => kept.grants grants) coherent
  have selected : (r.performAll o.requests).registry.active ≠ none := by
    rw [Registry.granted_of_ok went] at path
    exact path.active.mpr (.inr ⟨_, mem_requests.mpr (.inr (.inl rfl)), _, rfl⟩)
  cases found : (r.performAll o.requests).registry.activeProfile with
  | error e => exact absurd (after.activeProfile_eq_error.mp found).2 selected
  | ok p => exact ⟨p, rfl⟩

theorem applyTo_eq_error (coherent : r.Coherent) {e : ProfileError} :
    (o.applyTo r).result = .error e ↔
      o.misplaced? = some e ∨
        o.misplaced? = none ∧ (r.performAll o.requests).result = .error e := by
  cases placed : o.misplaced? with
  | some cause => simp [(applyTo_of_misplaced (r := r) placed).1]
  | none =>
    cases went : (r.performAll o.requests).result with
    | error cause => simp [(applyTo_of_error placed went).1]
    | ok _ =>
      obtain ⟨p, found⟩ := activeProfile_of_requests coherent went
      simp [(applyTo_of_ok placed went).1, found]

theorem registry_of_refused (placed : o.misplaced? = none) (regtest : o.network ≠ .regtest)
    (devnet : o.network ≠ .devnet) {e : ProfileError}
    (failed : (r.performAll o.requests).result = .error e) :
    (r.performAll o.requests).registry = r := by
  have plain := overrides_eq_nil placed regtest devnet
  cases given : o.devnetName with
  | none =>
    have row : o.requests = [.select o.network] := by simp [requests, plain, given]
    rw [row] at failed ⊢
    cases first : (r.perform (.select o.network)).result with
    | error cause => exact (Registry.performAll_cons_of_error [] first).2
    | ok _ =>
      rw [(Registry.performAll_cons_of_ok [] first).1] at failed
      cases failed
  | some name =>
    have row : o.requests = [.setDevnetName name, .select o.network] := by
      simp [requests, plain, given]
    rw [row] at failed ⊢
    cases first : (r.perform (.setDevnetName name)).result with
    | error cause => exact (Registry.performAll_cons_of_error _ first).2
    | ok _ =>
      have setup := (Registry.grants_of_perform first).setup_of_rename
      have second := Registry.perform_select_of_setup setup devnet
      rw [(Registry.performAll_cons_of_ok _ first).1,
        (Registry.performAll_cons_of_ok [] second).1] at failed
      cases failed

/-- How options were refused: with the requests `done` in force and nothing else, at the request
after them unless misplaced, and without any change by a running registry or for a network that
takes no overrides. -/
structure Stopped (o : NodeOptions) (r : Registry) (e : ProfileError) (done : List Request) :
    Prop where
  passed : (r.performAll done).result = .ok ()
  registry : (o.apply r).registry = (r.performAll done).registry
  cause : o.misplaced? = some e ∧ done = [] ∨
    o.misplaced? = none ∧ ∃ q rest, o.requests = done ++ q :: rest ∧
      ((r.performAll done).registry.perform q).result = .error e
  confined : o.Confined r (o.apply r).registry
  running : r.phase = .running → (o.apply r).registry = r
  plain : o.network ≠ .regtest → o.network ≠ .devnet → (o.apply r).registry = r

/-- Refused options leave in force what they asked before the refusal, and nothing else. -/
theorem refused_apply {hasher : HeaderHasher} (reached : Reachable hasher r) {fault : OptionError}
    (refused : (o.apply r).result = .error fault) :
    ∃ e done, fault = .profile e ∧ o.Stopped r e done := by
  have coherent := reached.coherent
  have running : r.phase = .running → (o.apply r).registry = r := fun running =>
    Registry.run_of_running coherent running [.options o]
  rw [result_apply] at refused
  cases went : (o.applyTo r).result with
  | ok p =>
    rw [went] at refused
    cases refused
  | error e =>
    rw [went] at refused
    cases refused
    obtain misplaced | ⟨placed, failed⟩ := (applyTo_eq_error coherent).mp went
    · have kept := (applyTo_of_misplaced (r := r) misplaced).2
      refine ⟨e, [], rfl, ?_⟩
      exact ⟨rfl, kept, .inl ⟨misplaced, rfl⟩, o.confined_apply r, running, fun _ _ => kept⟩
    · obtain ⟨done, q, rest, row, passed, stopped, same⟩ := Registry.performAll_of_error failed
      have ended := (applyTo_of_error placed failed).2
      refine ⟨e, done, rfl, ?_⟩
      constructor
      · exact passed
      · exact ended.trans same
      · exact .inr ⟨placed, q, rest, row, stopped⟩
      · exact o.confined_apply r
      · exact running
      · intro regtest devnet
        exact ended.trans (registry_of_refused placed regtest devnet failed)

/-- Regression options whose superblocks would start with the budget payments. -/
def lateBudget : NodeOptions where
  network := .regtest
  devnetName := none
  deployments := [(.csv, .between 1 2)]
  budget := some ⟨10, 40, 40⟩
  dip3 := none
  knobs := none
  log := .standard
  unknownKeys := []

theorem lateBudget_apply {hasher : HeaderHasher} {r₀ : Registry}
    (created : (create hasher).run.value = .ok r₀) :
    let r := r₀.run [.request (.select .main)]
    (lateBudget.apply r).result = .error (.profile (.invalidBudgetSchedule 40 40)) ∧
      r.active = some .main ∧ (lateBudget.apply r).registry.active = some .regtest ∧
      r.regtest.consensus.deployments.csv.startTime = 0 ∧
      (lateBudget.apply r).registry.regtest.consensus.deployments.csv.startTime = 1 := by
  obtain ⟨m, t, g, _, _, built, rfl⟩ := Registry.create_eq_ok.mp created
  have network := Profile.network_of_build built
  have constants := Profile.consensus_of_build built
  cases g
  cases network
  cases constants
  refine ⟨?_, ?_, ?_, ?_, ?_⟩ <;> rfl

/-- Refused options that leave another network selected and another deployment in its profile. -/
theorem lateBudget_not_atomic :
    ∃ r₀ : Registry, (create knownBlocks).run.value = .ok r₀ ∧
      let r := r₀.run [.request (.select .main)]
      (lateBudget.apply r).result = .error (.profile (.invalidBudgetSchedule 40 40)) ∧
        (lateBudget.apply r).registry.active ≠ r.active ∧
        (lateBudget.apply r).registry.regtest ≠ r.regtest := by
  obtain ⟨r₀, created⟩ := Registry.create_knownBlocks
  obtain ⟨refused, main, regtest, before, after⟩ := lateBudget_apply created
  refine ⟨r₀, created, refused, ?_, ?_⟩
  · rw [main, regtest]
    decide
  · intro same
    rw [same, before] at after
    revert after
    decide

theorem refused_apply_lateBudget :
    ∃ r₀ : Registry, (create knownBlocks).run.value = .ok r₀ ∧
      let r := r₀.run [.request (.select .main)]
      (lateBudget.apply r).result = .error (.profile (.invalidBudgetSchedule 40 40)) ∧
        ∃ e done, OptionError.profile (.invalidBudgetSchedule 40 40) = .profile e ∧
          lateBudget.Stopped r e done := by
  obtain ⟨r₀, created⟩ := Registry.create_knownBlocks
  have refused := (lateBudget_apply created).1
  exact ⟨r₀, created, refused, refused_apply ⟨r₀, _, created, rfl⟩ refused⟩

end ChainProfile.NodeOptions
