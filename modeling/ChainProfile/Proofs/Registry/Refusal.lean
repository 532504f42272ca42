import ChainProfile.Proofs.Registry.Consistent

/-! Refused requests. A registry that a run can reach refuses a request for one of a few causes, and
the error names the cause. They show at different depths: before anything is looked at, after a
development profile could not be mined, after the new constants were computed. None leaves a
trace. -/

namespace ChainProfile.Registry

/-- Why a registry refuses a request, and the error it gives. -/
inductive Refuses (r : Registry) : Request → ProfileError → Prop
  | renameRunning {name : String} (running : r.phase = .running) :
      Refuses r (.setDevnetName name) (.notInSetup .devnetRename)
  | renameUnbuilt {name : String} {e : ProfileError} (setup : r.phase ≠ .running)
      (new : r.devnetName ≠ Text.trimmed name) (active : r.active = some .devnet)
      (unbuilt : (Profile.build .devnet r.hasher (Text.trimmed name)).run.value = .error e) :
      Refuses r (.setDevnetName name) e
  | unknownNetwork {token : String} (unknown : Network.ofToken? token = none) :
      Refuses r (.selectToken token) (.unknownNetwork token)
  | selectRunning {q : Request} {n : Network} (asked : q.Selects n) (running : r.phase = .running)
      (other : r.active ≠ some n) : Refuses r q (.notInSetup .networkSelection)
  | selectUnbuilt {q : Request} {e : ProfileError} (asked : q.Selects .devnet)
      (setup : r.phase ≠ .running) (missing : r.devnet = none)
      (unbuilt : (Profile.build .devnet r.hasher r.devnetName).run.value = .error e) :
      Refuses r q e
  | freezeUnselected (none : r.active = none) : Refuses r .freeze .notSelected
  | overrideRunning {o : Override} (running : r.phase = .running) :
      Refuses r (.override o) (.notInSetup o.operation)
  | knobsMissing {values : DevnetKnobs} (setup : r.phase ≠ .running) (missing : r.devnet = none) :
      Refuses r (.override (.knobs values)) .devnetNotSelected
  | overrideUnfit {o : Override} {p : Profile} {e : ProfileError} (setup : r.phase ≠ .running)
      (found : r.profile o.network = .ok p) (unfit : o.Breaks p.consensus e) :
      Refuses r (.override o) e

variable {r : Registry} {q : Request} {n : Network} {o : Override} {e : ProfileError}

theorem Step.void_eq_error {ε α : Type} {s : Step ε α} {e : ε} :
    s.void.result = .error e ↔ s.result = .error e := by
  rw [result_void]
  cases s.result <;> simp [Except.map]

theorem refuses_of_setDevnetName {name : String}
    (failed : (r.setDevnetName name).result = .error e) : r.Refuses (.setDevnetName name) e := by
  by_cases running : r.phase = .running
  · rw [(setDevnetName_of_running running).1] at failed
    cases failed
    exact .renameRunning running
  by_cases same : r.devnetName = Text.trimmed name
  · rw [(setDevnetName_of_same running same).1] at failed
    cases failed
  by_cases active : r.active = some .devnet
  · cases built : (Profile.build .devnet r.hasher (Text.trimmed name)).run.value with
    | error cause =>
      rw [(setDevnetName_of_error running same active built).1] at failed
      cases failed
      exact .renameUnbuilt running same active built
    | ok p =>
      rw [(setDevnetName_of_ok running same active built).1] at failed
      cases failed
  · rw [(setDevnetName_of_inactive running same active).1] at failed
    cases failed

theorem Coherent.refuses_of_select (coherent : r.Coherent) (asked : q.Selects n)
    (failed : (r.select n).result = .error e) : r.Refuses q e := by
  by_cases free : r.phase = .running → r.active = some n
  · cases found : r.profile n with
    | ok p =>
      rw [(select_of_profile free found).1] at failed
      cases failed
    | error _ =>
      obtain ⟨rfl, missing, _⟩ := profile_eq_error.mp found
      have setup : r.phase ≠ .running := fun running => coherent.filled (free running) missing
      cases built : (Profile.build .devnet r.hasher r.devnetName).run.value with
      | error cause =>
        rw [(select_devnet_of_error free missing built).1] at failed
        cases failed
        exact .selectUnbuilt asked setup missing built
      | ok p =>
        rw [(select_devnet_of_ok free missing built).1] at failed
        cases failed
  · obtain ⟨running, other⟩ := Classical.not_imp.mp free
    rw [(select_of_running running other).1] at failed
    cases failed
    exact .selectRunning asked running other

theorem Coherent.refuses_of_selectToken (coherent : r.Coherent) {token : String}
    (failed : (r.selectToken token).result = .error e) : r.Refuses (.selectToken token) e := by
  cases known : Network.ofToken? token with
  | none =>
    rw [(selectToken_of_unknown known).1] at failed
    cases failed
    exact .unknownNetwork known
  | some m =>
    rw [selectToken_of_known known] at failed
    exact coherent.refuses_of_select known failed

theorem Coherent.refuses_of_freeze (coherent : r.Coherent) (failed : r.freeze.result = .error e) :
    r.Refuses .freeze e := by
  cases found : r.activeProfile with
  | ok p =>
    rw [(freeze_of_ok found).1] at failed
    cases failed
  | error cause =>
    rw [(freeze_of_error found).1] at failed
    cases failed
    obtain ⟨rfl, none⟩ := coherent.activeProfile_eq_error.mp found
    exact .freezeUnselected none

theorem Consistent.refuses_of_override (consistent : r.Consistent)
    (failed : (r.override o).result = .error e) : r.Refuses (.override o) e := by
  by_cases running : r.phase = .running
  · rw [(override_of_running running).1] at failed
    cases failed
    exact .overrideRunning running
  cases found : r.profile o.network with
  | error cause =>
    rw [(override_of_missing running found).1] at failed
    cases failed
    obtain ⟨own, missing, rfl⟩ := profile_eq_error.mp found
    cases o with
    | knobs values => exact .knobsMissing running missing
    | _ => cases own
  | ok p =>
    cases taken : o.apply p with
    | error cause =>
      rw [(override_of_error running found taken).1] at failed
      cases failed
      have own := (consistent.sound found).network
      exact .overrideUnfit running found ((Override.apply_eq_error own).mp taken)
    | ok new =>
      rw [(override_of_ok running found taken).1] at failed
      cases failed

theorem Consistent.refuses_of_perform (consistent : r.Consistent)
    (failed : (r.perform q).result = .error e) : r.Refuses q e := by
  have coherent := consistent.toCoherent
  cases q with
  | setDevnetName name => exact refuses_of_setDevnetName failed
  | select n => exact coherent.refuses_of_select rfl (Step.void_eq_error.mp failed)
  | selectToken token => exact coherent.refuses_of_selectToken (Step.void_eq_error.mp failed)
  | freeze => exact coherent.refuses_of_freeze (Step.void_eq_error.mp failed)
  | override o => exact consistent.refuses_of_override failed

theorem Consistent.perform_of_refuses (consistent : r.Consistent) (refuses : r.Refuses q e) :
    (r.perform q).result = .error e := by
  cases refuses with
  | renameRunning running => exact (setDevnetName_of_running running).1
  | renameUnbuilt setup new active unbuilt =>
    exact (setDevnetName_of_error setup new active unbuilt).1
  | unknownNetwork unknown => exact Step.void_eq_error.mpr (selectToken_of_unknown unknown).1
  | selectRunning asked running other =>
    rw [perform_of_selects asked]
    exact Step.void_eq_error.mpr (select_of_running running other).1
  | selectUnbuilt asked setup missing unbuilt =>
    rw [perform_of_selects asked]
    have free : r.phase = .running → r.active = some .devnet := fun running => absurd running setup
    exact Step.void_eq_error.mpr (select_devnet_of_error free missing unbuilt).1
  | freezeUnselected none =>
    have unselected := consistent.activeProfile_eq_error.mpr ⟨rfl, none⟩
    exact Step.void_eq_error.mpr (freeze_of_error unselected).1
  | overrideRunning running => exact (override_of_running running).1
  | knobsMissing setup missing =>
    exact (override_of_missing setup (profile_eq_error.mpr ⟨rfl, missing, rfl⟩)).1
  | overrideUnfit setup found unfit =>
    have own := (consistent.sound found).network
    exact (override_of_error setup found ((Override.apply_eq_error own).mpr unfit)).1

/-- A request fails exactly for a cause of refusal, with its error, and then all of the registry is
as it was. -/
theorem refused_perform {hasher : HeaderHasher} (reached : Reachable hasher r) (q : Request)
    (e : ProfileError) :
    ((r.perform q).result = .error e ↔ r.Refuses q e) ∧
      ((r.perform q).result = .error e → (r.perform q).registry = r) := by
  have consistent := reached.consistent
  constructor
  · constructor
    · exact consistent.refuses_of_perform
    · exact consistent.perform_of_refuses
  · exact perform_of_error

theorem refused_perform_lateBudget :
    ∃ r, Reachable knownBlocks r ∧
      let q : Request := .override (.budget ⟨10, 40, 40⟩)
      let e : ProfileError := .invalidBudgetSchedule 40 40
      r.Refuses q e ∧ ((r.perform q).result = .error e ↔ r.Refuses q e) ∧
        ((r.perform q).result = .error e → (r.perform q).registry = r) := by
  obtain ⟨r₀, created⟩ := create_knownBlocks
  have reached : Reachable knownBlocks (r₀.run [.request (.select .regtest)]) :=
    ⟨r₀, _, created, rfl⟩
  have checked := refused_perform reached (.override (.budget ⟨10, 40, 40⟩))
    (.invalidBudgetSchedule 40 40)
  obtain ⟨m, t, g, _, _, _, rfl⟩ := create_eq_ok.mp created
  refine ⟨_, reached, .overrideUnfit nofun rfl ?_, checked⟩
  exact ⟨by decide, rfl⟩

end ChainProfile.Registry
