import ChainProfile.Proofs.Registry.Consistent

/-! Running registries. What a running registry still grants names what it holds already, so no run
leads away from it. The one request that could build something, selecting the development network,
finds its profile there by coherence. -/

namespace ChainProfile.Registry

variable {r r' : Registry} {n : Network} {p : Profile}

theorem Grants.eq_of_running {q : Request} (grants : r.Grants q r') (coherent : r.Coherent)
    (running : r.phase = .running) : r' = r := by
  cases grants with
  | keepName setup same => rfl
  | dropDevnet setup new inactive => exact absurd running setup
  | rebuildDevnet setup new active built => exact absurd running setup
  | select asked free found =>
    have active := free running
    rw [← active]
  | buildAndSelect asked free missing built =>
    have active := free running
    exact absurd missing (coherent.filled active)
  | freeze found => rw [← running]
  | override setup there taken => exact absurd running setup

theorem Path.eq_of_running {qs : List Request} (path : Path r qs r') (coherent : r.Coherent)
    (running : r.phase = .running) : r' = r := by
  induction path with
  | nil => rfl
  | cons grants _ ih =>
    have same := grants.eq_of_running coherent running
    subst same
    exact ih coherent running

theorem run_of_running (coherent : r.Coherent) (running : r.phase = .running)
    (calls : List Call) : r.run calls = r :=
  (run_path calls r).eq_of_running coherent running

/-- Bound to one profile, whatever is asked from now on. -/
structure Frozen (r : Registry) (n : Network) (p : Profile) : Prop where
  active : r.active = some n
  profile : r.profile n = .ok p
  run : ∀ calls, r.run calls = r
  select : ∀ m, (r.select m).result =
    if m = n then .ok p else .error (.notInSetup .networkSelection)
  selectToken : ∀ token m, Network.ofToken? token = some m →
    (r.selectToken token).result = if m = n then .ok p else .error (.notInSetup .networkSelection)
  freeze : r.freeze.result = .ok p
  override : ∀ o, (r.override o).result = .error (.notInSetup o.operation)
  setDevnetName : ∀ name, (r.setDevnetName name).result = .error (.notInSetup .devnetRename)
  options : ∀ (o : NodeOptions) q, (o.apply r).result = .ok q → q = p

theorem select_of_active (running : r.phase = .running) (active : r.active = some n)
    (found : r.profile n = .ok p) (m : Network) :
    (r.select m).result = if m = n then .ok p else .error (.notInSetup .networkSelection) := by
  by_cases same : m = n
  · rw [if_pos same, same]
    exact (select_of_profile (fun _ => active) found).1
  · have inactive : r.active ≠ some m := by
      rw [active]
      exact fun equal => same (Option.some.inj equal).symm
    rw [if_neg same]
    exact (select_of_running running inactive).1

theorem options_of_running {o : NodeOptions} {q : Profile} (coherent : r.Coherent)
    (running : r.phase = .running) (found : r.activeProfile = .ok p)
    (went : (o.apply r).result = .ok q) : q = p := by
  obtain ⟨_, _, answer⟩ := NodeOptions.apply_eq_ok.mp went
  have same := (performAll_path o.requests r).eq_of_running coherent running
  rw [same, found] at answer
  exact (Except.ok.inj answer).symm

/-- Once a registry runs it is frozen at the profile of the network that is active there. -/
theorem frozen_of_running {hasher : HeaderHasher} (reached : Reachable hasher r)
    (running : r.phase = .running) : ∃ n p, r.Frozen n p := by
  have coherent := reached.coherent
  obtain ⟨n, active⟩ := Option.ne_none_iff_exists'.mp (coherent.selected running)
  have selected : r.activeProfile = r.profile n := by rw [activeProfile, active]
  cases found : r.profile n with
  | error e =>
    obtain ⟨rfl, missing, _⟩ := profile_eq_error.mp found
    exact absurd missing (coherent.filled active)
  | ok p =>
    rw [found] at selected
    refine ⟨n, p, ?_⟩
    constructor
    · exact active
    · exact found
    · exact run_of_running coherent running
    · exact select_of_active running active found
    · intro token m known
      rw [selectToken_of_known known]
      exact select_of_active running active found m
    · exact (freeze_of_ok selected).1
    · exact fun o => (override_of_running running).1
    · exact fun name => (setDevnetName_of_running running).1
    · exact fun o q => options_of_running coherent running selected

theorem frozen_of_running_knownBlocks :
    ∃ r, Reachable knownBlocks r ∧ r.phase = .running ∧ ∃ n p, r.Frozen n p := by
  obtain ⟨r₀, created⟩ := create_knownBlocks
  have reached : Reachable knownBlocks (r₀.run [.request (.select .main), .request .freeze]) :=
    ⟨r₀, _, created, rfl⟩
  obtain ⟨m, t, g, _, _, _, rfl⟩ := create_eq_ok.mp created
  exact ⟨_, reached, rfl, frozen_of_running reached rfl⟩

end ChainProfile.Registry
