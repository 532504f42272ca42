import ChainProfile.Proofs.Profile.Sound
import ChainProfile.Proofs.Registry.Run
import ChainProfile.Proofs.Text.Trim

/-! The invariant of the registry. No request checks it as a whole: overrides look at what they
replace, renaming and selecting look at the phase. It holds all the same after every run, so the
active profile is missing only before the first selection and no override meets a profile of
another network. -/

namespace ChainProfile.Registry

structure Coherent (r : Registry) : Prop where
  trimmed : Text.trimmed r.devnetName = r.devnetName
  named : ∀ {p}, r.devnet = some p → p.devnetName = some (Genesis.devnetName r.devnetName)
  filled : r.active = some .devnet → r.devnet ≠ none
  selected : r.phase = .running → r.active ≠ none

/-- Coherent, and every stored profile is a sound one of its own network. -/
structure Consistent (r : Registry) : Prop extends Coherent r where
  sound : ∀ {n p}, r.profile n = .ok p → p.Sound n

variable {r r' : Registry} {q : Request}

theorem coherent_of_create {hasher : HeaderHasher}
    (created : (create hasher).run.value = .ok r) : r.Coherent := by
  obtain ⟨m, t, g, _, _, _, rfl⟩ := create_eq_ok.mp created
  refine ⟨rfl, ?_, ?_, ?_⟩
  · intro p none
    cases none
  · intro none
    cases none
  · intro none
    cases none

theorem activeProfile_eq_ok {p : Profile} :
    r.activeProfile = .ok p ↔ ∃ n, r.active = some n ∧ r.profile n = .ok p := by
  cases active : r.active <;> simp [activeProfile, active]

theorem Coherent.replace (coherent : r.Coherent) {o : Override} {old new : Profile}
    (there : r.profile o.network = .ok old) (taken : o.apply old = .ok new) :
    (r.replace o new).Coherent := by
  obtain ⟨_, _, rfl⟩ := Override.apply_eq_ok.mp taken
  cases o with
  | knobs values =>
    refine ⟨coherent.trimmed, ?_, fun _ => Option.some_ne_none _, coherent.selected⟩
    have known : r.devnet = some old := profile_devnet.mp there
    intro p found
    cases found
    exact coherent.named (p := old) known
  | _ => exact ⟨coherent.trimmed, coherent.named, coherent.filled, coherent.selected⟩

theorem Coherent.grants (coherent : r.Coherent) (grants : r.Grants q r') : r'.Coherent := by
  cases grants with
  | keepName setup same => exact coherent
  | dropDevnet setup new inactive =>
    refine ⟨Text.trimmed_trimmed _, ?_, fun active => absurd active inactive, coherent.selected⟩
    intro p none
    cases none
  | rebuildDevnet setup new active built =>
    refine ⟨Text.trimmed_trimmed _, ?_, fun _ => Option.some_ne_none _, coherent.selected⟩
    intro p found
    cases found
    exact Profile.devnetName_of_build built
  | select asked free found =>
    refine ⟨coherent.trimmed, coherent.named, ?_, fun _ => Option.some_ne_none _⟩
    intro active missing
    cases active
    rw [profile_devnet.mp found] at missing
    cases missing
  | buildAndSelect asked free missing built =>
    refine ⟨coherent.trimmed, ?_, fun _ => Option.some_ne_none _, fun _ => Option.some_ne_none _⟩
    intro p found
    cases found
    exact Profile.devnetName_of_build built
  | freeze found =>
    obtain ⟨n, active, _⟩ := activeProfile_eq_ok.mp found
    refine ⟨coherent.trimmed, coherent.named, coherent.filled, ?_⟩
    intro _ none
    rw [active] at none
    cases none
  | override setup there taken => exact coherent.replace there taken

theorem Reachable.coherent {hasher : HeaderHasher} (reached : Reachable hasher r) : r.Coherent :=
  reached.invariant coherent_of_create fun grants coherent => coherent.grants grants

theorem Reachable.consistent {hasher : HeaderHasher} (reached : Reachable hasher r) :
    r.Consistent where
  toCoherent := reached.coherent
  sound := reached.profile Profile.sound_of_build fun _ sound taken => sound.override taken

theorem Grants.active (grants : r.Grants q r') :
    r'.active ≠ none ↔ r.active ≠ none ∨ ∃ n, q.Selects n := by
  cases grants with
  | select asked free found => simpa using .inr ⟨_, asked⟩
  | buildAndSelect asked free missing built => simpa using .inr ⟨_, asked⟩
  | override setup there taken =>
    rename_i o _ _
    cases o <;> simp [Registry.replace, Request.Selects]
  | _ => simp [Request.Selects]

theorem Path.active {qs : List Request} (path : Path r qs r') :
    r'.active ≠ none ↔ r.active ≠ none ∨ ∃ q ∈ qs, ∃ n, q.Selects n := by
  induction path with
  | nil => simp
  | cons grants _ ih =>
    rw [ih, grants.active]
    simp only [List.mem_cons, exists_eq_or_imp, or_assoc]

theorem Coherent.activeProfile_eq_error (coherent : r.Coherent) {e : ProfileError} :
    r.activeProfile = .error e ↔ e = .notSelected ∧ r.active = none := by
  cases active : r.active with
  | none => simp [activeProfile, active, eq_comm]
  | some n =>
    have present : r.profile n ≠ .error e := by
      intro failed
      obtain ⟨rfl, missing, _⟩ := profile_eq_error.mp failed
      exact coherent.filled active missing
    simp [activeProfile, active, present]

theorem Consistent.override_ne_wrongNetwork (consistent : r.Consistent) (o : Override)
    (op : GuardedOperation) (n : Network) :
    (r.override o).result ≠ .error (.wrongNetwork op n) := by
  by_cases running : r.phase = .running
  · simp [(override_of_running (o := o) running).1]
  cases found : r.profile o.network with
  | error e =>
    obtain ⟨_, _, rfl⟩ := profile_eq_error.mp found
    simp [(override_of_missing running found).1]
  | ok p =>
    have own := Override.apply_ne_wrongNetwork (o := o) (consistent.sound found).network op n
    cases taken : o.apply p with
    | error e =>
      rw [taken] at own
      simpa [(override_of_error running found taken).1] using own
    | ok new => simp [(override_of_ok running found taken).1]

/-- After every run the registry is consistent, its active profile is missing exactly when no
selection was ever granted, and no override is refused for the network of its profile. -/
theorem consistent_run {hasher : HeaderHasher} {r₀ : Registry}
    (created : (create hasher).run.value = .ok r₀) (calls : List Call) :
    (r₀.run calls).Consistent ∧
      (∀ e, (r₀.run calls).activeProfile = .error e ↔
        e = .notSelected ∧ ∀ q ∈ r₀.history calls, ∀ n, ¬ q.Selects n) ∧
      ∀ o op n, ((r₀.run calls).override o).result ≠ .error (.wrongNetwork op n) := by
  have consistent := Reachable.consistent ⟨r₀, calls, created, rfl⟩
  refine ⟨consistent, ?_, consistent.override_ne_wrongNetwork⟩
  intro e
  have fresh : r₀.active = none := by
    obtain ⟨_, _, _, _, _, _, rfl⟩ := create_eq_ok.mp created
    rfl
  have active := (run_path calls r₀).active
  rw [consistent.toCoherent.activeProfile_eq_error]
  refine and_congr_right fun _ => ?_
  constructor
  · intro none q granted n asked
    exact active.mpr (.inr ⟨q, granted, n, asked⟩) none
  · intro unasked
    by_contra some
    obtain old | ⟨q, granted, n, asked⟩ := active.mp some
    · exact old fresh
    · exact unasked q granted n asked

/-- The first freezing comes too early, the token is unknown, and a new name builds the active
network anew, without the knobs. -/
theorem consistent_run_knownBlocks :
    ∃ r₀ : Registry, (create knownBlocks).run.value = .ok r₀ ∧
      let calls : List Call := [.request .freeze, .request (.selectToken "mainnet"),
        .request (.select .devnet), .request (.override (.knobs ⟨1000, 500, 10⟩)),
        .request (.setDevnetName " alpha "), .request .freeze]
      (r₀.run calls).active = some .devnet ∧ (r₀.run calls).phase = .running ∧
        (r₀.run calls).devnetName = "alpha" ∧
        (r₀.run calls).devnet.map (·.consensus.knobs) = some ⟨0, 0, 1⟩ ∧
        (r₀.history calls).length = 4 ∧
        (r₀.run calls).Consistent ∧
        (∀ e, (r₀.run calls).activeProfile = .error e ↔
          e = .notSelected ∧ ∀ q ∈ r₀.history calls, ∀ n, ¬ q.Selects n) ∧
        ∀ o op n, ((r₀.run calls).override o).result ≠ .error (.wrongNetwork op n) := by
  obtain ⟨r₀, created⟩ := create_knownBlocks
  refine ⟨r₀, created, ?_⟩
  intro calls
  have reached := of_create_knownBlocks (fun r => (r.run calls).active = some .devnet ∧
    (r.run calls).phase = .running ∧ (r.run calls).devnetName = "alpha" ∧
    (r.run calls).devnet.map (·.consensus.knobs) = some ⟨0, 0, 1⟩ ∧
    (r.history calls).length = 4) created (by decide +kernel)
  obtain ⟨active, phase, name, knobs, granted⟩ := of_decide_eq_true reached
  exact ⟨active, phase, name, knobs, granted, consistent_run created calls⟩

end ChainProfile.Registry
