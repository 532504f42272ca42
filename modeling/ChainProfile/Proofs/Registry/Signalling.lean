import ChainProfile.Proofs.Deployment
import ChainProfile.Proofs.Registry.Consistent

/-! Signalling in stored profiles: can the threshold of a deployment be reached within its window?
The check of a table compares what the table gives, so an override that gives only one of the two
may contradict what its network has for the other. This happens on the regression network alone,
where deployments change. -/

namespace ChainProfile

namespace Deployment

/-- Only one of window and threshold is given, and the network's number for the other is at odds. -/
def Contradicts (d : Deployment) (rules : SignallingRules) : Prop :=
  (∃ window, d.window = some window ∧ d.threshold = none ∧ window < rules.threshold) ∨
    ∃ threshold, d.window = none ∧ d.threshold = some threshold ∧ rules.window < threshold

/-- Window and threshold are both given, or both left to the network. -/
def Paired (d : Deployment) : Prop := d.window.isSome = d.threshold.isSome

theorem Paired.not_contradicts {d : Deployment} (paired : d.Paired) (rules : SignallingRules) :
    ¬ d.Contradicts rules := by
  rw [Paired] at paired
  rintro (⟨window, wide, left, _⟩ | ⟨threshold, left, high, _⟩)
  · rw [wide, left] at paired
    cases paired
  · rw [left, high] at paired
    cases paired

theorem Paired.onto {d : Deployment} {u : DeploymentUpdate} (paired : d.Paired)
    (both : u.window.isSome = u.threshold.isSome) : (u.onto d).Paired := by
  rw [Paired, DeploymentUpdate.onto, Option.isSome_or, Option.isSome_or, both, paired]

end Deployment

namespace Consensus

theorem signalling_of (n : Network) :
    (Consensus.of n).signalling.threshold ≤ (Consensus.of n).signalling.window := by
  cases n <;> decide

theorem signalThreshold_le_signalWindow {c : Consensus} (valid : c.deployments.validate = .ok ())
    (fair : c.signalling.threshold ≤ c.signalling.window) (id : DeploymentId) :
    c.signalThreshold id ≤ c.signalWindow id ↔
      ¬ (c.deployments.get id).Contradicts c.signalling := by
  rw [signalThreshold, signalWindow]
  cases window : (c.deployments.get id).window with
  | none =>
    cases threshold : (c.deployments.get id).threshold with
    | none => simp [Deployment.Contradicts, window, threshold, fair]
    | some high => simp [Deployment.Contradicts, window, threshold, Int64.not_lt]
  | some wide =>
    cases threshold : (c.deployments.get id).threshold with
    | none => simp [Deployment.Contradicts, window, threshold, Int64.not_lt]
    | some high =>
      have reached := DeploymentTable.threshold_le_window valid window threshold
      simp [Deployment.Contradicts, window, threshold, reached]

theorem paired_of (n : Network) (id : DeploymentId) :
    ((Consensus.of n).deployments.get id).Paired := by
  cases n <;> cases id <;> rfl

end Consensus

theorem Override.paired_effect {o : Override} {c : Consensus}
    (paired : ∀ id, (c.deployments.get id).Paired)
    (both : ∀ id u, o = .deployment id u → u.window.isSome = u.threshold.isSome)
    (id : DeploymentId) : ((o.effect c).deployments.get id).Paired := by
  cases o with
  | deployment own u =>
    rw [effect]
    by_cases same : id = own
    · subst same
      rw [DeploymentTable.get_set_self]
      exact (paired id).onto (both id u rfl)
    · rw [DeploymentTable.get_set_of_ne _ _ same]
      exact paired id
  | _ => exact paired id

namespace Registry

variable {hasher : HeaderHasher} {r : Registry} {n : Network} {p : Profile}

theorem Reachable.signalling (reached : Reachable hasher r) (found : r.profile n = .ok p) :
    p.consensus.signalling = (Consensus.of n).signalling ∧
      (n ≠ .regtest → p.consensus.deployments = (Consensus.of n).deployments) := by
  refine reached.profile (P := fun n p => p.consensus.signalling = (Consensus.of n).signalling ∧
    (n ≠ .regtest → p.consensus.deployments = (Consensus.of n).deployments)) ?_ ?_ found
  · intro n name p built
    rw [Profile.consensus_of_build built]
    exact ⟨rfl, fun _ => rfl⟩
  · rintro n o p q rfl ⟨rules, table⟩ taken
    obtain ⟨_, _, rfl⟩ := Override.apply_eq_ok.mp taken
    refine ⟨Override.effect_signalling.trans rules, ?_⟩
    intro other
    exact (Override.effect_deployments other).trans (table other)

theorem Reachable.threshold_le_iff (reached : Reachable hasher r) (found : r.profile n = .ok p)
    (id : DeploymentId) :
    p.consensus.signalThreshold id ≤ p.consensus.signalWindow id ↔
      ¬ (p.consensus.deployments.get id).Contradicts p.consensus.signalling := by
  have sound := reached.consistent.sound found
  have valid := (Profile.validate_eq_ok.mp sound.valid).1
  have rules := (reached.signalling found).1
  apply Consensus.signalThreshold_le_signalWindow valid
  rw [rules]
  exact Consensus.signalling_of n

/-- In every stored profile the threshold of a deployment is at most its window, unless a regression
deployment gives one of the two only and that contradicts the other's default. -/
theorem signalThreshold_le_signalWindow_iff (reached : Reachable hasher r)
    (found : r.profile n = .ok p) (id : DeploymentId) :
    p.consensus.signalThreshold id ≤ p.consensus.signalWindow id ↔
      ¬ (n = .regtest ∧ (p.consensus.deployments.get id).Contradicts ⟨108, 144⟩) := by
  obtain ⟨rules, table⟩ := reached.signalling found
  rw [reached.threshold_le_iff found]
  by_cases regtest : n = .regtest
  · have defaults : p.consensus.signalling = ⟨108, 144⟩ := by
      rw [rules, regtest]
      rfl
    rw [defaults]
    simp only [regtest, true_and]
  · have fixed := (Consensus.paired_of n id).not_contradicts p.consensus.signalling
    rw [← table regtest] at fixed
    simp only [fixed, regtest, false_and, not_false_eq_true]

def narrowCsv : List Call :=
  [.request (.override (.deployment .csv ⟨0, 999999999999, some 100, none⟩))]

theorem regtest_narrowCsv {r₀ : Registry} (created : (create hasher).run.value = .ok r₀) :
    ∃ p, (r₀.run narrowCsv).profile .regtest = .ok p ∧ p.consensus.signalWindow .csv = 100 ∧
      p.consensus.signalThreshold .csv = 108 := by
  obtain ⟨_, _, g, _, _, built, rfl⟩ := create_eq_ok.mp created
  have network := Profile.network_of_build built
  have constants := Profile.consensus_of_build built
  cases g
  cases network
  cases constants
  exact ⟨_, rfl, rfl, rfl⟩

theorem signalWindow_lt_signalThreshold_narrowCsv :
    ∃ r₀ : Registry, (create knownBlocks).run.value = .ok r₀ ∧
      ∃ p, (r₀.run narrowCsv).profile .regtest = .ok p ∧
        ¬ p.consensus.signalThreshold .csv ≤ p.consensus.signalWindow .csv := by
  obtain ⟨r₀, created⟩ := create_knownBlocks
  obtain ⟨p, found, window, threshold⟩ := regtest_narrowCsv created
  refine ⟨r₀, created, p, found, ?_⟩
  rw [window, threshold]
  decide

theorem signalThreshold_le_signalWindow_iff_narrowCsv :
    ∃ r₀ : Registry, (create knownBlocks).run.value = .ok r₀ ∧
      ∃ p, (r₀.run narrowCsv).profile .regtest = .ok p ∧
        (p.consensus.signalThreshold .csv ≤ p.consensus.signalWindow .csv ↔
          ¬ (Network.regtest = .regtest ∧
            (p.consensus.deployments.get .csv).Contradicts ⟨108, 144⟩)) := by
  obtain ⟨r₀, created⟩ := create_knownBlocks
  obtain ⟨p, found, _, _⟩ := regtest_narrowCsv created
  exact ⟨r₀, created, p, found,
    signalThreshold_le_signalWindow_iff ⟨r₀, _, created, rfl⟩ found .csv⟩

theorem regtest_replace (o : Override) (p : Profile) :
    (r.replace o p).regtest = if o.network = .regtest then p else r.regtest := by
  cases o <;> rfl

/-- A regression network whose overrides give both numbers or neither keeps its deployments
paired. -/
theorem paired_run {r₀ : Registry} (created : (create hasher).run.value = .ok r₀)
    {calls : List Call}
    (both : ∀ id u, .override (.deployment id u) ∈ r₀.history calls →
      u.window.isSome = u.threshold.isSome) (id : DeploymentId) :
    ((r₀.run calls).regtest.consensus.deployments.get id).Paired := by
  refine (run_path calls r₀).invariant
    (P := fun s => ∀ id, (s.regtest.consensus.deployments.get id).Paired) ?_ ?_ id
  · intro s q s' granted grants paired
    cases grants with
    | override setup found taken =>
      rename_i o old new
      by_cases own : o.network = .regtest
      · rw [own] at found
        cases found
        obtain ⟨_, _, rfl⟩ := Override.apply_eq_ok.mp taken
        rw [regtest_replace, if_pos own]
        exact Override.paired_effect paired fun id u same => both id u (same ▸ granted)
      · rw [regtest_replace, if_neg own]
        exact paired
    | _ => exact paired
  · obtain ⟨_, _, g, _, _, built, rfl⟩ := create_eq_ok.mp created
    intro id
    rw [Profile.consensus_of_build built]
    exact Consensus.paired_of .regtest id

theorem threshold_le_of_paired_run {r₀ : Registry} (created : (create hasher).run.value = .ok r₀)
    {calls : List Call}
    (both : ∀ id u, .override (.deployment id u) ∈ r₀.history calls →
      u.window.isSome = u.threshold.isSome)
    (found : (r₀.run calls).profile n = .ok p) (id : DeploymentId) :
    p.consensus.signalThreshold id ≤ p.consensus.signalWindow id := by
  have reached : Reachable hasher (r₀.run calls) := ⟨r₀, calls, created, rfl⟩
  rw [reached.threshold_le_iff found]
  have paired : (p.consensus.deployments.get id).Paired := by
    by_cases regtest : n = .regtest
    · rw [regtest] at found
      cases found
      exact paired_run created both id
    · rw [(reached.signalling found).2 regtest]
      exact Consensus.paired_of n id
  exact paired.not_contradicts _

end Registry

end ChainProfile
