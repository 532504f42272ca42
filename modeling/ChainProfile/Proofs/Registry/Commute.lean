import ChainProfile.Proofs.Deployment
import ChainProfile.Proofs.Registry.Consistent

/-! Overrides of different targets. An override reads and replaces its own target and no other: even
the check of a deployment, which goes over the whole table, depends in a valid table on that
deployment alone. So it makes no difference which of two such overrides is called first, not even
if one of them is refused, and a series of them may be called in any order. A series that is granted
leaves the effects of its members in the profile, one after the other. -/

namespace ChainProfile

def DeploymentUpdate.Overshoots (u : DeploymentUpdate) (d : Deployment) : Prop :=
  ∃ window threshold, u.window.or d.window = some window ∧
    u.threshold.or d.threshold = some threshold ∧ window < threshold

theorem DeploymentUpdate.thresholdAboveWindow_onto {u : DeploymentUpdate} {d : Deployment} :
    (u.onto d).thresholdAboveWindow = true ↔ u.Overshoots d :=
  Deployment.thresholdAboveWindow_iff

namespace Override

/-- What an override replaces. -/
inductive Target
  | deployment (id : DeploymentId)
  | dip3
  | budget
  | knobs
  deriving DecidableEq, Repr

def target : Override → Target
  | .deployment id _ => .deployment id
  | .dip3 _ => .dip3
  | .budget _ => .budget
  | .knobs _ => .knobs

def fault? (o : Override) (c : Consensus) : Option ProfileError :=
  match o with
  | .deployment id update =>
    if (update.onto (c.deployments.get id)).thresholdAboveWindow then
      some (.deployment (.thresholdAboveWindow id))
    else none
  | .dip3 _ => none
  | .budget starts =>
    if starts.superblock ≤ starts.budget then
      some (.invalidBudgetSchedule starts.budget starts.superblock)
    else none
  | .knobs _ => none

variable {o other : Override} {c : Consensus} {p q : Profile}

theorem onConsensus_of_valid (valid : c.deployments.validate = .ok ()) :
    o.onConsensus c =
      match o.fault? c with
      | some fault => .error fault
      | none => .ok (o.effect c) := by
  cases o with
  | deployment id update =>
    have checked := DeploymentTable.validate_set (d := update.onto (c.deployments.get id)) valid rfl
    by_cases high : (update.onto (c.deployments.get id)).thresholdAboveWindow = true
    · rw [if_pos high] at checked
      simp only [onConsensus, fault?, checked, if_pos high]
    · rw [if_neg high] at checked
      simp only [onConsensus, fault?, effect, checked, if_neg high]
  | budget starts =>
    simp only [onConsensus, fault?, effect]
    split <;> rfl
  | _ => rfl

theorem apply_of_valid (own : p.network = o.network)
    (valid : p.consensus.deployments.validate = .ok ()) :
    o.apply p =
      match o.fault? p.consensus with
      | some fault => .error fault
      | none => .ok { p with consensus := o.effect p.consensus } := by
  rw [apply, if_neg (not_not_intro own), onConsensus_of_valid valid]
  cases o.fault? p.consensus <;> rfl

theorem get_effect (differ : o.target ≠ other.target) {id : DeploymentId}
    (own : o.target = .deployment id) :
    (other.effect c).deployments.get id = c.deployments.get id := by
  cases other with
  | deployment place v =>
    refine DeploymentTable.get_set_of_ne _ _ ?_
    rintro rfl
    exact differ own
  | _ => rfl

theorem fault?_effect (differ : o.target ≠ other.target) :
    o.fault? (other.effect c) = o.fault? c := by
  cases o with
  | deployment id u => simp only [fault?, get_effect differ rfl]
  | _ => rfl

theorem effect_comm (differ : o.target ≠ other.target) (c : Consensus) :
    o.effect (other.effect c) = other.effect (o.effect c) := by
  cases o with
  | deployment id u =>
    cases other with
    | deployment place v =>
      have apart : place ≠ id := fun same => differ (congrArg Target.deployment same.symm)
      simp only [effect, DeploymentTable.get_set_of_ne _ _ apart,
        DeploymentTable.get_set_of_ne _ _ apart.symm, DeploymentTable.set_comm apart]
    | _ => rfl
  | dip3 heights =>
    cases other with
    | dip3 _ => exact absurd rfl differ
    | _ => rfl
  | budget starts =>
    cases other with
    | budget _ => exact absurd rfl differ
    | _ => rfl
  | knobs values =>
    cases other with
    | knobs _ => exact absurd rfl differ
    | _ => rfl

theorem apply_after (differ : o.target ≠ other.target)
    (valid : p.consensus.deployments.validate = .ok ()) (taken : other.apply p = .ok q) :
    o.apply q =
      (o.apply p).map fun new => { new with consensus := other.effect new.consensus } := by
  obtain ⟨_, fits, rfl⟩ := apply_eq_ok.mp taken
  by_cases own : p.network = o.network
  · have still : { p with consensus := other.effect p.consensus }.network = o.network := own
    rw [apply_of_valid own valid, apply_of_valid still (fits.deployments valid),
      fault?_effect differ]
    cases o.fault? p.consensus with
    | some fault => rfl
    | none => simp only [Except.map, effect_comm differ]
  · simp [apply, own, Except.map]

end Override

namespace Registry

variable {hasher : HeaderHasher} {r : Registry} {o other : Override} {p q : Profile}

theorem phase_replace : (r.replace o p).phase = r.phase := by
  cases o <;> rfl

def amend (o : Override) (r : Registry) : Registry :=
  match o with
  | .knobs _ =>
    { r with devnet := r.devnet.map fun p => { p with consensus := o.effect p.consensus } }
  | _ => { r with regtest := { r.regtest with consensus := o.effect r.regtest.consensus } }

theorem amend_comm (differ : o.target ≠ other.target) :
    (r.amend other).amend o = (r.amend o).amend other := by
  cases o with
  | knobs values =>
    cases other with
    | knobs _ => exact absurd rfl differ
    | _ => rfl
  | _ =>
    cases other with
    | knobs _ => rfl
    | _ => simp only [amend, Override.effect_comm differ]

theorem result_override (setup : r.phase ≠ .running) :
    (r.override o).result = (r.profile o.network >>= o.apply).map fun _ => () := by
  cases found : r.profile o.network with
  | error e => exact (override_of_missing setup found).1
  | ok p =>
    change _ = (o.apply p).map fun _ => ()
    cases taken : o.apply p with
    | error e => exact (override_of_error setup found taken).1
    | ok new => exact (override_of_ok setup found taken).1

theorem override_eq_ok :
    (r.override o).result = .ok () ↔
      r.phase ≠ .running ∧ ∃ p q, r.profile o.network = .ok p ∧ o.apply p = .ok q := by
  constructor
  · intro went
    by_cases running : r.phase = .running
    · rw [(override_of_running running).1] at went
      cases went
    rw [result_override running] at went
    obtain ⟨q, made, _⟩ := map_eq_ok.mp went
    obtain ⟨p, found, taken⟩ := bind_eq_ok.mp made
    exact ⟨running, p, q, found, taken⟩
  · rintro ⟨setup, p, q, found, taken⟩
    exact (override_of_ok setup found taken).1

theorem override_of_granted (went : (r.override o).result = .ok ()) :
    (r.override o).registry = r.amend o := by
  obtain ⟨setup, p, q, found, taken⟩ := override_eq_ok.mp went
  rw [(override_of_ok setup found taken).2]
  obtain ⟨_, _, rfl⟩ := Override.apply_eq_ok.mp taken
  cases o with
  | knobs values =>
    have stored : r.devnet = some p := profile_devnet.mp found
    simp only [replace, amend, stored, Option.map_some]
  | _ =>
    cases found
    rfl

theorem override_of_refused {e : ProfileError} (failed : (r.override o).result = .error e) :
    (r.override o).registry = r :=
  perform_of_error (q := .override o) failed

theorem Consistent.deployments (consistent : r.Consistent) {n : Network}
    (found : r.profile n = .ok p) : p.consensus.deployments.validate = .ok () :=
  (Profile.validate_eq_ok.mp (consistent.sound found).valid).1

theorem Consistent.result_override_after (consistent : r.Consistent)
    (differ : o.target ≠ other.target) :
    ((r.override other).registry.override o).result = (r.override o).result := by
  cases went : (r.override other).result with
  | error e => rw [override_of_refused went]
  | ok _ =>
    obtain ⟨setup, p, q, found, taken⟩ := override_eq_ok.mp went
    have still : (r.replace other q).phase ≠ .running := by rwa [phase_replace]
    rw [(override_of_ok setup found taken).2, result_override still, result_override setup,
      profile_replace]
    by_cases same : o.network = other.network
    · have after := Override.apply_after differ (consistent.deployments found) taken
      rw [if_pos same, same, found]
      change (o.apply q).map _ = (o.apply p).map _
      rw [after]
      cases o.apply p <;> rfl
    · rw [if_neg same]

theorem Consistent.registry_override_comm (consistent : r.Consistent)
    (differ : o.target ≠ other.target) :
    ((r.override other).registry.override o).registry =
      ((r.override o).registry.override other).registry := by
  have after := consistent.result_override_after differ
  have before := consistent.result_override_after differ.symm
  cases went : (r.override other).result with
  | error e =>
    rw [went] at before
    rw [override_of_refused went, override_of_refused before]
  | ok _ =>
    cases gone : (r.override o).result with
    | error e =>
      rw [gone] at after
      rw [override_of_refused gone, override_of_refused after]
    | ok _ =>
      rw [went] at before
      rw [gone] at after
      rw [override_of_granted after, override_of_granted went, override_of_granted before,
        override_of_granted gone, amend_comm differ]

theorem Consistent.result_deployment (consistent : r.Consistent) (setup : r.phase ≠ .running)
    (id : DeploymentId) (u : DeploymentUpdate) :
    (r.override (.deployment id u)).result =
      if (u.onto (r.regtest.consensus.deployments.get id)).thresholdAboveWindow then
        .error (.deployment (.thresholdAboveWindow id))
      else .ok () := by
  have found : r.profile .regtest = .ok r.regtest := rfl
  have own := (consistent.sound found).network
  rw [result_override setup]
  change ((Override.deployment id u).apply r.regtest).map _ = _
  rw [Override.apply_of_valid own (consistent.deployments found), Override.fault?]
  by_cases high : (u.onto (r.regtest.consensus.deployments.get id)).thresholdAboveWindow = true
  · rw [if_pos high, if_pos high]
    rfl
  · rw [if_neg high, if_neg high]
    rfl

/-- An override is granted or refused alike before and after one of another target, and both orders
end in one registry. A deployment is refused only for the window and threshold it would have. -/
theorem override_independent (reached : Reachable hasher r) :
    (∀ o other : Override, o.target ≠ other.target →
      ((r.override other).registry.override o).result = (r.override o).result ∧
        ((r.override other).registry.override o).registry =
          ((r.override o).registry.override other).registry) ∧
      (r.phase = .setup → ∀ id u,
        (u.Overshoots (r.regtest.consensus.deployments.get id) →
          (r.override (.deployment id u)).result =
            .error (.deployment (.thresholdAboveWindow id))) ∧
          (¬ u.Overshoots (r.regtest.consensus.deployments.get id) →
            (r.override (.deployment id u)).result = .ok ())) := by
  have consistent := reached.consistent
  constructor
  · intro o other differ
    exact ⟨consistent.result_override_after differ, consistent.registry_override_comm differ⟩
  · intro setup id u
    have still : r.phase ≠ .running := by simp [setup]
    rw [consistent.result_deployment still id u, ← DeploymentUpdate.thresholdAboveWindow_onto]
    constructor
    · exact fun high => if_pos high
    · exact fun low => if_neg low

theorem override_independent_knownBlocks :
    ∃ r : Registry, Reachable knownBlocks r ∧ r.phase = .setup ∧
      let high : Override := .deployment .csv ⟨0, 999999999999, some 100, some 101⟩
      let heights : Override := .dip3 ⟨500, 600⟩
      high.target ≠ heights.target ∧
        ((r.override heights).registry.override high).result = (r.override high).result ∧
        ((r.override heights).registry.override high).registry =
          ((r.override high).registry.override heights).registry ∧
        (r.override high).result = .error (.deployment (.thresholdAboveWindow .csv)) ∧
        (r.override (.deployment .csv ⟨0, 999999999999, some 100, some 100⟩)).result = .ok () := by
  obtain ⟨r, created⟩ := create_knownBlocks
  have reached : Reachable knownBlocks r := ⟨r, [], created, rfl⟩
  have setup : r.phase = .setup := by
    obtain ⟨_, _, _, _, _, _, rfl⟩ := create_eq_ok.mp created
    rfl
  obtain ⟨swaps, decides⟩ := override_independent reached
  refine ⟨r, reached, setup, ?_⟩
  intro high heights
  have differ : high.target ≠ heights.target := nofun
  have swapped := swaps high heights differ
  refine ⟨differ, swapped.1, swapped.2, ?_, ?_⟩
  · exact (decides setup _ _).1 ⟨100, 101, rfl, rfl, by decide⟩
  · refine (decides setup _ _).2 ?_
    rintro ⟨window, threshold, left, right, above⟩
    cases left
    cases right
    exact absurd above (by decide)

def overrides (os : List Override) : List Call := os.map fun o => .request (.override o)

/-- Overrides of different targets may be called in any order, those that are refused too. -/
theorem Reachable.run_overrides_perm (reached : Reachable hasher r) {first second : List Override}
    (perm : first.Perm second)
    (differ : first.Pairwise fun o other => o.target ≠ other.target) :
    r.run (overrides first) = r.run (overrides second) := by
  induction perm generalizing r with
  | nil => rfl
  | cons o _ ih =>
    exact ih (reached.run (overrides [o])) (List.pairwise_cons.mp differ).2
  | swap o other rest =>
    have apart := (List.pairwise_cons.mp differ).1 o List.mem_cons_self
    have swapped := reached.consistent.registry_override_comm apart
    change ((r.override other).registry.override o).registry.run (overrides rest) =
      ((r.override o).registry.override other).registry.run (overrides rest)
    rw [swapped]
  | trans one _ ih₁ ih₂ =>
    have still := one.pairwise differ fun apart => apart.symm
    rw [ih₁ reached differ, ih₂ reached still]

variable {v : Override} {vs : List Override} {n : Network}

theorem performAll_overrides (went : (r.performAll (vs.map Request.override)).result = .ok ()) :
    (r.performAll (vs.map Request.override)).registry = vs.foldl (fun s v => s.amend v) r := by
  induction vs generalizing r with
  | nil => rfl
  | cons v rest ih =>
    obtain ⟨here, onward, whole⟩ := performAll_cons_of_granted went
    have granted : (r.perform (.override v)).registry = r.amend v := override_of_granted here
    rw [granted] at onward whole
    exact whole.trans (ih onward)

theorem profile_amend (found : r.profile v.network = .ok p) :
    (r.amend v).profile v.network = .ok { p with consensus := v.effect p.consensus } := by
  cases v with
  | knobs values =>
    have stored : r.devnet = some p := profile_devnet.mp found
    exact profile_devnet.mpr (congrArg (Option.map _) stored)
  | _ =>
    cases found
    rfl

theorem profile_foldl_amend (own : ∀ v ∈ vs, v.network = n) (found : r.profile n = .ok p) :
    (vs.foldl (fun s v => s.amend v) r).profile n =
      .ok { p with consensus := vs.foldl (fun c v => v.effect c) p.consensus } := by
  induction vs generalizing r p with
  | nil => exact found
  | cons v rest ih =>
    obtain ⟨rfl, others⟩ := List.forall_mem_cons.mp own
    exact ih others (profile_amend found)

theorem foldl_amend_same :
    (vs.foldl (fun s v => s.amend v) r).active = r.active ∧
      (vs.foldl (fun s v => s.amend v) r).devnetName = r.devnetName := by
  induction vs generalizing r with
  | nil => exact ⟨rfl, rfl⟩
  | cons v rest ih =>
    have kept := ih (r := r.amend v)
    cases v <;> exact kept

end Registry

end ChainProfile
