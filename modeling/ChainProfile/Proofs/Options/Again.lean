import ChainProfile.Proofs.Options.Effect

/-! Options asked for again. Options that are granted leave a registry that absorbs them: the name
and the selection are the ones they ask for, and so is each constant that they give, so every
request of theirs is granted once more and none changes anything. An update that keeps the window or
the threshold finds the number that it kept. Each deployment has to be updated once for that: of two
updates the later hides the earlier, and the earlier need not fit in beside it. -/

namespace ChainProfile

namespace DeploymentUpdate

theorem onto_onto (u : DeploymentUpdate) (d : Deployment) : u.onto (u.onto d) = u.onto d := by
  simp only [onto, ← Option.or_assoc, Option.or_self]

end DeploymentUpdate

namespace DeploymentTable

variable {t : DeploymentTable} {id : DeploymentId}
  {updates : List (DeploymentId × DeploymentUpdate)}

theorem set_get_self (t : DeploymentTable) (id : DeploymentId) : t.set id (t.get id) = t := by
  cases id <;> rfl

theorem updated_cons (t : DeploymentTable) (d : DeploymentId × DeploymentUpdate) :
    t.updated (d :: updates) = (t.set d.1 (d.2.onto (t.get d.1))).updated updates := rfl

theorem get_updated_of_notMem (absent : id ∉ updates.map Prod.fst) :
    (t.updated updates).get id = t.get id := by
  induction updates generalizing t with
  | nil => rfl
  | cons d rest ih =>
    rw [List.map_cons, List.mem_cons, not_or] at absent
    rw [updated_cons, ih absent.2, get_set_of_ne _ _ absent.1]

theorem get_updated_of_mem (once : (updates.map Prod.fst).Nodup)
    {d : DeploymentId × DeploymentUpdate} (listed : d ∈ updates) :
    (t.updated updates).get d.1 = d.2.onto (t.get d.1) := by
  induction updates generalizing t with
  | nil => cases listed
  | cons first rest ih =>
    rw [List.map_cons, List.nodup_cons] at once
    rw [updated_cons]
    obtain rfl | later := List.mem_cons.mp listed
    · rw [get_updated_of_notMem once.1, get_set_self]
    · have apart : d.1 ≠ first.1 := by
        intro same
        exact once.1 (same ▸ List.mem_map_of_mem later)
      rw [ih once.2 later, get_set_of_ne _ _ apart]

theorem set_updated (once : (updates.map Prod.fst).Nodup)
    {d : DeploymentId × DeploymentUpdate} (listed : d ∈ updates) :
    (t.updated updates).set d.1 (d.2.onto ((t.updated updates).get d.1)) = t.updated updates := by
  have settled : d.2.onto ((t.updated updates).get d.1) = (t.updated updates).get d.1 := by
    rw [get_updated_of_mem once listed, DeploymentUpdate.onto_onto]
  rw [settled, set_get_self]

/-- Updated twice, a deployment can be left with a threshold above the window of its first
update. -/
example :
    let narrow : DeploymentUpdate := ⟨1, 2, some 100, none⟩
    let wide : DeploymentUpdate := ⟨3, 4, some 300, some 200⟩
    let t := (Consensus.of .regtest).deployments
    let once := t.set .csv (narrow.onto t.csv)
    let twice := t.updated [(.csv, narrow), (.csv, wide)]
    once.validate = .ok () ∧ twice.validate = .ok () ∧
      (twice.set .csv (narrow.onto twice.csv)).validate = .error (.thresholdAboveWindow .csv) := by
  decide

end DeploymentTable

theorem Override.fits_of_effect {v : Override} {p : Profile} {n : Network} (sound : p.Sound n)
    (settled : v.effect p.consensus = p.consensus) : v.Fits p.consensus := by
  cases v with
  | deployment id u =>
    rw [Fits, settled]
    exact (Profile.validate_eq_ok.mp sound.valid).1
  | budget starts =>
    rw [Fits, settled]
    exact sound.starts
  | dip3 heights => trivial
  | knobs values => trivial

namespace Registry

variable {r : Registry} {q : Request} {qs : List Request} {n : Network} {p : Profile}
  {v : Override}

/-- Granted without any change. -/
def Absorbs (r : Registry) (q : Request) : Prop :=
  (r.perform q).result = .ok () ∧ (r.perform q).registry = r

theorem performAll_of_absorbs (absorbs : ∀ q ∈ qs, r.Absorbs q) :
    (r.performAll qs).result = .ok () ∧ (r.performAll qs).registry = r := by
  induction qs with
  | nil => exact ⟨rfl, rfl⟩
  | cons q rest ih =>
    obtain ⟨⟨went, kept⟩, others⟩ := List.forall_mem_cons.mp absorbs
    have onward := performAll_cons_of_ok rest went
    rw [kept] at onward
    rw [onward.1, onward.2]
    exact ih others

theorem absorbs_setDevnetName {name : String} (setup : r.phase ≠ .running)
    (same : r.devnetName = Text.trimmed name) : r.Absorbs (.setDevnetName name) :=
  setDevnetName_of_same setup same

theorem absorbs_select (active : r.active = some n) (found : r.profile n = .ok p) :
    r.Absorbs (.select n) := by
  obtain ⟨went, ended⟩ := select_of_profile (fun _ => active) found
  refine ⟨?_, ?_⟩
  · rw [perform, Step.result_void, went]
    rfl
  · change (r.select n).registry = r
    rw [ended, ← active]

theorem replace_of_profile (found : r.profile v.network = .ok p) : r.replace v p = r := by
  cases v with
  | knobs values =>
    have stored : r.devnet = some p := profile_devnet.mp found
    rw [replace, ← stored]
  | _ =>
    cases found
    rfl

theorem absorbs_override (setup : r.phase ≠ .running) (found : r.profile v.network = .ok p)
    (sound : p.Sound v.network) (settled : v.effect p.consensus = p.consensus) :
    r.Absorbs (.override v) := by
  have fits := Override.fits_of_effect sound settled
  have taken : v.apply p = .ok p := by
    refine Override.apply_eq_ok.mpr ⟨sound.network, fits, ?_⟩
    rw [settled]
  obtain ⟨went, ended⟩ := override_of_ok setup found taken
  exact ⟨went, ended.trans (replace_of_profile found)⟩

end Registry

namespace NodeOptions

open Registry (Reachable Request create knownBlocks)

variable {hasher : HeaderHasher} {o : NodeOptions} {r : Registry} {p : Profile}

theorem effect_foldl_overrides (once : (o.deployments.map Prod.fst).Nodup) {v : Override}
    (listed : v ∈ o.overrides) (c : Consensus) :
    v.effect (o.overrides.foldl (fun c v => v.effect c) c) =
      o.overrides.foldl (fun c v => v.effect c) c := by
  rw [foldl_effect_overrides]
  obtain ⟨d, present, rfl⟩ | ⟨heights, given, rfl⟩ | ⟨starts, given, rfl⟩ | ⟨values, given, rfl⟩ :=
    mem_overrides.mp listed
  · simp only [Override.effect, DeploymentTable.set_updated once present]
  · simp only [Override.effect, given, Option.getD_some]
  · simp only [Override.effect, given, Option.getD_some]
  · simp only [Override.effect, given, Option.getD_some]

theorem absorbs_of_granted (reached : Reachable hasher r) (setup : r.phase = .setup)
    (once : (o.deployments.map Prod.fst).Nodup) (went : (o.apply r).result = .ok p) :
    ∀ q ∈ o.requests, (o.apply r).registry.Absorbs q := by
  obtain ⟨placed, _, _⟩ := apply_eq_ok.mp went
  obtain ⟨active, named⟩ := selection_of_granted went
  obtain ⟨stored, base, rfl, _, _⟩ := profile_of_granted went
  have consistent := (reached.run [.options o]).consistent
  have still : (o.apply r).registry.phase ≠ .running := by
    rw [(o.confined_apply r).phase, setup]
    decide
  intro q asked
  obtain ⟨name, given, rfl⟩ | rfl | ⟨v, listed, rfl⟩ := mem_requests.mp asked
  · exact Registry.absorbs_setDevnetName still (named.trans (nameIn_of_named given))
  · exact Registry.absorbs_select active stored
  · have own := network_of_override placed asked
    rw [← own] at stored
    exact Registry.absorbs_override still stored (consistent.sound stored)
      (effect_foldl_overrides once listed base.consensus)

/-- Options that update no deployment twice and are granted in setup are granted again, with the
same answer and without any change. -/
theorem apply_again (reached : Reachable hasher r) (setup : r.phase = .setup)
    (once : (o.deployments.map Prod.fst).Nodup) (went : (o.apply r).result = .ok p) :
    (o.apply (o.apply r).registry).result = .ok p ∧
      (o.apply (o.apply r).registry).registry = (o.apply r).registry := by
  obtain ⟨placed, _, found⟩ := apply_eq_ok.mp went
  obtain ⟨granted, kept⟩ :=
    Registry.performAll_of_absorbs (absorbs_of_granted reached setup once went)
  refine ⟨apply_eq_ok.mpr ⟨placed, granted, ?_⟩, (registry_apply_of_placed placed).trans kept⟩
  rw [kept, registry_apply_of_placed placed]
  exact found

/-- A new threshold beside the window that is there, another deployment, and both groups of
heights. -/
def keptWindow : NodeOptions where
  network := .regtest
  devnetName := none
  deployments := [(.csv, ⟨1, 2, none, some 150⟩), (.dip0003, ⟨3, 4, some 30, some 20⟩)]
  budget := some ⟨10, 40, 50⟩
  dip3 := some ⟨500, 600⟩
  knobs := none
  log := .standard
  unknownKeys := []

def alphaKnobs : NodeOptions where
  network := .devnet
  devnetName := some " alpha "
  deployments := []
  budget := none
  dip3 := none
  knobs := some ⟨10, 20, 30⟩
  log := .standard
  unknownKeys := []

def widened : List Call := [.request (.override (.deployment .csv ⟨0, 9, some 300, some 200⟩))]

theorem keptWindow_apply {r₀ : Registry} (created : (create knownBlocks).run.value = .ok r₀) :
    (r₀.run widened).phase = .setup ∧
      ∃ p, (keptWindow.apply (r₀.run widened)).result = .ok p ∧ p.network = .regtest ∧
        p.consensus.deployments.csv = ⟨0, 1, 2, some 300, some 150⟩ ∧
        p.consensus.deployments.dip0003 = ⟨3, 3, 4, some 30, some 20⟩ ∧
        p.consensus.starts = ⟨10, 40, 50⟩ ∧ p.consensus.dip3 = ⟨500, 600⟩ := by
  have all := Registry.of_create_knownBlocks (fun r =>
    (r.run widened).phase = .setup && (keptWindow.apply (r.run widened)).result.toOption.any
      fun p => p.network = .regtest ∧
        p.consensus.deployments.csv = ⟨0, 1, 2, some 300, some 150⟩ ∧
        p.consensus.deployments.dip0003 = ⟨3, 3, 4, some 30, some 20⟩ ∧
        p.consensus.starts = ⟨10, 40, 50⟩ ∧ p.consensus.dip3 = ⟨500, 600⟩) created
    (by decide +kernel)
  obtain ⟨setup, went⟩ := Bool.and_eq_true_iff.mp all
  obtain ⟨p, granted, values⟩ := exists_ok_of_any went
  exact ⟨of_decide_eq_true setup, p, granted, of_decide_eq_true values⟩

theorem alphaKnobs_apply {r₀ : Registry} (created : (create knownBlocks).run.value = .ok r₀) :
    ∃ p, (alphaKnobs.apply r₀).result = .ok p ∧ p.network = .devnet ∧
      p.devnetName = some "devnet-alpha" ∧ p.consensus.knobs = ⟨10, 20, 30⟩ := by
  have went := Registry.of_create_knownBlocks (fun r =>
    (alphaKnobs.apply r).result.toOption.any fun p => p.network = .devnet ∧
      p.devnetName = some "devnet-alpha" ∧ p.consensus.knobs = ⟨10, 20, 30⟩) created
    (by decide +kernel)
  obtain ⟨p, granted, values⟩ := exists_ok_of_any went
  exact ⟨p, granted, of_decide_eq_true values⟩

theorem ofOptions_keptWindow :
    ofOptions [("regtest", ["1"]), ("vbparams", ["csv:1:2:-1:150", "dip0003:3:4:30:20"]),
      ("budgetparams", ["10:40:50"]), ("dip3params", ["500:600"])] = .ok keptWindow := by
  decide +kernel

theorem ofOptions_alphaKnobs :
    ofOptions [("devnet", [" alpha "]), ("minimumdifficultyblocks", ["10"]),
      ("highsubsidyblocks", ["20"]), ("highsubsidyfactor", ["30"])] = .ok alphaKnobs := by
  decide +kernel

theorem apply_again_knownBlocks :
    ∃ r₀ : Registry, (create knownBlocks).run.value = .ok r₀ ∧
      let r := r₀.run widened
      r₀.phase = .setup ∧ r.phase = .setup ∧
        ofOptions [("regtest", ["1"]), ("vbparams", ["csv:1:2:-1:150", "dip0003:3:4:30:20"]),
          ("budgetparams", ["10:40:50"]), ("dip3params", ["500:600"])] = .ok keptWindow ∧
        (keptWindow.deployments.map Prod.fst).Nodup ∧
        (∃ p, (keptWindow.apply r).result = .ok p ∧
          (p.network = .regtest ∧
            p.consensus.deployments.csv = ⟨0, 1, 2, some 300, some 150⟩ ∧
            p.consensus.deployments.dip0003 = ⟨3, 3, 4, some 30, some 20⟩ ∧
            p.consensus.starts = ⟨10, 40, 50⟩ ∧ p.consensus.dip3 = ⟨500, 600⟩) ∧
          (keptWindow.apply (keptWindow.apply r).registry).result = .ok p ∧
          (keptWindow.apply (keptWindow.apply r).registry).registry =
            (keptWindow.apply r).registry) ∧
        ofOptions [("devnet", [" alpha "]), ("minimumdifficultyblocks", ["10"]),
          ("highsubsidyblocks", ["20"]), ("highsubsidyfactor", ["30"])] = .ok alphaKnobs ∧
        ∃ p, (alphaKnobs.apply r₀).result = .ok p ∧
          (p.network = .devnet ∧ p.devnetName = some "devnet-alpha" ∧
            p.consensus.knobs = ⟨10, 20, 30⟩) ∧
          (alphaKnobs.apply (alphaKnobs.apply r₀).registry).result = .ok p ∧
          (alphaKnobs.apply (alphaKnobs.apply r₀).registry).registry =
            (alphaKnobs.apply r₀).registry := by
  obtain ⟨r₀, created⟩ := Registry.create_knownBlocks
  obtain ⟨still, p, kept, values⟩ := keptWindow_apply created
  obtain ⟨q, knobs, tuned⟩ := alphaKnobs_apply created
  have fresh : Reachable knownBlocks r₀ := ⟨r₀, [], created, rfl⟩
  have setup : r₀.phase = .setup := by
    obtain ⟨_, _, _, _, _, _, rfl⟩ := Registry.create_eq_ok.mp created
    rfl
  have once : (keptWindow.deployments.map Prod.fst).Nodup := by decide
  refine ⟨r₀, created, setup, still, ofOptions_keptWindow, once, ⟨p, kept, values, ?_⟩,
    ofOptions_alphaKnobs, q, knobs, tuned, ?_⟩
  · exact apply_again (fresh.run widened) still once kept
  · exact apply_again fresh setup List.nodup_nil knobs

end NodeOptions

end ChainProfile
