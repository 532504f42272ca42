import ChainProfile.Proofs.Registry.Revision
import ChainProfile.Proofs.Registry.Run

/-! Stored profiles as a replay of the history. On the regression network all that was granted is in
the profile, on the development network what was granted after its last build. Main and test
profiles are as they were built. -/

namespace ChainProfile

namespace Registry

def met : List Request → Registry → List (Registry × Request)
  | [], _ => []
  | q :: qs, r => (r, q) :: (r.perform q).registry.met qs

/-- Whether the request, once granted, builds a development profile: a new name does where that
network is active, its selection where it has no profile. -/
def Builds (r : Registry) : Request → Prop
  | .setDevnetName name => r.devnetName ≠ Text.trimmed name ∧ r.active = some .devnet
  | q => q.Selects .devnet ∧ r.devnet = none

/-- `since` is what a row of requests goes on with after it last builds a development profile. -/
def LastBuild (r : Registry) (qs since : List Request) : Prop :=
  ∃ past s q rest, r.met qs = past ++ (s, q) :: rest ∧ s.Builds q ∧
    (∀ m ∈ rest, ¬ m.1.Builds m.2) ∧ since = rest.map Prod.snd

variable {r s s' : Registry} {q : Request} {qs since : List Request}

theorem met_append (first second : List Request) (r : Registry) :
    r.met (first ++ second) = r.met first ++ (r.run (first.map .request)).met second := by
  induction first generalizing r with
  | nil => rfl
  | cons q qs ih =>
    rw [List.cons_append, met, ih, met, List.cons_append]
    rfl

theorem Path.run_requests (path : Path r qs s) : r.run (qs.map .request) = s := by
  induction path with
  | nil => rfl
  | cons grants _ ih =>
    rw [← grants.perform] at ih
    exact ih

theorem Path.met_concat (path : Path r qs s) (q : Request) :
    r.met (qs ++ [q]) = r.met qs ++ [(s, q)] := by
  rw [met_append, path.run_requests]
  rfl

theorem Path.history_invariant {P : List Request → Registry → Prop} (path : Path r qs s)
    (initial : P [] r)
    (step : ∀ {past t q t'}, Path r past t → t.Grants q t' → P past t → P (past ++ [q]) t') :
    P qs s := by
  -- The rule follows the row forwards, so the part already granted is generalised.
  suffices onward : ∀ {past t}, Path r past t → P past t → ∀ {rest s}, Path t rest s →
      P (past ++ rest) s by
    exact onward (.nil r) initial path
  intro past t before known rest s beyond
  induction beyond generalizing past with
  | nil => rwa [List.append_nil]
  | cons grants _ ih =>
    have next := ih (before.append (.cons grants (.nil _))) (step before grants known)
    rwa [List.append_assoc] at next

theorem LastBuild.now (path : Path r qs s) (builds : s.Builds q) : r.LastBuild (qs ++ [q]) [] :=
  ⟨r.met qs, s, q, [], path.met_concat q, builds, List.forall_mem_nil _, rfl⟩

theorem LastBuild.before (last : r.LastBuild qs since) (path : Path r qs s)
    (idle : ¬ s.Builds q) : r.LastBuild (qs ++ [q]) (since ++ [q]) := by
  obtain ⟨past, t, made, rest, row, builds, none, rfl⟩ := last
  refine ⟨past, t, made, rest ++ [(s, q)], ?_, builds, ?_, ?_⟩
  · rw [path.met_concat, row, List.append_assoc, List.cons_append]
  · intro m later
    obtain old | new := List.mem_append.mp later
    · exact none m old
    · cases List.mem_singleton.mp new
      exact idle
  · rw [List.map_append, List.map_singleton]

theorem Grants.regtest (grants : s.Grants q s') :
    (∃ o, q = .override o ∧ o.network = .regtest ∧
        s'.regtest = { s.regtest with consensus := o.effect s.regtest.consensus }) ∨
      (∀ o, q = .override o → o.network ≠ .regtest) ∧ s'.regtest = s.regtest := by
  cases grants with
  | override setup found taken =>
    rename_i o old new
    by_cases own : o.network = .regtest
    · obtain ⟨_, _, rfl⟩ := Override.apply_eq_ok.mp taken
      rw [own] at found
      cases found
      refine .inl ⟨o, rfl, own, ?_⟩
      cases o with
      | knobs values => cases own
      | _ => rfl
    · refine .inr ⟨?_, ?_⟩
      · intro other same
        cases same
        exact own
      · cases o with
        | knobs values => rfl
        | _ => exact absurd rfl own
  | select asked free found =>
    refine .inr ⟨?_, rfl⟩
    rintro o rfl
    cases asked
  | buildAndSelect asked free missing built =>
    refine .inr ⟨?_, rfl⟩
    rintro o rfl
    cases asked
  | _ => exact .inr ⟨nofun, rfl⟩

theorem Path.regtest (path : Path r qs s) : s.regtest = r.regtest.revised qs := by
  refine path.history_invariant (P := fun qs s => s.regtest = r.regtest.revised qs) rfl ?_
  intro past t q t' _ grants known
  obtain ⟨o, rfl, own, changed⟩ | ⟨other, kept⟩ := grants.regtest
  · rw [changed, known, Profile.revised_override own]
  · rw [kept, known, Profile.revised_of_other other]

theorem Path.fixed (path : Path r qs s) :
    s.hasher = r.hasher ∧ s.mainnet = r.mainnet ∧ s.testnet = r.testnet := by
  refine path.invariant (P := fun s => s.hasher = r.hasher ∧ s.mainnet = r.mainnet ∧
    s.testnet = r.testnet) ?_ ⟨rfl, rfl, rfl⟩
  rintro s q s' _ grants ⟨hasher, mainnet, testnet⟩
  obtain ⟨hasher', mainnet', testnet'⟩ := grants.fixed
  exact ⟨hasher'.trans hasher, mainnet'.trans mainnet, testnet'.trans testnet⟩

theorem builds_iff_of_selects {n : Network} (asked : q.Selects n) :
    s.Builds q ↔ n = .devnet ∧ s.devnet = none := by
  cases q with
  | select m =>
    cases asked
    rfl
  | selectToken token =>
    have known : Network.ofToken? token = some n := asked
    simp [Builds, Request.Selects, known]
  | _ => cases asked

theorem Request.Selects.knobs?_eq_none {n : Network} (asked : q.Selects n) : q.knobs? = none := by
  cases q with
  | override o => cases asked
  | _ => rfl

/-- The development profile, if there is one, is the last that was built, as tuned since then. -/
def DevnetReplayed (r : Registry) (qs : List Request) (s : Registry) : Prop :=
  ∀ p, s.devnet = some p → ∃ since built, r.LastBuild qs since ∧
    (Profile.build .devnet r.hasher s.devnetName).run.value = .ok built ∧ p = built.tuned since

namespace DevnetReplayed

theorem now {p : Profile} (path : Path r qs s) (builds : s.Builds q)
    (stored : s'.devnet = some p)
    (built : (Profile.build .devnet r.hasher s'.devnetName).run.value = .ok p) :
    r.DevnetReplayed (qs ++ [q]) s' := by
  intro p' found
  rw [stored] at found
  cases found
  exact ⟨[], p, .now path builds, built, rfl⟩

theorem idle (replayed : r.DevnetReplayed qs s) (path : Path r qs s) (idle : ¬ s.Builds q)
    (silent : q.knobs? = none) (same : s'.devnet = s.devnet ∧ s'.devnetName = s.devnetName) :
    r.DevnetReplayed (qs ++ [q]) s' := by
  intro p found
  rw [same.1] at found
  obtain ⟨since, built, last, drafted, rfl⟩ := replayed p found
  refine ⟨since ++ [q], built, last.before path idle, ?_, ?_⟩
  · rw [same.2]
    exact drafted
  · rw [Profile.tuned_of_other silent]

theorem grants (replayed : r.DevnetReplayed qs s) (path : Path r qs s) (grants : s.Grants q s') :
    r.DevnetReplayed (qs ++ [q]) s' := by
  have hasher := path.fixed.1
  cases grants with
  | keepName setup same =>
    exact replayed.idle path (fun builds => builds.1 same) rfl ⟨rfl, rfl⟩
  | dropDevnet setup new inactive => exact fun p none => nomatch none
  | rebuildDevnet setup new active built =>
    rw [hasher] at built
    exact .now path ⟨new, active⟩ rfl built
  | select asked free found =>
    have idle : ¬ s.Builds q := by
      rw [builds_iff_of_selects asked]
      rintro ⟨rfl, missing⟩
      rw [profile_devnet.mp found] at missing
      cases missing
    exact replayed.idle path idle asked.knobs?_eq_none ⟨rfl, rfl⟩
  | buildAndSelect asked free missing built =>
    rw [hasher] at built
    exact .now path ((builds_iff_of_selects asked).mpr ⟨rfl, missing⟩) rfl built
  | freeze found => exact replayed.idle path (fun builds => builds.1) rfl ⟨rfl, rfl⟩
  | override setup found taken =>
    rename_i o old new
    have idle : ¬ s.Builds (.override o) := fun builds => builds.1
    obtain ⟨_, _, rfl⟩ := Override.apply_eq_ok.mp taken
    cases o with
    | knobs values =>
      intro p stored
      cases stored
      obtain ⟨since, built, last, drafted, rfl⟩ := replayed old (profile_devnet.mp found)
      refine ⟨since ++ [_], built, last.before path idle, drafted, ?_⟩
      exact (Profile.tuned_knobs values built).symm
    | _ => exact replayed.idle path idle rfl ⟨rfl, rfl⟩

end DevnetReplayed

/-- The requests alone lead from `r` to `s`, and the stored profiles of `s` are those of `r`, or
built on the way, with the last granted overrides in them. -/
structure Replays (r : Registry) (qs : List Request) (s : Registry) : Prop where
  run : r.run (qs.map .request) = s
  mainnet : s.mainnet = r.mainnet
  testnet : s.testnet = r.testnet
  regtest : s.regtest = r.regtest.revised qs
  devnet : r.DevnetReplayed qs s

theorem Path.replays (path : Path r qs s) (empty : r.devnet = none) : r.Replays qs s where
  run := path.run_requests
  mainnet := path.fixed.2.1
  testnet := path.fixed.2.2
  regtest := path.regtest
  devnet := by
    refine path.history_invariant (P := r.DevnetReplayed) ?_ ?_
    · intro p found
      rw [empty] at found
      cases found
    · intro past t q t' before grants replayed
      exact replayed.grants before grants

theorem deployments_of_perform (r : Registry) (id : DeploymentId) (u : DeploymentUpdate) :
    (r.perform (.override (.deployment id u))).registry.regtest.consensus.deployments =
        r.regtest.consensus.deployments ∨
      (r.perform (.override (.deployment id u))).registry.regtest.consensus.deployments =
        r.regtest.consensus.deployments.set id
          (u.onto (r.regtest.consensus.deployments.get id)) := by
  obtain ⟨_, _, kept⟩ | ⟨_, grants⟩ := perform_settles (r := r) (.override (.deployment id u))
  · rw [kept]
    exact .inl rfl
  · obtain ⟨_, same, _, changed⟩ | ⟨other, _⟩ := grants.regtest
    · cases same
      rw [changed]
      exact .inr rfl
    · exact absurd rfl (other _ rfl)

/-- After every run the stored profiles are those of the new registry or built since, with the last
granted overrides in them; a window or threshold of -1 is never taken over. -/
theorem replays_run {hasher : HeaderHasher} {r₀ : Registry}
    (created : (create hasher).run.value = .ok r₀) (calls : List Call) :
    r₀.Replays (r₀.history calls) (r₀.run calls) ∧
      ∀ id start timeout n,
        let raw := fun window threshold => ((r₀.run calls).perform
          (.override (.deployment id (.ofRaw start timeout window threshold)))).registry
        let d := (r₀.run calls).regtest.consensus.deployments.get id
        ((raw (-1) n).regtest.consensus.deployments.get id).window = d.window ∧
          ((raw n (-1)).regtest.consensus.deployments.get id).threshold = d.threshold := by
  have empty : r₀.devnet = none := by
    obtain ⟨_, _, _, _, _, _, rfl⟩ := create_eq_ok.mp created
    rfl
  refine ⟨(run_path calls r₀).replays empty, ?_⟩
  intro id start timeout n
  constructor
  · obtain kept | taken := deployments_of_perform (r₀.run calls) id (.ofRaw start timeout (-1) n)
    · rw [kept]
    · rw [taken, DeploymentTable.get_set_self]
      rfl
  · obtain kept | taken := deployments_of_perform (r₀.run calls) id (.ofRaw start timeout n (-1))
    · rw [kept]
    · rw [taken, DeploymentTable.get_set_self]
      rfl

/-- A window is kept while the threshold changes, a refused budget leaves no trace, and a new name
forgets the knobs. -/
theorem replays_run_knownBlocks :
    ∃ r₀ : Registry, (create knownBlocks).run.value = .ok r₀ ∧
      let calls : List Call := [.request (.select .devnet),
        .request (.override (.deployment .csv ⟨0, 10, some 200, some 150⟩)),
        .request (.override (.deployment .csv (.ofRaw 5 9 (-1) 180))),
        .request (.override (.budget ⟨10, 40, 40⟩)),
        .request (.override (.knobs ⟨1000, 500, 10⟩)), .request (.setDevnetName "beta"),
        .request (.override (.dip3 ⟨3, 4⟩))]
      (r₀.history calls).length = 6 ∧
        (r₀.run calls).regtest.consensus.deployments.csv = ⟨0, 5, 9, some 200, some 180⟩ ∧
        (r₀.run calls).regtest.consensus.starts = r₀.regtest.consensus.starts ∧
        (r₀.run calls).regtest.consensus.dip3 = ⟨3, 4⟩ ∧
        (r₀.run calls).devnet.map (·.consensus.knobs) = some ⟨0, 0, 1⟩ ∧
        r₀.Replays (r₀.history calls) (r₀.run calls) ∧
        ∀ id start timeout n,
          let raw := fun window threshold => ((r₀.run calls).perform
            (.override (.deployment id (.ofRaw start timeout window threshold)))).registry
          let d := (r₀.run calls).regtest.consensus.deployments.get id
          ((raw (-1) n).regtest.consensus.deployments.get id).window = d.window ∧
            ((raw n (-1)).regtest.consensus.deployments.get id).threshold = d.threshold := by
  obtain ⟨r₀, created⟩ := create_knownBlocks
  refine ⟨r₀, created, ?_⟩
  intro calls
  have reached := of_create_knownBlocks (fun r => (r.history calls).length = 6 ∧
    (r.run calls).regtest.consensus.deployments.csv = ⟨0, 5, 9, some 200, some 180⟩ ∧
    (r.run calls).regtest.consensus.starts = r.regtest.consensus.starts ∧
    (r.run calls).regtest.consensus.dip3 = ⟨3, 4⟩ ∧
    (r.run calls).devnet.map (·.consensus.knobs) = some ⟨0, 0, 1⟩) created (by decide +kernel)
  obtain ⟨granted, csv, starts, heights, knobs⟩ := of_decide_eq_true reached
  exact ⟨granted, csv, starts, heights, knobs, replays_run created calls⟩

end Registry

end ChainProfile
