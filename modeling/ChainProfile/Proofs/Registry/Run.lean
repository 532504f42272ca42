import ChainProfile.Proofs.Options.Apply
import ChainProfile.Proofs.Outcome

/-! Runs of a registry. A node calls its registry in any order and goes on after a refusal, so a
run is a fold over calls and its history is what was granted on the way. Two rules of induction
carry the invariants: one over granted requests, one over builds and overrides of single
profiles. -/

namespace ChainProfile

open Registry (Request)

/-- What a node does with its registry: a request, or options put in force. -/
inductive Call
  | request (q : Request)
  | options (o : NodeOptions)

/-- The requests that a call makes, up to the first that is refused. -/
def Call.requests : Call → List Request
  | .request q => [q]
  | .options o => if o.misplaced?.isSome then [] else o.requests

namespace Registry

def after (c : Call) (r : Registry) : Registry :=
  match c with
  | .request q => (r.perform q).registry
  | .options o => (o.apply r).registry

def run (calls : List Call) (r : Registry) : Registry := calls.foldl (fun s c => s.after c) r

theorem run_append (first second : List Call) (r : Registry) :
    r.run (first ++ second) = (r.run first).run second :=
  List.foldl_append

def granted : List Request → Registry → List Request
  | [], _ => []
  | q :: qs, r =>
    match (r.perform q).result with
    | .error _ => []
    | .ok _ => q :: (r.perform q).registry.granted qs

def history : List Call → Registry → List Request
  | [], _ => []
  | c :: calls, r => r.granted c.requests ++ (r.after c).history calls

/-- Requests granted in a row, from one registry to another. -/
inductive Path : Registry → List Request → Registry → Prop
  | nil (r : Registry) : Path r [] r
  | cons {r r₁ r₂ : Registry} {q : Request} {qs : List Request} (first : r.Grants q r₁)
      (rest : Path r₁ qs r₂) : Path r (q :: qs) r₂

namespace Path

theorem append {r r₁ r₂ : Registry} {first second : List Request} (before : Path r first r₁)
    (beyond : Path r₁ second r₂) : Path r (first ++ second) r₂ := by
  induction before with
  | nil => exact beyond
  | cons grants _ ih => exact .cons grants (ih beyond)

theorem invariant {P : Registry → Prop} {r r' : Registry} {qs : List Request}
    (path : Path r qs r') (keeps : ∀ {s q s'}, q ∈ qs → s.Grants q s' → P s → P s')
    (initial : P r) : P r' := by
  induction path with
  | nil => exact initial
  | cons grants _ ih =>
    have next := keeps List.mem_cons_self grants initial
    exact ih (fun asked => keeps (List.mem_cons_of_mem _ asked)) next

end Path

theorem performAll_path (qs : List Request) (r : Registry) :
    Path r (r.granted qs) (r.performAll qs).registry := by
  induction qs generalizing r with
  | nil => exact .nil r
  | cons q qs ih =>
    cases went : (r.perform q).result with
    | error e =>
      have stopped := performAll_cons_of_error qs went
      rw [stopped.2, granted, went]
      exact .nil r
    | ok _ =>
      have onward := performAll_cons_of_ok qs went
      rw [onward.2, granted, went]
      exact .cons (grants_of_perform went) (ih _)

theorem granted_subset (qs : List Request) (r : Registry) : r.granted qs ⊆ qs := by
  induction qs generalizing r with
  | nil => exact List.Subset.refl []
  | cons q qs ih =>
    rw [granted]
    split
    · exact List.nil_subset _
    · exact List.cons_subset_cons q (ih _)

theorem granted_of_ok {qs : List Request} {r : Registry}
    (went : (r.performAll qs).result = .ok ()) : r.granted qs = qs := by
  induction qs generalizing r with
  | nil => rfl
  | cons q qs ih =>
    obtain ⟨first, onward, _⟩ := performAll_cons_of_granted went
    rw [granted, first, ih onward]

theorem after_eq_performAll (c : Call) (r : Registry) :
    r.after c = (r.performAll c.requests).registry := by
  cases c with
  | request q =>
    cases went : (r.perform q).result with
    | error e =>
      have stopped := performAll_cons_of_error [] went
      rw [after, Call.requests, stopped.2, perform_of_error went]
    | ok _ =>
      have onward := performAll_cons_of_ok [] went
      rw [after, Call.requests, onward.2]
      rfl
  | options o =>
    rw [after, NodeOptions.registry_apply, Call.requests]

theorem run_path (calls : List Call) (r : Registry) :
    Path r (r.history calls) (r.run calls) := by
  induction calls generalizing r with
  | nil => exact .nil r
  | cons c calls ih =>
    have first := performAll_path c.requests r
    rw [← after_eq_performAll] at first
    exact first.append (ih (r.after c))

theorem create_eq_ok {hasher : HeaderHasher} {r : Registry} :
    (create hasher).run.value = .ok r ↔
      ∃ mainnet testnet regtest, (Profile.build .main hasher "").run.value = .ok mainnet ∧
        (Profile.build .testnet hasher "").run.value = .ok testnet ∧
        (Profile.build .regtest hasher "").run.value = .ok regtest ∧
        r = ⟨hasher, "", mainnet, testnet, regtest, none, none, .setup⟩ := by
  simp only [create, Logged.run_bind_eq_ok, Logged.value_run_pure, Except.ok.injEq]
  constructor
  · rintro ⟨m, hm, t, ht, g, hg, rfl⟩
    exact ⟨m, t, g, hm, ht, hg, rfl⟩
  · rintro ⟨m, t, g, hm, ht, hg, rfl⟩
    exact ⟨m, hm, t, ht, g, hg, rfl⟩

/-- A hash function that knows the two fixed first blocks and lets every other block win. -/
def knownBlocks : HeaderHasher := fun bytes =>
  if bytes = Profile.mainGenesis.header.bytes then Profile.mainGenesisHash
  else if bytes = Profile.regtestGenesis.header.bytes then Profile.regtestGenesisHash
  else .zero

theorem create_knownBlocks : ∃ r, (create knownBlocks).run.value = .ok r := by
  have built : (create knownBlocks).run.value.isOk = true := by decide +kernel
  exact isOk_iff.mp built

/-- A test that is evaluated along with the creation holds of the registry that is created. -/
theorem of_create_knownBlocks (test : Registry → Bool) {r : Registry}
    (created : (create knownBlocks).run.value = .ok r)
    (holds : ((create knownBlocks).run.value.map test).toOption = some true) : test r = true := by
  rw [created] at holds
  exact Option.some.inj holds

def Reachable (hasher : HeaderHasher) (r : Registry) : Prop :=
  ∃ r₀ calls, (create hasher).run.value = .ok r₀ ∧ r₀.run calls = r

namespace Reachable

variable {hasher : HeaderHasher} {r : Registry}

theorem run (reached : Reachable hasher r) (calls : List Call) :
    Reachable hasher (r.run calls) := by
  obtain ⟨r₀, before, created, rfl⟩ := reached
  exact ⟨r₀, before ++ calls, created, run_append before calls r₀⟩

theorem invariant {P : Registry → Prop} (reached : Reachable hasher r)
    (initial : ∀ {s}, (create hasher).run.value = .ok s → P s)
    (keeps : ∀ {s q s'}, s.Grants q s' → P s → P s') : P r := by
  obtain ⟨r₀, calls, created, rfl⟩ := reached
  exact (run_path calls r₀).invariant (fun _ => keeps) (initial created)

/-- What every build gives and every override keeps holds of all stored profiles. -/
theorem profile {P : Network → Profile → Prop} (reached : Reachable hasher r)
    (built : ∀ {n name p}, (Profile.build n hasher name).run.value = .ok p → P n p)
    (keeps : ∀ {n : Network} {o : Override} {p q : Profile}, n = o.network → P n p →
      o.apply p = .ok q → P n q)
    {n : Network} {p : Profile} (found : r.profile n = .ok p) : P n p := by
  -- Builds use the hasher of the registry, so that it never changes is part of the invariant.
  have all : r.hasher = hasher ∧ ∀ n p, r.profile n = .ok p → P n p := by
    apply reached.invariant (P := fun s => s.hasher = hasher ∧ ∀ n p, s.profile n = .ok p → P n p)
    · intro s created
      obtain ⟨m, t, g, hm, ht, hg, rfl⟩ := create_eq_ok.mp created
      refine ⟨rfl, ?_⟩
      intro n p found
      cases n with
      | main => exact Except.ok.inj found ▸ built hm
      | testnet => exact Except.ok.inj found ▸ built ht
      | devnet => cases found
      | regtest => exact Except.ok.inj found ▸ built hg
    · rintro s q s' grants ⟨same, known⟩
      refine ⟨grants.fixed.1.trans same, ?_⟩
      intro n p found
      obtain old | ⟨rfl, name, fresh⟩ | ⟨o, old, own, there, taken⟩ := grants.profile found
      · exact known n p old
      · rw [same] at fresh
        exact built fresh
      · exact keeps own (known n old there) taken
  exact all.2 n p found

end Reachable

end Registry

end ChainProfile
