import ChainProfile.Options.Apply
import ChainProfile.Proofs.Outcome
import ChainProfile.Proofs.Registry.Request

/-! Options as a row of requests: a name, a network, and overrides of that network's profile alone.
Misplaced options make none; all others end where their row of requests ends, and answer with the
profile that is active there. -/

namespace ChainProfile.NodeOptions

open Registry (Request Step)

variable {o : NodeOptions} {r : Registry} {q : Request}

theorem mem_requests :
    q ∈ o.requests ↔ (∃ name, o.devnetName = some name ∧ q = .setDevnetName name) ∨
      q = .select o.network ∨ ∃ v ∈ o.overrides, q = .override v := by
  simp only [requests, List.append_assoc, List.mem_append, Option.mem_toList,
    Option.map_eq_some_iff, List.mem_singleton, List.mem_map, eq_comm]

theorem mem_overrides {v : Override} :
    v ∈ o.overrides ↔ (∃ d ∈ o.deployments, v = .deployment d.1 d.2) ∨
      (∃ heights, o.dip3 = some heights ∧ v = .dip3 heights) ∨
      (∃ starts, o.budget = some starts ∧ v = .budget starts) ∨
      ∃ values, o.knobs = some values ∧ v = .knobs values := by
  simp only [overrides, List.append_assoc, List.mem_append, Option.mem_toList,
    Option.map_eq_some_iff, List.mem_map, eq_comm]

theorem misplaced?_eq_none :
    o.misplaced? = none ↔ (o.isRegtestOnly → o.network = .regtest) ∧
      (o.knobs.isSome → o.network = .devnet) := by
  by_cases regtest : o.isRegtestOnly = true ∧ o.network ≠ .regtest
  · rw [misplaced?, if_pos regtest]
    simp [regtest]
  by_cases devnet : o.knobs.isSome = true ∧ o.network ≠ .devnet
  · rw [misplaced?, if_neg regtest, if_pos devnet]
    simp [devnet]
  rw [misplaced?, if_neg regtest, if_neg devnet]
  simp only [not_and, ne_eq, Decidable.not_not] at regtest devnet
  exact ⟨fun _ => ⟨regtest, devnet⟩, fun _ => rfl⟩

theorem network_of_override {v : Override} (placed : o.misplaced? = none)
    (asked : .override v ∈ o.requests) : v.network = o.network := by
  have listed : v ∈ o.overrides := by simpa using mem_requests.mp asked
  obtain ⟨regtest, devnet⟩ := misplaced?_eq_none.mp placed
  obtain ⟨d, present, rfl⟩ | ⟨heights, given, rfl⟩ | ⟨starts, given, rfl⟩ | ⟨values, given, rfl⟩ :=
    mem_overrides.mp listed
  · refine (regtest ?_).symm
    have filled := List.ne_nil_of_mem present
    simp [isRegtestOnly, filled]
  · refine (regtest ?_).symm
    simp [isRegtestOnly, given]
  · refine (regtest ?_).symm
    simp [isRegtestOnly, given]
  · refine (devnet ?_).symm
    simp [given]

theorem overrides_eq_nil (placed : o.misplaced? = none) (regtest : o.network ≠ .regtest)
    (devnet : o.network ≠ .devnet) : o.overrides = [] := by
  rw [List.eq_nil_iff_forall_not_mem]
  intro v listed
  have asked : .override v ∈ o.requests := mem_requests.mpr (.inr (.inr ⟨v, listed, rfl⟩))
  have own := network_of_override placed asked
  cases v with
  | knobs values => exact devnet own.symm
  | _ => exact regtest own.symm

theorem network_of_selects {n : Network} (asked : q ∈ o.requests) (selects : q.Selects n) :
    n = o.network := by
  obtain ⟨name, _, rfl⟩ | rfl | ⟨v, _, rfl⟩ := mem_requests.mp asked
  · cases selects
  · exact selects.symm
  · cases selects

theorem devnetName_of_rename {name : String} (asked : .setDevnetName name ∈ o.requests) :
    o.devnetName = some name := by
  simpa using mem_requests.mp asked

theorem freeze_not_mem_requests : Request.freeze ∉ o.requests := by
  simp [mem_requests]

theorem applyTo_of_misplaced {e : ProfileError} (misplaced : o.misplaced? = some e) :
    (o.applyTo r).result = .error e ∧ (o.applyTo r).registry = r := by
  simp only [applyTo, misplaced, Step.refused, and_self]

theorem applyTo_of_error {e : ProfileError} (placed : o.misplaced? = none)
    (failed : (r.performAll o.requests).result = .error e) :
    (o.applyTo r).result = .error e ∧
      (o.applyTo r).registry = (r.performAll o.requests).registry := by
  simp only [applyTo, placed, Step.andThen, failed, and_self]

theorem applyTo_of_ok (placed : o.misplaced? = none)
    (went : (r.performAll o.requests).result = .ok ()) :
    (o.applyTo r).result = (r.performAll o.requests).registry.activeProfile ∧
      (o.applyTo r).registry = (r.performAll o.requests).registry := by
  simp only [applyTo, placed, Step.andThen, went]
  cases (r.performAll o.requests).registry.activeProfile <;> exact ⟨rfl, rfl⟩

theorem result_apply : (o.apply r).result = (o.applyTo r).result.mapError .profile := rfl

theorem registry_apply :
    (o.apply r).registry =
      (r.performAll (if o.misplaced?.isSome then [] else o.requests)).registry := by
  have same : (o.apply r).registry = (o.applyTo r).registry := rfl
  rw [same]
  cases placed : o.misplaced? with
  | some e => exact (applyTo_of_misplaced placed).2
  | none =>
    cases went : (r.performAll o.requests).result with
    | error e => exact (applyTo_of_error placed went).2
    | ok _ => exact (applyTo_of_ok placed went).2

theorem registry_apply_of_placed (placed : o.misplaced? = none) :
    (o.apply r).registry = (r.performAll o.requests).registry := by
  rw [registry_apply, placed]
  rfl

theorem apply_eq_ok {p : Profile} :
    (o.apply r).result = .ok p ↔
      o.misplaced? = none ∧ (r.performAll o.requests).result = .ok () ∧
        (r.performAll o.requests).registry.activeProfile = .ok p := by
  rw [result_apply, mapError_eq_ok]
  cases placed : o.misplaced? with
  | some e => simp [(applyTo_of_misplaced (r := r) placed).1]
  | none =>
    cases went : (r.performAll o.requests).result with
    | error e => simp [(applyTo_of_error placed went).1]
    | ok _ => simp [(applyTo_of_ok placed went).1]

end ChainProfile.NodeOptions
