import ChainProfile.Profile.Build
import ChainProfile.Proofs.Outcome

/-! What a profile holds once it is built: its network's constants, a passed validation, and on a
development network the full name that was asked for. How the first blocks are found has no part
in these. -/

namespace ChainProfile.Profile

open Logged

variable {n : Network} {hasher : HeaderHasher} {name : String} {p : Profile}

theorem build_eq_ok :
    (build n hasher name).run.value = .ok p ↔
      (draft n hasher name).run.value = .ok p ∧ p.validate = .ok () := by
  simp only [build, run_bind_eq_ok, value_run_mk_pure, value_run_lift, value_run_pure,
    Except.ok.injEq]
  constructor
  · rintro ⟨q, drafted, _, valid, _, _, rfl⟩
    exact ⟨drafted, valid⟩
  · rintro ⟨drafted, valid⟩
    exact ⟨p, drafted, (), valid, (), trivial, rfl⟩

theorem validate_of_build (built : (build n hasher name).run.value = .ok p) :
    p.validate = .ok () :=
  (build_eq_ok.mp built).2

theorem constants_of_draft (drafted : (draft n hasher name).run.value = .ok p) :
    p.network = n ∧ p.consensus = Consensus.of n := by
  cases n with
  | main =>
    simp only [draft, mainnet, value_run_mk_pure, bind_eq_ok] at drafted
    obtain ⟨hash, _, rest⟩ := drafted
    cases rest
    exact ⟨rfl, rfl⟩
  | testnet =>
    simp only [draft, testnet, run_bind_eq_ok, value_run_pure, Except.ok.injEq] at drafted
    obtain ⟨found, _, rfl⟩ := drafted
    exact ⟨rfl, rfl⟩
  | devnet =>
    simp only [draft, devnet, run_bind_eq_ok, value_run_pure, Except.ok.injEq] at drafted
    obtain ⟨found, _, rfl⟩ := drafted
    exact ⟨rfl, rfl⟩
  | regtest =>
    simp only [draft, regtest, value_run_mk_pure, bind_eq_ok] at drafted
    obtain ⟨hash, _, rest⟩ := drafted
    cases rest
    exact ⟨rfl, rfl⟩

theorem network_of_build (built : (build n hasher name).run.value = .ok p) : p.network = n :=
  (constants_of_draft (build_eq_ok.mp built).1).1

theorem consensus_of_build (built : (build n hasher name).run.value = .ok p) :
    p.consensus = Consensus.of n :=
  (constants_of_draft (build_eq_ok.mp built).1).2

theorem devnetName_of_build (built : (build .devnet hasher name).run.value = .ok p) :
    p.devnetName = some (Genesis.devnetName name) := by
  have drafted := (build_eq_ok.mp built).1
  simp only [draft, devnet, run_bind_eq_ok, value_run_pure, Except.ok.injEq] at drafted
  obtain ⟨found, _, rfl⟩ := drafted
  simp only [Profile.devnetName, devnetOf, Option.map_some]

end ChainProfile.Profile
