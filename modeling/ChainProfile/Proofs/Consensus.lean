import ChainProfile.Consensus
import ChainProfile.Proofs.Deployment

/-! What the checks of the consensus constants accept. A quorum is checked by looking for a fault
and described by what has to hold of it; the two agree. The rules of a network are accepted when
every quorum of its table is consistent and both roles are bound to one that the table has. They are
refused for the inconsistent quorum with the lowest number, and for a role only where there is no
such quorum. -/

namespace ChainProfile

namespace QuorumKind

theorem ascending_all : all.Pairwise fun kind other => kind.id.toNat < other.id.toNat := by
  decide

end QuorumKind

namespace Quorum

variable {q : Quorum} {e : QuorumError}

inductive Blames (q : Quorum) : QuorumError → Prop
  | membership (unsound : q.soundMembership = false) : Blames q (.membership q)
  | miningWindow (sound : q.soundMembership = true) (unfit : q.soundWindow = false) :
      Blames q (.miningWindow q)

theorem soundMembership_eq_false :
    q.soundMembership = false ↔
      q.threshold = 0 ∨ q.minSize < q.threshold ∨ q.size < q.minSize := by
  rw [soundMembership, Bool.and_eq_false_iff, Bool.and_eq_false_iff, decide_eq_false_iff_not,
    decide_eq_false_iff_not, decide_eq_false_iff_not, UInt32.not_le, UInt32.not_le, UInt32.not_lt,
    UInt32.le_zero_iff, or_assoc]

theorem soundWindow_eq_false :
    q.soundWindow = false ↔ q.windowEnd ≤ q.windowStart ∨ q.interval < q.windowEnd := by
  rw [soundWindow, Bool.and_eq_false_iff, decide_eq_false_iff_not, decide_eq_false_iff_not,
    UInt32.not_lt, UInt32.not_le]

theorem validate_eq :
    q.validate =
      if q.soundMembership = false then .error (.membership q)
      else if q.soundWindow = false then .error (.miningWindow q)
      else .ok () := by
  simp only [validate, soundMembership_eq_false, soundWindow_eq_false]

theorem validate_eq_ok : q.validate = .ok () ↔ q.isConsistent = true := by
  rw [validate_eq, isConsistent]
  cases q.soundMembership <;> cases q.soundWindow <;> simp

theorem validate_eq_error : q.validate = .error e ↔ q.Blames e := by
  rw [validate_eq]
  constructor
  · intro refused
    split at refused
    · rename_i unsound
      cases refused
      exact .membership unsound
    rename_i sound
    split at refused
    · rename_i unfit
      cases refused
      exact .miningWindow (Bool.of_not_eq_false sound) unfit
    · cases refused
  · intro blamed
    cases blamed with
    | membership unsound => exact if_pos unsound
    | miningWindow sound unfit =>
      rw [sound, unfit]
      rfl

end Quorum

namespace QuorumTable

variable {t : QuorumTable} {kind : QuorumKind} {q : Quorum}

theorem mem_entries : (kind, q) ∈ t.entries ↔ t.get? kind = some q := by
  simp [entries, QuorumKind.mem_all]

theorem ascending_entries :
    t.entries.Pairwise fun entry other => entry.1.id.toNat < other.1.id.toNat := by
  refine List.Pairwise.filterMap _ ?_ QuorumKind.ascending_all
  intro kind other below entry found later there
  obtain ⟨_, _, rfl⟩ := Option.map_eq_some_iff.mp found
  obtain ⟨_, _, rfl⟩ := Option.map_eq_some_iff.mp there
  exact below

theorem role_eq_ok : t.role kind = .ok q ↔ t.get? kind = some q := by
  rw [role]
  cases t.get? kind <;> simp

theorem role_eq_error {e : QuorumError} :
    t.role kind = .error e ↔ t.get? kind = none ∧ e = .missing kind := by
  rw [role]
  cases t.get? kind <;> simp [eq_comm]

end QuorumTable

namespace QuorumRules

variable {r : QuorumRules} {e : QuorumError}

structure WellFormed (r : QuorumRules) : Prop where
  consistent : ∀ kind q, r.table.get? kind = some q → q.isConsistent = true
  chainLocks : ∃ q, r.table.get? r.chainLocks = some q
  instantSend : ∃ q, r.table.get? r.instantSend = some q

/-- What is reported of a network's quorums: the inconsistent one with the lowest number, else a
role that is bound to none. -/
inductive Blames (r : QuorumRules) : QuorumError → Prop
  | entry {kind : QuorumKind} {q : Quorum} {e : QuorumError} (held : r.table.get? kind = some q)
      (blamed : q.Blames e)
      (first : ∀ other p, r.table.get? other = some p → other.id < kind.id →
        p.isConsistent = true) :
      Blames r e
  | chainLocks (consistent : ∀ kind q, r.table.get? kind = some q → q.isConsistent = true)
      (missing : r.table.get? r.chainLocks = none) : Blames r (.missing r.chainLocks)
  | instantSend (consistent : ∀ kind q, r.table.get? kind = some q → q.isConsistent = true)
      (bound : ∃ q, r.table.get? r.chainLocks = some q)
      (missing : r.table.get? r.instantSend = none) : Blames r (.missing r.instantSend)

theorem forM_entries_eq_ok :
    (r.table.entries.forM fun entry => entry.2.validate) = .ok () ↔
      ∀ kind q, r.table.get? kind = some q → q.isConsistent = true := by
  rw [forM_eq_ok, Prod.forall]
  simp only [QuorumTable.mem_entries, Quorum.validate_eq_ok]

theorem forM_entries_eq_error :
    (r.table.entries.forM fun entry => entry.2.validate) = .error e ↔
      ∃ kind q, r.table.get? kind = some q ∧ q.Blames e ∧
        ∀ other p, r.table.get? other = some p → other.id < kind.id → p.isConsistent = true := by
  rw [forM_eq_error, exists_first_iff QuorumTable.ascending_entries, Prod.exists]
  simp only [Prod.forall, QuorumTable.mem_entries, Quorum.validate_eq_ok, Quorum.validate_eq_error,
    UInt8.lt_iff_toNat_lt]

theorem validate_eq_ok : r.validate = .ok () ↔ r.WellFormed := by
  rw [validate, check_bind_eq_ok, check_bind_eq_ok, forM_entries_eq_ok, discard_eq_ok,
    discard_eq_ok]
  simp only [chainLocksQuorum, instantSendQuorum, QuorumTable.role_eq_ok]
  constructor
  · rintro ⟨consistent, chainLocks, instantSend⟩
    exact ⟨consistent, chainLocks, instantSend⟩
  · rintro ⟨consistent, chainLocks, instantSend⟩
    exact ⟨consistent, chainLocks, instantSend⟩

theorem validate_eq_error : r.validate = .error e ↔ r.Blames e := by
  rw [validate, check_bind_eq_error, check_bind_eq_error, forM_entries_eq_error, forM_entries_eq_ok,
    discard_eq_ok, discard_eq_error, discard_eq_error]
  simp only [chainLocksQuorum, instantSendQuorum, QuorumTable.role_eq_ok, QuorumTable.role_eq_error]
  constructor
  · rintro (⟨_, _, held, blamed, first⟩ | ⟨consistent, ⟨missing, rfl⟩ | ⟨bound, missing, rfl⟩⟩)
    · exact .entry held blamed first
    · exact .chainLocks consistent missing
    · exact .instantSend consistent bound missing
  · intro blamed
    cases blamed with
    | entry held blamed first => exact .inl ⟨_, _, held, blamed, first⟩
    | chainLocks consistent missing => exact .inr ⟨consistent, .inl ⟨missing, rfl⟩⟩
    | instantSend consistent bound missing => exact .inr ⟨consistent, .inr ⟨bound, missing, rfl⟩⟩

end QuorumRules

namespace Consensus

/-- The two checks accept the well-formed constants and no others. What they report of any other is
its first fault, and the check ends there. -/
theorem validate_exact (t : DeploymentTable) (r : QuorumRules) :
    (t.validate = .ok () ↔ t.WellFormed) ∧
      (∀ e, t.validate = .error e ↔
        ∃ id, t.Blames id e ∧ ∀ before, before.index < id.index → ¬ t.Offends before) ∧
      (r.validate = .ok () ↔ r.WellFormed) ∧
      ∀ e, r.validate = .error e ↔ r.Blames e := by
  refine ⟨?_, ?_, ?_, ?_⟩
  · rw [DeploymentTable.validate_eq_ok, DeploymentTable.wellFormed_iff]
    exact forall_congr' fun _ => DeploymentTable.faultAt?_eq_none_iff
  · exact fun _ => DeploymentTable.validate_eq_error
  · exact QuorumRules.validate_eq_ok
  · exact fun _ => QuorumRules.validate_eq_error

end Consensus

end ChainProfile
