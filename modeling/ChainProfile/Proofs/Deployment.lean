import ChainProfile.Deployment
import ChainProfile.Proofs.Outcome

/-! What the check of a deployment table accepts: usable bits, each of them once, and no threshold
above a window where both are given. Where one of the two is left to the network the check does not
look at the network's number. Every other table is refused for the first position at which something
is wrong; of two positions with one bit that is the earlier. A deployment that replaces another on
the same bit can break its own position only. -/

namespace ChainProfile

namespace DeploymentId

theorem ascending_all : all.Pairwise fun id other => id.index < other.index := by
  decide

theorem index_inj {id other : DeploymentId} (same : id.index = other.index) : id = other := by
  cases id <;> cases other <;> first | rfl | cases same

theorem mem_later {id other : DeploymentId} : other ∈ id.later ↔ id.index < other.index := by
  simp [later, mem_all]

end DeploymentId

namespace Deployment

def Unreachable (d : Deployment) : Prop :=
  ∃ window threshold, d.window = some window ∧ d.threshold = some threshold ∧ window < threshold

theorem thresholdAboveWindow_iff {d : Deployment} :
    d.thresholdAboveWindow = true ↔ d.Unreachable := by
  rw [thresholdAboveWindow, Unreachable]
  cases d.window with
  | none => simp
  | some window => cases d.threshold <;> simp

end Deployment

namespace DeploymentTable

variable {t : DeploymentTable} {id : DeploymentId}

theorem faultAt?_eq_none :
    t.faultAt? id = none ↔
      (t.get id).bit ≤ Deployment.maxBit ∧ (t.get id).thresholdAboveWindow = false ∧
        ∀ other ∈ id.later, (t.get other).bit ≠ (t.get id).bit := by
  by_cases wide : Deployment.maxBit < (t.get id).bit
  · have above := UInt8.not_le.mpr wide
    simp [faultAt?, wide, above]
  have usable := UInt8.not_lt.mp wide
  by_cases high : (t.get id).thresholdAboveWindow = true
  · simp [faultAt?, wide, high]
  · simp [faultAt?, wide, high, usable]

theorem validate_eq_ok : t.validate = .ok () ↔ ∀ id, t.faultAt? id = none := by
  have everywhere : t.fault? = none ↔ ∀ id, t.faultAt? id = none := by
    rw [fault?, List.findSome?_eq_none_iff]
    exact forall_congr' fun id => imp_iff_right id.mem_all
  rw [← everywhere, validate]
  cases t.fault? with
  | some fault => simp
  | none => simp

theorem threshold_le_window {window threshold : Int64} (valid : t.validate = .ok ())
    (wide : (t.get id).window = some window) (high : (t.get id).threshold = some threshold) :
    threshold ≤ window := by
  have fair := (faultAt?_eq_none.mp (validate_eq_ok.mp valid id)).2.1
  rw [Deployment.thresholdAboveWindow, wide, high] at fair
  exact Int64.not_lt.mp (of_decide_eq_false fair)

variable {e : DeploymentError}

structure WellFormed (t : DeploymentTable) : Prop where
  usable : ∀ id, (t.get id).bit ≤ 28
  distinct : ∀ id other, id ≠ other → (t.get id).bit ≠ (t.get other).bit
  reachable : ∀ id, ¬ (t.get id).Unreachable

/-- Something is wrong at that position; a bit that is shared is wrong at the earlier one. -/
def Offends (t : DeploymentTable) (id : DeploymentId) : Prop :=
  28 < (t.get id).bit ∨ (t.get id).Unreachable ∨
    ∃ other, id.index < other.index ∧ (t.get other).bit = (t.get id).bit

/-- What is reported where several things are wrong at one position: the bit if it is out of range,
else the threshold, else the first later position with the same bit. -/
inductive Blames (t : DeploymentTable) (id : DeploymentId) : DeploymentError → Prop
  | bitOutOfRange (wide : 28 < (t.get id).bit) : Blames t id (.bitOutOfRange id (t.get id).bit)
  | thresholdAboveWindow (usable : (t.get id).bit ≤ 28) (unreachable : (t.get id).Unreachable) :
      Blames t id (.thresholdAboveWindow id)
  | duplicateBit {second : DeploymentId} (usable : (t.get id).bit ≤ 28)
      (reachable : ¬ (t.get id).Unreachable) (later : id.index < second.index)
      (shared : (t.get second).bit = (t.get id).bit)
      (first : ∀ other, id.index < other.index → other.index < second.index →
        (t.get other).bit ≠ (t.get id).bit) :
      Blames t id (.duplicateBit id second (t.get id).bit)

theorem wellFormed_iff : t.WellFormed ↔ ∀ id, ¬ t.Offends id := by
  constructor
  · rintro formed id (wide | unreachable | ⟨other, later, shared⟩)
    · exact UInt8.not_lt.mpr (formed.usable id) wide
    · exact formed.reachable id unreachable
    · refine formed.distinct other id ?_ shared
      rintro rfl
      exact Nat.lt_irrefl _ later
  · intro clean
    refine ⟨?_, ?_, ?_⟩
    · exact fun id => UInt8.not_lt.mp fun wide => clean id (.inl wide)
    · intro id other differ shared
      obtain before | same | after := Nat.lt_trichotomy id.index other.index
      · exact clean id (.inr (.inr ⟨other, before, shared.symm⟩))
      · exact differ (DeploymentId.index_inj same)
      · exact clean other (.inr (.inr ⟨id, after, shared⟩))
    · exact fun id unreachable => clean id (.inr (.inl unreachable))

theorem faultAt?_eq_none_iff : t.faultAt? id = none ↔ ¬ t.Offends id := by
  rw [faultAt?_eq_none, Offends, ← Deployment.thresholdAboveWindow_iff]
  simp only [not_or, not_exists, not_and, UInt8.not_lt, DeploymentId.mem_later, Bool.not_eq_true]
  rfl

theorem find?_later_eq_some {bit : UInt8} {second : DeploymentId} :
    (id.later.find? fun other => (t.get other).bit == bit) = some second ↔
      id.index < second.index ∧ (t.get second).bit = bit ∧
        ∀ other, id.index < other.index → other.index < second.index → (t.get other).bit ≠ bit := by
  have ascending : id.later.Pairwise fun x y => x.index < y.index :=
    DeploymentId.ascending_all.filter _
  rw [List.find?_eq_findSome?_guard, List.findSome?_eq_some_iff, exists_first_iff ascending]
  simp only [Option.guard_eq_some_iff, Option.guard_eq_none_iff, DeploymentId.mem_later, beq_iff_eq,
    beq_eq_false_iff_ne]
  constructor
  · rintro ⟨_, later, ⟨rfl, shared⟩, first⟩
    exact ⟨later, shared, first⟩
  · rintro ⟨later, shared, first⟩
    exact ⟨second, later, ⟨rfl, shared⟩, first⟩

theorem faultAt?_eq_some : t.faultAt? id = some e ↔ t.Blames id e := by
  constructor
  · intro found
    rw [faultAt?] at found
    split at found
    · rename_i wide
      cases found
      exact .bitOutOfRange wide
    rename_i usable
    have usable := UInt8.not_lt.mp usable
    split at found
    · rename_i high
      cases found
      exact .thresholdAboveWindow usable (Deployment.thresholdAboveWindow_iff.mp high)
    · rename_i low
      obtain ⟨second, doubled, rfl⟩ := Option.map_eq_some_iff.mp found
      obtain ⟨later, shared, first⟩ := find?_later_eq_some.mp doubled
      exact .duplicateBit usable (mt Deployment.thresholdAboveWindow_iff.mpr low) later shared first
  · intro blamed
    rw [faultAt?]
    cases blamed with
    | bitOutOfRange wide => exact if_pos wide
    | thresholdAboveWindow usable unreachable =>
      have high := Deployment.thresholdAboveWindow_iff.mpr unreachable
      have inRange : ¬ Deployment.maxBit < (t.get id).bit := UInt8.not_lt.mpr usable
      rw [if_neg inRange, if_pos high]
    | duplicateBit usable reachable later shared first =>
      have low := mt Deployment.thresholdAboveWindow_iff.mp reachable
      have doubled := find?_later_eq_some.mpr ⟨later, shared, first⟩
      have inRange : ¬ Deployment.maxBit < (t.get id).bit := UInt8.not_lt.mpr usable
      rw [if_neg inRange, if_neg low, doubled]
      rfl

theorem validate_eq_error :
    t.validate = .error e ↔
      ∃ id, t.Blames id e ∧ ∀ before, before.index < id.index → ¬ t.Offends before := by
  have reported : t.validate = .error e ↔ t.fault? = some e := by
    rw [validate]
    cases t.fault? <;> simp
  rw [reported, fault?, List.findSome?_eq_some_iff, exists_first_iff DeploymentId.ascending_all]
  simp only [DeploymentId.mem_all, true_and, true_imp_iff, faultAt?_eq_some, faultAt?_eq_none_iff]

theorem validate_of_only_fault (here : t.faultAt? id = some e)
    (elsewhere : ∀ other, other ≠ id → t.faultAt? other = none) : t.validate = .error e := by
  refine validate_eq_error.mpr ⟨id, faultAt?_eq_some.mp here, ?_⟩
  intro before earlier
  refine faultAt?_eq_none_iff.mp (elsewhere before ?_)
  rintro rfl
  exact Nat.lt_irrefl _ earlier

variable {other : DeploymentId} {d : Deployment}

theorem set_comm (differ : id ≠ other) (d e : Deployment) :
    (t.set id d).set other e = (t.set other e).set id d := by
  apply ext_get
  intro place
  by_cases first : place = id
  · subst first
    rw [get_set_of_ne _ _ differ, get_set_self, get_set_self]
  by_cases second : place = other
  · subst second
    rw [get_set_self, get_set_of_ne _ _ first, get_set_self]
  · rw [get_set_of_ne _ _ second, get_set_of_ne _ _ first, get_set_of_ne _ _ first,
      get_set_of_ne _ _ second]

theorem bit_get_set (same : d.bit = (t.get id).bit) (other : DeploymentId) :
    ((t.set id d).get other).bit = (t.get other).bit := by
  by_cases own : other = id
  · rw [own, get_set_self, same]
  · rw [get_set_of_ne _ _ own]

theorem faultAt?_set_of_ne (same : d.bit = (t.get id).bit) (differ : other ≠ id) :
    (t.set id d).faultAt? other = t.faultAt? other := by
  simp only [faultAt?, get_set_of_ne _ _ differ, bit_get_set same]

theorem faultAt?_set_self (same : d.bit = (t.get id).bit) (clean : t.faultAt? id = none) :
    (t.set id d).faultAt? id =
      if d.thresholdAboveWindow then some (.thresholdAboveWindow id) else none := by
  obtain ⟨usable, _, distinct⟩ := faultAt?_eq_none.mp clean
  by_cases high : d.thresholdAboveWindow = true
  · rw [if_pos high, faultAt?, get_set_self, same, if_neg (UInt8.not_lt.mpr usable), if_pos high]
  · rw [if_neg high, faultAt?_eq_none, get_set_self, same]
    refine ⟨usable, Bool.eq_false_iff.mpr high, ?_⟩
    intro other later
    rw [bit_get_set same]
    exact distinct other later

theorem validate_set (valid : t.validate = .ok ()) (same : d.bit = (t.get id).bit) :
    (t.set id d).validate =
      if d.thresholdAboveWindow then .error (.thresholdAboveWindow id) else .ok () := by
  have clean := validate_eq_ok.mp valid
  have here := faultAt?_set_self same (clean id)
  have elsewhere : ∀ other, other ≠ id → (t.set id d).faultAt? other = none := by
    intro other differ
    rw [faultAt?_set_of_ne same differ]
    exact clean other
  by_cases high : d.thresholdAboveWindow = true
  · rw [if_pos high] at here ⊢
    exact validate_of_only_fault here elsewhere
  · rw [if_neg high] at here ⊢
    refine validate_eq_ok.mpr ?_
    intro other
    by_cases own : other = id
    · rw [own]
      exact here
    · exact elsewhere other own

end DeploymentTable

end ChainProfile
