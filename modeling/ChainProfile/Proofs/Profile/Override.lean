import ChainProfile.Override
import ChainProfile.Proofs.Outcome

/-! An override as a condition and an effect. It is taken on its own network only, where the group
of constants that it puts in passes its check; then that group is replaced and all else in the
profile stays. -/

namespace ChainProfile.Override

def effect (o : Override) (c : Consensus) : Consensus :=
  match o with
  | .deployment id update =>
    { c with deployments := c.deployments.set id (update.onto (c.deployments.get id)) }
  | .dip3 heights => { c with dip3 := heights }
  | .budget starts => { c with starts }
  | .knobs values => { c with knobs := values }

/-- Whether the constants with the override in them pass the check of what it replaced. -/
def Fits (o : Override) (c : Consensus) : Prop :=
  match o with
  | .deployment _ _ => (o.effect c).deployments.validate = .ok ()
  | .budget _ => (o.effect c).starts.budget < (o.effect c).starts.superblock
  | .dip3 _ => True
  | .knobs _ => True

variable {o : Override} {c d : Consensus} {p q : Profile}

theorem onConsensus_eq_ok : o.onConsensus c = .ok d ↔ o.Fits c ∧ d = o.effect c := by
  cases o with
  | deployment id update =>
    simp only [onConsensus, Fits, effect]
    split
    · rename_i fault invalid
      simp [invalid]
    · rename_i valid
      simp [valid, eq_comm]
  | dip3 heights => simp [onConsensus, Fits, effect, eq_comm]
  | budget starts =>
    simp only [onConsensus, Fits, effect]
    by_cases late : starts.superblock ≤ starts.budget
    · simp [late, Int32.not_lt.mpr late]
    · simp [late, Int32.not_le.mp late, eq_comm]
  | knobs values => simp [onConsensus, Fits, effect, eq_comm]

def Breaks (o : Override) (c : Consensus) (e : ProfileError) : Prop :=
  match o with
  | .deployment _ _ => ∃ fault, (o.effect c).deployments.validate = .error fault ∧
      e = .deployment fault
  | .budget starts => starts.superblock ≤ starts.budget ∧
      e = .invalidBudgetSchedule starts.budget starts.superblock
  | .dip3 _ => False
  | .knobs _ => False

theorem onConsensus_eq_error {e : ProfileError} : o.onConsensus c = .error e ↔ o.Breaks c e := by
  cases o with
  | deployment id update =>
    simp only [onConsensus, Breaks, effect]
    split
    · rename_i fault invalid
      simp [invalid, eq_comm]
    · rename_i valid
      simp [valid]
  | budget starts =>
    simp only [onConsensus, Breaks]
    by_cases late : starts.superblock ≤ starts.budget
    · simp [late, eq_comm]
    · simp [late]
  | dip3 heights => simp [onConsensus, Breaks]
  | knobs values => simp [onConsensus, Breaks]

theorem onConsensus_ne_wrongNetwork (op : GuardedOperation) (n : Network) :
    o.onConsensus c ≠ .error (.wrongNetwork op n) := by
  cases o with
  | deployment id update =>
    simp only [onConsensus]
    split <;> simp
  | budget starts =>
    simp only [onConsensus]
    split <;> simp
  | _ => simp [onConsensus]

theorem effect_quorums : (o.effect c).quorums = c.quorums := by
  cases o <;> rfl

theorem effect_signalling : (o.effect c).signalling = c.signalling := by
  cases o <;> rfl

theorem effect_deployments (other : o.network ≠ .regtest) :
    (o.effect c).deployments = c.deployments := by
  cases o with
  | knobs values => rfl
  | _ => exact absurd rfl other

theorem Fits.deployments (fits : o.Fits c) (valid : c.deployments.validate = .ok ()) :
    (o.effect c).deployments.validate = .ok () := by
  cases o with
  | deployment id update => exact fits
  | _ => exact valid

theorem Fits.starts (fits : o.Fits c) (ordered : c.starts.budget < c.starts.superblock) :
    (o.effect c).starts.budget < (o.effect c).starts.superblock := by
  cases o with
  | budget starts => exact fits
  | _ => exact ordered

theorem apply_eq_ok :
    o.apply p = .ok q ↔
      p.network = o.network ∧ o.Fits p.consensus ∧
        q = { p with consensus := o.effect p.consensus } := by
  rw [apply]
  by_cases own : p.network = o.network
  · rw [if_neg (not_not_intro own)]
    cases taken : o.onConsensus p.consensus with
    | error fault =>
      have unfit : ¬ o.Fits p.consensus := by
        intro fits
        have granted := onConsensus_eq_ok.mpr ⟨fits, rfl⟩
        rw [taken] at granted
        cases granted
      simp [unfit]
    | ok d =>
      obtain ⟨fits, rfl⟩ := onConsensus_eq_ok.mp taken
      simp [own, fits, eq_comm]
  · simp [own]

theorem apply_eq_error {e : ProfileError} (own : p.network = o.network) :
    o.apply p = .error e ↔ o.Breaks p.consensus e := by
  rw [← onConsensus_eq_error, apply, if_neg (not_not_intro own)]
  cases o.onConsensus p.consensus <;> simp

theorem apply_ne_wrongNetwork (own : p.network = o.network) (op : GuardedOperation)
    (n : Network) : o.apply p ≠ .error (.wrongNetwork op n) := by
  rw [apply, if_neg (not_not_intro own)]
  have refused := onConsensus_ne_wrongNetwork (o := o) (c := p.consensus) op n
  cases taken : o.onConsensus p.consensus with
  | error fault =>
    rw [taken] at refused
    simpa using refused
  | ok d => simp

end ChainProfile.Override
