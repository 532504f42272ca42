import ChainProfile.Proofs.Latest
import ChainProfile.Proofs.Profile.Override
import ChainProfile.Registry

/-! Profiles with requests in them. Of each constant that an override may replace a profile has the
last that the requests carry, or its own if none does. For window and threshold of a deployment the
last is looked for one by one, since an update may carry either alone. -/

namespace ChainProfile

open Registry (Request)

namespace Registry.Request

def update? (id : DeploymentId) : Request → Option DeploymentUpdate
  | .override (.deployment other update) => if other = id then some update else none
  | _ => none

def window? (id : DeploymentId) (q : Request) : Option Int64 :=
  (q.update? id).bind DeploymentUpdate.window

def threshold? (id : DeploymentId) (q : Request) : Option Int64 :=
  (q.update? id).bind DeploymentUpdate.threshold

def dip3? : Request → Option Dip3Heights
  | .override (.dip3 heights) => some heights
  | _ => none

def budget? : Request → Option PaymentStarts
  | .override (.budget starts) => some starts
  | _ => none

def knobs? : Request → Option DevnetKnobs
  | .override (.knobs values) => some values
  | _ => none

end Registry.Request

def Deployment.revised (d : Deployment) (id : DeploymentId) (qs : List Request) : Deployment where
  bit := d.bit
  startTime := ((latest (Request.update? id) qs).map DeploymentUpdate.startTime).getD d.startTime
  timeout := ((latest (Request.update? id) qs).map DeploymentUpdate.timeout).getD d.timeout
  window := (latest (Request.window? id) qs).or d.window
  threshold := (latest (Request.threshold? id) qs).or d.threshold

def DeploymentTable.revised (t : DeploymentTable) (qs : List Request) : DeploymentTable where
  testDummy := t.testDummy.revised .testDummy qs
  csv := t.csv.revised .csv qs
  dip0001 := t.dip0001.revised .dip0001 qs
  bip147 := t.bip147.revised .bip147 qs
  dip0003 := t.dip0003.revised .dip0003 qs
  dip0008 := t.dip0008.revised .dip0008 qs

def Profile.revised (p : Profile) (qs : List Request) : Profile :=
  { p with
    consensus := { p.consensus with
      deployments := p.consensus.deployments.revised qs
      dip3 := (latest Request.dip3? qs).getD p.consensus.dip3
      starts := (latest Request.budget? qs).getD p.consensus.starts } }

variable {qs : List Request} {q : Request}

theorem Deployment.revised_of_update {id : DeploymentId} {u : DeploymentUpdate}
    (carried : q.update? id = some u) (d : Deployment) :
    d.revised id (qs ++ [q]) = u.onto (d.revised id qs) := by
  simp only [revised, DeploymentUpdate.onto, latest_concat, Request.window?, Request.threshold?,
    carried, Option.some_or, Option.map_some, Option.getD_some, Option.bind_some, Option.or_assoc]

theorem Deployment.revised_of_other {id : DeploymentId} (other : q.update? id = none)
    (d : Deployment) : d.revised id (qs ++ [q]) = d.revised id qs := by
  simp only [revised, latest_concat, Request.window?, Request.threshold?, other, Option.none_or,
    Option.bind_none]

theorem DeploymentTable.get_revised (t : DeploymentTable) (qs : List Request)
    (id : DeploymentId) : (t.revised qs).get id = (t.get id).revised id qs := by
  cases id <;> rfl

theorem DeploymentTable.revised_of_other (other : ∀ id, q.update? id = none)
    (t : DeploymentTable) : t.revised (qs ++ [q]) = t.revised qs := by
  apply ext_get
  intro id
  rw [get_revised, get_revised, Deployment.revised_of_other (other id)]

theorem DeploymentTable.revised_deployment (t : DeploymentTable) (qs : List Request)
    (id : DeploymentId) (u : DeploymentUpdate) :
    t.revised (qs ++ [.override (.deployment id u)]) =
      (t.revised qs).set id (u.onto ((t.revised qs).get id)) := by
  let q : Request := .override (.deployment id u)
  apply ext_get
  intro other
  rw [get_revised]
  by_cases same : other = id
  · have carried : q.update? other = some u := if_pos same.symm
    rw [same] at carried ⊢
    rw [get_set_self, get_revised, Deployment.revised_of_update carried]
  · have silent : q.update? other = none := if_neg (Ne.symm same)
    rw [get_set_of_ne _ _ same, get_revised, Deployment.revised_of_other silent]

theorem Profile.revised_of_other (other : ∀ o, q = .override o → o.network ≠ .regtest)
    (p : Profile) : p.revised (qs ++ [q]) = p.revised qs := by
  have silent : (∀ id, q.update? id = none) ∧ q.dip3? = none ∧ q.budget? = none := by
    cases q with
    | override o =>
      cases o with
      | knobs values => exact ⟨fun _ => rfl, rfl, rfl⟩
      | _ => exact absurd rfl (other _ rfl)
    | _ => exact ⟨fun _ => rfl, rfl, rfl⟩
  obtain ⟨update, dip3, budget⟩ := silent
  simp only [revised, DeploymentTable.revised_of_other update, latest_concat, dip3, budget,
    Option.none_or]

theorem Profile.revised_override {o : Override} (own : o.network = .regtest) (p : Profile) :
    p.revised (qs ++ [.override o]) =
      { p.revised qs with consensus := o.effect (p.revised qs).consensus } := by
  cases o with
  | deployment id u =>
    simp only [revised, Override.effect, DeploymentTable.revised_deployment, latest_concat,
      Request.dip3?, Request.budget?, Option.none_or]
  | dip3 heights =>
    have silent : ∀ id, (Request.override (.dip3 heights)).update? id = none := fun _ => rfl
    simp only [revised, Override.effect, DeploymentTable.revised_of_other silent, latest_concat,
      Request.dip3?, Request.budget?, Option.none_or, Option.some_or, Option.getD_some]
  | budget starts =>
    have silent : ∀ id, (Request.override (.budget starts)).update? id = none := fun _ => rfl
    simp only [revised, Override.effect, DeploymentTable.revised_of_other silent, latest_concat,
      Request.dip3?, Request.budget?, Option.none_or, Option.some_or, Option.getD_some]
  | knobs values => cases own

def Profile.tuned (p : Profile) (qs : List Request) : Profile :=
  { p with
    consensus := { p.consensus with knobs := (latest Request.knobs? qs).getD p.consensus.knobs } }

theorem Profile.tuned_of_other (other : q.knobs? = none) (p : Profile) :
    p.tuned (qs ++ [q]) = p.tuned qs := by
  simp only [tuned, latest_concat, other, Option.none_or]

theorem Profile.tuned_knobs (values : DevnetKnobs) (p : Profile) :
    p.tuned (qs ++ [.override (.knobs values)]) =
      { p.tuned qs with consensus := { (p.tuned qs).consensus with knobs := values } } := by
  simp only [tuned, latest_concat, Request.knobs?, Option.some_or, Option.getD_some]

end ChainProfile
