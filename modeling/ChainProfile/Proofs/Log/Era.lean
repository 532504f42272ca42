import ChainProfile.Proofs.Log.Gregorian

/-! Years of an era. In 400 years the calendar repeats itself, and within them the year of a day is one
quotient. It never goes down from one day to the next and is right on the first and the last day of
each year, hence between them. -/

namespace ChainProfile.Log.Gregorian

variable {doe later z : Int}

def yearIn (doe : Int) : Int := (doe - doe / 1460 + doe / 36524 - doe / 146096) / 365

theorem yearIn_le_yearIn (order : doe ≤ later) : yearIn doe ≤ yearIn later := by
  refine monotone_int_of_le_succ ?_ order
  intro day
  have fourth (n : Int) : n / 146096 = n / 36524 / 4 := by
    rw [Int.ediv_ediv_of_nonneg (by decide)]
    rfl
  have years : (day + 1) / 1460 ≤ day / 1460 + 1 := by omega
  have centuries : (day + 1) / 36524 = day / 36524 ∨ (day + 1) / 36524 = day / 36524 + 1 := by
    omega
  refine Int.ediv_le_ediv (by decide) ?_
  rw [fourth, fourth]
  generalize day / 36524 = century at *
  generalize (day + 1) / 36524 = next at *
  omega

theorem yearIn_ends :
    ∀ y : Nat, y < 400 → yearIn (marchStart y) = y ∧ yearIn (marchStart (y + 1) - 1) = y := by
  decide +kernel

theorem exists_year (start : 0 ≤ doe) (count : Nat) (inside : doe < marchStart count) :
    ∃ y : Nat, y < count ∧ marchStart y ≤ doe ∧ doe < marchStart (y + 1) := by
  induction count with
  | zero => exact absurd inside (Int.not_lt.mpr start)
  | succ count ih =>
    by_cases reached : marchStart count ≤ doe
    · exact ⟨count, Nat.lt_succ_self count, reached, inside⟩
    · obtain ⟨y, early, since, before⟩ := ih (Int.not_le.mp reached)
      exact ⟨y, Nat.lt_succ_of_lt early, since, before⟩

theorem yearIn_spec (start : 0 ≤ doe) (inside : doe < 146097) :
    (0 ≤ yearIn doe ∧ yearIn doe < 400) ∧
      marchStart (yearIn doe) ≤ doe ∧ doe < marchStart (yearIn doe + 1) := by
  obtain ⟨y, early, since, before⟩ := exists_year start 400 inside
  obtain ⟨first, last⟩ := yearIn_ends y early
  have low := yearIn_le_yearIn since
  have high := yearIn_le_yearIn (Int.le_sub_one_of_lt before)
  have same : yearIn doe = y := by omega
  rw [same]
  exact ⟨by omega, since, before⟩

/-- The year from March that holds a day number, and the day in it. -/
def marchYear (z : Int) : Int := yearIn (z % 146097) + z / 146097 * 400

def marchDay (z : Int) : Int := z % 146097 - marchStart (yearIn (z % 146097))

theorem falls (z : Int) : Falls z (marchYear z) (marchDay z) := by
  obtain ⟨-, since, before⟩ :=
    yearIn_spec (Int.emod_nonneg z (by decide)) (Int.emod_lt_of_pos z (by decide))
  rw [marchStart_succ] at before
  have length : marchLength (marchYear z) = marchLength (yearIn (z % 146097)) := by
    have first := marchStart_add_era (yearIn (z % 146097)) (z / 146097)
    have second := marchStart_add_era (yearIn (z % 146097) + 1) (z / 146097)
    rw [Int.add_right_comm, marchStart_succ, marchStart_succ, first] at second
    unfold marchYear
    omega
  constructor
  · rw [marchYear, marchStart_add_era, marchDay]
    omega
  · unfold marchDay
    omega
  · rw [length]
    unfold marchDay
    omega

theorem marchDay_lt (z : Int) : marchDay z < 366 := by
  have inside := (falls z).inside
  have bounds := marchLength_bounds (marchYear z)
  omega

end ChainProfile.Log.Gregorian
