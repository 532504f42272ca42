import Mathlib.Tactic.IntervalCases

/-! The Gregorian calendar, in both directions of time. Counted in years that start in March, a year ends
with its leap day and the months before it have fixed lengths, so the days of a year number its months
by one formula. Each day number falls on one day of one such year, which makes the next number the next
date. -/

namespace ChainProfile.Log

@[ext] structure Gregorian where
  year : Int
  month : Int
  day : Int
  deriving DecidableEq, Repr

namespace Gregorian

variable {year day other last k z : Int}

def IsLeap (year : Int) : Prop := year % 4 = 0 ∧ (year % 100 ≠ 0 ∨ year % 400 = 0)

instance (year : Int) : Decidable (IsLeap year) := inferInstanceAs (Decidable (_ ∧ _))

def monthLength (year month : Int) : Int :=
  if month = 2 then if IsLeap year then 29 else 28
  else if month = 4 ∨ month = 6 ∨ month = 9 ∨ month = 11 then 30
  else 31

structure Valid (date : Gregorian) : Prop where
  month : 1 ≤ date.month ∧ date.month ≤ 12
  day : 1 ≤ date.day ∧ date.day ≤ monthLength date.year date.month

/-- The next day of the month, else the first of the next month, else New Year's Day. -/
def next (date : Gregorian) : Gregorian :=
  if date.day < monthLength date.year date.month then ⟨date.year, date.month, date.day + 1⟩
  else if date.month < 12 then ⟨date.year, date.month + 1, 1⟩
  else ⟨date.year + 1, 1, 1⟩

def marchStart (year : Int) : Int := 365 * year + year / 4 - year / 100 + year / 400

/-- The year from March ends with the February of the year after. -/
def marchLength (year : Int) : Int := if IsLeap (year + 1) then 366 else 365

theorem marchStart_succ (year : Int) : marchStart (year + 1) = marchStart year + marchLength year := by
  by_cases leap : IsLeap (year + 1)
  · rw [marchLength, if_pos leap]
    unfold IsLeap at leap
    unfold marchStart
    omega
  · rw [marchLength, if_neg leap]
    unfold IsLeap at leap
    unfold marchStart
    omega

theorem marchStart_add_era (year era : Int) :
    marchStart (year + era * 400) = marchStart year + era * 146097 := by
  unfold marchStart
  omega

theorem marchLength_bounds (year : Int) : 365 ≤ marchLength year ∧ marchLength year ≤ 366 := by
  unfold marchLength
  split <;> decide

def monthOf (k : Int) : Int := if k < 10 then k + 3 else k - 9

/-- January and February belong to the next year of the calendar. -/
def yearOf (year k : Int) : Int := year + if monthOf k ≤ 2 then 1 else 0

def firstDay (k : Int) : Int := (153 * k + 2) / 5

def ofMarch (year day : Int) : Gregorian :=
  let k := (5 * day + 2) / 153
  ⟨yearOf year k, monthOf k, day - firstDay k + 1⟩

def monthEnd (year k : Int) : Int := if k = 11 then marchLength year else firstDay (k + 1)

structure InMonth (year day k : Int) : Prop where
  low : 0 ≤ k
  high : k ≤ 11
  start : firstDay k ≤ day
  inside : day < monthEnd year k

theorem monthLength_monthOf (year : Int) (low : 0 ≤ k) (high : k ≤ 11) :
    monthLength (yearOf year k) (monthOf k) = monthEnd year k - firstDay k := by
  obtain rfl | early : k = 11 ∨ k ≤ 10 := by omega
  · simp only [monthLength, yearOf, monthOf, monthEnd, marchLength, firstDay]
    by_cases leap : IsLeap (year + 1) <;> simp [leap]
  · interval_cases k <;> rfl

theorem exists_inMonth (start : 0 ≤ day) (inside : day < marchLength year) :
    ∃ k, InMonth year day k := by
  have bounds := marchLength_bounds year
  have found : firstDay ((5 * day + 2) / 153) ≤ day ∧ day < firstDay ((5 * day + 2) / 153 + 1) := by
    unfold firstDay
    omega
  refine ⟨(5 * day + 2) / 153, by omega, by omega, found.1, ?_⟩
  unfold monthEnd
  split
  · exact inside
  · exact found.2

theorem InMonth.month_eq (within : InMonth year day k) : (5 * day + 2) / 153 = k := by
  obtain ⟨low, high, start, inside⟩ := within
  have bounds := marchLength_bounds year
  unfold monthEnd at inside
  unfold firstDay at start inside
  split at inside <;> omega

theorem InMonth.ofMarch_eq (within : InMonth year day k) :
    ofMarch year day = ⟨yearOf year k, monthOf k, day - firstDay k + 1⟩ := by
  rw [ofMarch, within.month_eq]

theorem valid_ofMarch (start : 0 ≤ day) (inside : day < marchLength year) :
    (ofMarch year day).Valid := by
  obtain ⟨k, within⟩ := exists_inMonth start inside
  rw [within.ofMarch_eq]
  obtain ⟨low, high, first, last⟩ := within
  constructor
  · dsimp only
    unfold monthOf
    split <;> omega
  · dsimp only
    rw [monthLength_monthOf year low high]
    omega

theorem next_of_monthEnd (low : 0 ≤ k) (high : k ≤ 10) (ends : day + 1 = monthEnd year k) :
    (⟨yearOf year k, monthOf k, day - firstDay k + 1⟩ : Gregorian).next =
      ⟨yearOf year (k + 1), monthOf (k + 1), 1⟩ := by
  have length := monthLength_monthOf year low (by omega)
  rw [next]
  dsimp only
  rw [length, if_neg (by omega)]
  interval_cases k <;> simp [yearOf, monthOf]

theorem next_ofMarch (start : 0 ≤ day) (inside : day + 1 < marchLength year) :
    (ofMarch year day).next = ofMarch year (day + 1) := by
  obtain ⟨k, within⟩ := exists_inMonth start (by omega : day < marchLength year)
  have length := monthLength_monthOf year within.low within.high
  rw [within.ofMarch_eq]
  obtain ⟨low, high, first, last⟩ := within
  by_cases stays : day + 1 < monthEnd year k
  · have later : InMonth year (day + 1) k := ⟨low, high, by omega, stays⟩
    rw [later.ofMarch_eq, next]
    dsimp only
    rw [length, if_pos (by omega)]
    ext <;> dsimp only
    omega
  · have ends : day + 1 = monthEnd year k := by omega
    have early : k ≤ 10 := by
      by_contra late
      rw [monthEnd, if_pos (by omega)] at ends
      omega
    have turn : day + 1 = firstDay (k + 1) := by
      rw [ends, monthEnd, if_neg (by omega)]
    have later : InMonth year (day + 1) (k + 1) := by
      refine ⟨by omega, by omega, by omega, ?_⟩
      unfold monthEnd
      unfold firstDay at turn ⊢
      split <;> omega
    rw [next_of_monthEnd low early ends, later.ofMarch_eq, turn]
    ext <;> dsimp only
    omega

theorem next_ofMarch_last (year : Int) :
    (ofMarch year (marchLength year - 1)).next = ofMarch (year + 1) 0 := by
  have bounds := marchLength_bounds year
  have last : InMonth year (marchLength year - 1) 11 := by
    refine ⟨by decide, by decide, ?_, ?_⟩
    · unfold firstDay
      omega
    · rw [monthEnd, if_pos rfl]
      omega
  have first : InMonth (year + 1) 0 0 :=
    ⟨by decide, by decide, by decide, by simp [monthEnd, firstDay]⟩
  rw [last.ofMarch_eq, first.ofMarch_eq, next]
  dsimp only
  rw [monthLength_monthOf year (by decide) (by decide), monthEnd, if_pos rfl, if_neg (by omega)]
  simp [yearOf, monthOf, firstDay]

/-- The day of that number is the given day of the given year from March. -/
structure Falls (z year day : Int) : Prop where
  number : z = marchStart year + day
  start : 0 ≤ day
  inside : day < marchLength year

theorem marchStart_le_marchStart (order : year ≤ other) : marchStart year ≤ marchStart other := by
  refine monotone_int_of_le_succ ?_ order
  intro earlier
  have bounds := marchLength_bounds earlier
  rw [marchStart_succ]
  omega

theorem Falls.year_le (falls : Falls z year day) (again : Falls z other last) : year ≤ other := by
  obtain ⟨number, start, -⟩ := falls
  obtain ⟨same, -, inside⟩ := again
  by_contra later
  have order := marchStart_le_marchStart (by omega : other + 1 ≤ year)
  rw [marchStart_succ] at order
  omega

theorem Falls.unique (falls : Falls z year day) (again : Falls z other last) :
    year = other ∧ day = last := by
  obtain rfl := Int.le_antisymm (falls.year_le again) (again.year_le falls)
  have number := falls.number
  have same := again.number
  exact ⟨rfl, by omega⟩

theorem Falls.valid (falls : Falls z year day) : (ofMarch year day).Valid :=
  valid_ofMarch falls.start falls.inside

theorem Falls.next (falls : Falls z year day) (after : Falls (z + 1) other last) :
    ofMarch other last = (ofMarch year day).next := by
  obtain ⟨number, start, inside⟩ := falls
  by_cases same : day + 1 < marchLength year
  · have here : Falls (z + 1) year (day + 1) := ⟨by omega, by omega, same⟩
    obtain ⟨rfl, rfl⟩ := here.unique after
    exact (next_ofMarch start same).symm
  · have bounds := marchLength_bounds (year + 1)
    have ends : day = marchLength year - 1 := by omega
    have there : Falls (z + 1) (year + 1) 0 := by
      refine ⟨?_, by decide, by omega⟩
      rw [marchStart_succ]
      omega
    obtain ⟨rfl, rfl⟩ := there.unique after
    rw [ends, next_ofMarch_last]

end Gregorian

end ChainProfile.Log
