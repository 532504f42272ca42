import ChainProfile.Log.Calendar
import ChainProfile.Proofs.Log.Era

/-! Dates of day numbers. The steps of the conversion are written once more over whole numbers, each
refused where its number leaves the range of its type. Up to about two thousand million years from 1970
none is refused, and the words of the conversion hold the same numbers. So the dates are those of the
calendar, one for each day. -/

namespace ChainProfile.Log

namespace Date

open Gregorian

variable {n m : Int} {v w : UInt32} {days doe yoe doy mp z : Int}

def gregorian (date : Date) : Gregorian := ⟨date.year.toInt, date.month.toNat, date.day.toNat⟩

def ranged (low high n : Int) : Option Int := if low ≤ n ∧ n < high then some n else none

abbrev signed64 : Int → Option Int := ranged (-2 ^ 63) (2 ^ 63)

abbrev signed32 : Int → Option Int := ranged (-2 ^ 31) (2 ^ 31)

abbrev unsigned32 : Int → Option Int := ranged 0 (2 ^ 32)

theorem ranged_eq {low high : Int} (above : low ≤ n) (below : n < high) :
    ranged low high n = some n :=
  if_pos ⟨above, below⟩

def dayOfEra? (z : Int) : Option Int := do
  let start ← signed64 (z / 146097 * 146097)
  let offset ← signed64 (z - start)
  unsigned32 offset

def yearOfEra? (doe : Int) : Option Int := do
  let days ← unsigned32 (doe - doe / 1460)
  let days ← unsigned32 (days + doe / 36524)
  let days ← unsigned32 (days - doe / 146096)
  return days / 365

def dayOfYear? (doe yoe : Int) : Option Int := do
  let days ← unsigned32 (365 * yoe)
  let days ← unsigned32 (days + yoe / 4)
  let days ← unsigned32 (days - yoe / 100)
  unsigned32 (doe - days)

def monthFromMarch? (doy : Int) : Option Int := do
  let fifths ← unsigned32 (5 * doy)
  let fifths ← unsigned32 (fifths + 2)
  return fifths / 153

def month? (mp : Int) : Option Int := if mp < 10 then unsigned32 (mp + 3) else unsigned32 (mp - 9)

def day? (doy mp : Int) : Option Int := do
  let fifths ← unsigned32 (153 * mp)
  let fifths ← unsigned32 (fifths + 2)
  let before ← unsigned32 (doy - fifths / 5)
  unsigned32 (before + 1)

def year? (yoe era month : Int) : Option Int := do
  let inEra ← signed32 yoe
  let era ← signed32 era
  let start ← signed32 (era * 400)
  let year ← signed32 (inEra + start)
  signed32 (year + if month ≤ 2 then 1 else 0)

/-- The steps over whole numbers, in the order of the conversion. -/
def ofDays? (days : Int) : Option Gregorian := do
  let z ← signed64 (days + 719468)
  let doe ← dayOfEra? z
  let yoe ← yearOfEra? doe
  let doy ← dayOfYear? doe yoe
  let mp ← monthFromMarch? doy
  let day ← day? doy mp
  let month ← month? mp
  let year ← year? yoe (z / 146097) month
  return ⟨year, month, day⟩

theorem dayOfEra?_eq (low : -2 ^ 62 ≤ z) (high : z < 2 ^ 62) :
    dayOfEra? z = some (z % 146097) := by
  have offset : z - z / 146097 * 146097 = z % 146097 := by omega
  simp (disch := omega) only [dayOfEra?, ranged_eq, Option.bind_eq_bind,
    Option.bind_some, offset]

theorem yearOfEra?_eq (start : 0 ≤ doe) (inside : doe < 146097) :
    yearOfEra? doe = some (yearIn doe) := by
  simp (disch := omega) only [yearOfEra?, ranged_eq, Option.bind_eq_bind, Option.bind_some]
  rfl

theorem dayOfYear?_eq (low : 0 ≤ yoe) (high : yoe < 400) (since : marchStart yoe ≤ doe)
    (inside : doe < 146097) : dayOfYear? doe yoe = some (doe - marchStart yoe) := by
  have days : 365 * yoe + yoe / 4 - yoe / 100 = marchStart yoe := by
    unfold marchStart
    omega
  have short : 0 ≤ marchStart yoe := by
    rw [← days]
    omega
  simp (disch := omega) only [dayOfYear?, ranged_eq, Option.bind_eq_bind, Option.bind_some, days]

theorem monthFromMarch?_eq (start : 0 ≤ doy) (inside : doy < 366) :
    monthFromMarch? doy = some ((5 * doy + 2) / 153) := by
  simp (disch := omega) only [monthFromMarch?, ranged_eq, Option.bind_eq_bind, Option.bind_some]
  rfl

theorem month?_eq (low : 0 ≤ mp) (high : mp ≤ 11) : month? mp = some (monthOf mp) := by
  unfold month? monthOf
  split
  · exact ranged_eq (by omega) (by omega)
  · exact ranged_eq (by omega) (by omega)

theorem day?_eq (low : 0 ≤ mp) (high : mp ≤ 11) (since : firstDay mp ≤ doy) (inside : doy < 366) :
    day? doy mp = some (doy - firstDay mp + 1) := by
  unfold firstDay at since ⊢
  simp (disch := omega) only [day?, ranged_eq, Option.bind_eq_bind, Option.bind_some]

structure Near (days : Int) : Prop where
  low : -784000000000 ≤ days
  high : days ≤ 784000000000

theorem year?_eq (near : Near days) (low : 0 ≤ yoe) (high : yoe < 400) :
    year? yoe ((days + 719468) / 146097) (monthOf mp) =
      some (yearOf (yoe + (days + 719468) / 146097 * 400) mp) := by
  obtain ⟨since, before⟩ := near
  unfold yearOf
  have extra : 0 ≤ (if monthOf mp ≤ 2 then 1 else 0 : Int) ∧
      (if monthOf mp ≤ 2 then 1 else 0 : Int) ≤ 1 := by split <;> decide
  simp (disch := omega) only [year?, ranged_eq, Option.bind_eq_bind, Option.bind_some]

theorem ofDays?_eq (near : Near days) :
    ofDays? days = some (ofMarch (marchYear (days + 719468)) (marchDay (days + 719468))) := by
  have low := near.low
  have high := near.high
  have falls := falls (days + 719468)
  have short := marchDay_lt (days + 719468)
  obtain ⟨mp, within⟩ := exists_inMonth falls.start falls.inside
  have start := Int.emod_nonneg (days + 719468) (by decide : (146097 : Int) ≠ 0)
  have inside := Int.emod_lt_of_pos (days + 719468) (by decide : (0 : Int) < 146097)
  obtain ⟨⟨first, last⟩, since, -⟩ := yearIn_spec start inside
  have day : dayOfYear? ((days + 719468) % 146097) (yearIn ((days + 719468) % 146097)) =
      some (marchDay (days + 719468)) := dayOfYear?_eq first last since inside
  have month := monthFromMarch?_eq falls.start short
  rw [within.month_eq] at month
  have shifted : signed64 (days + 719468) = some (days + 719468) :=
    ranged_eq (by omega) (by omega)
  rw [within.ofMarch_eq]
  simp only [ofDays?, Option.bind_eq_bind, Option.bind_some, shifted,
    dayOfEra?_eq (by omega : -2 ^ 62 ≤ days + 719468) (by omega), yearOfEra?_eq start inside, day,
    month, day?_eq within.low within.high within.start short, month?_eq within.low within.high,
    year?_eq near first last]
  rfl

def Holds (w : UInt32) (n : Int) : Prop := (w.toNat : Int) = n

theorem Holds.add (left : Holds v n) (right : Holds w m) (fits : n + m < 2 ^ 32) :
    Holds (v + w) (n + m) := by
  unfold Holds at *
  rw [UInt32.toNat_add]
  omega

theorem Holds.sub (left : Holds v n) (right : Holds w m) (fits : m ≤ n) :
    Holds (v - w) (n - m) := by
  unfold Holds at *
  rw [UInt32.toNat_sub_of_le _ _ (UInt32.le_iff_toNat_le.mpr (by omega))]
  omega

theorem Holds.mul (left : Holds v n) (right : Holds w m) (fits : n * m < 2 ^ 32) :
    Holds (v * w) (n * m) := by
  unfold Holds at *
  subst left right
  rw [UInt32.toNat_mul, Nat.mod_eq_of_lt (by exact_mod_cast fits), Int.natCast_mul]

theorem Holds.div (left : Holds v n) (right : Holds w m) : Holds (v / w) (n / m) := by
  unfold Holds at *
  subst left right
  rw [UInt32.toNat_div, Int.natCast_ediv]

theorem Holds.yearOfEra (holds : Holds v doe) (start : 0 ≤ doe) (inside : doe < 146097) :
    Holds (Date.yearOfEra v) (yearIn doe) := by
  have leap : Holds (v - v / 1460) (doe - doe / 1460) := holds.sub (holds.div rfl) (by omega)
  have century : Holds (v - v / 1460 + v / 36524) (doe - doe / 1460 + doe / 36524) :=
    leap.add (holds.div rfl) (by omega)
  have last : Holds (v - v / 1460 + v / 36524 - v / 146096)
      (doe - doe / 1460 + doe / 36524 - doe / 146096) := century.sub (holds.div rfl) (by omega)
  exact last.div rfl

theorem Holds.dayOfYear (days : Holds v doe) (year : Holds w yoe) (low : 0 ≤ yoe)
    (high : yoe < 400) (since : marchStart yoe ≤ doe) :
    Holds (Date.dayOfYear v w) (doe - marchStart yoe) := by
  have whole : Holds (365 * w) (365 * yoe) := Holds.mul rfl year (by omega)
  have leap : Holds (365 * w + w / 4) (365 * yoe + yoe / 4) := whole.add (year.div rfl) (by omega)
  have century : Holds (365 * w + w / 4 - w / 100) (365 * yoe + yoe / 4 - yoe / 100) :=
    leap.sub (year.div rfl) (by omega)
  have start : 365 * yoe + yoe / 4 - yoe / 100 = marchStart yoe := by
    unfold marchStart
    omega
  rw [start] at century
  exact days.sub century since

theorem Holds.monthFromMarch (holds : Holds v doy) (inside : doy < 366) :
    Holds (Date.monthFromMarch v) ((5 * doy + 2) / 153) := by
  have fifths : Holds (5 * v) (5 * doy) := Holds.mul rfl holds (by omega)
  have shifted : Holds (5 * v + 2) (5 * doy + 2) := fifths.add rfl (by omega)
  exact shifted.div rfl

theorem Holds.month (holds : Holds w mp) (low : 0 ≤ mp) (high : mp ≤ 11) :
    Holds (if w < 10 then w + 3 else w - 9) (monthOf mp) := by
  have early : w < 10 ↔ mp < 10 := by
    rw [UInt32.lt_iff_toNat_lt, ← Int.ofNat_lt, holds]
    rfl
  unfold monthOf
  by_cases below : mp < 10
  · rw [if_pos (early.mpr below), if_pos below]
    exact holds.add rfl (by omega)
  · rw [if_neg (mt early.mp below), if_neg below]
    exact holds.sub rfl (by omega)

theorem Holds.day (days : Holds v doy) (month : Holds w mp) (low : 0 ≤ mp) (high : mp ≤ 11)
    (since : firstDay mp ≤ doy) (inside : doy < 366) :
    Holds (v - (153 * w + 2) / 5 + 1) (doy - firstDay mp + 1) := by
  have fifths : Holds (153 * w) (153 * mp) := Holds.mul rfl month (by omega)
  have shifted : Holds (153 * w + 2) (153 * mp + 2) := fifths.add rfl (by omega)
  have before : Holds (v - (153 * w + 2) / 5) (doy - firstDay mp) :=
    days.sub (shifted.div rfl) since
  unfold firstDay at since before ⊢
  exact before.add rfl (by omega)

theorem bmod_word32 (low : -2 ^ 31 ≤ n) (high : n < 2 ^ 31) : n.bmod (2 ^ 32) = n :=
  Int.bmod_eq_of_le low (by omega)

theorem bmod_word64 (low : -2 ^ 63 ≤ n) (high : n < 2 ^ 63) : n.bmod (2 ^ 64) = n :=
  Int.bmod_eq_of_le low (by omega)

theorem toInt_era {z : Int64} : (era z).toInt = z.toInt / 146097 := by
  have low := z.le_toInt
  have high := z.toInt_lt
  exact Int64.toInt_ofInt_of_le (by omega) (by omega)

theorem holds_dayOfEra {z : Int64} (low : -2 ^ 62 ≤ z.toInt) (high : z.toInt < 2 ^ 62) :
    Holds (dayOfEra z) (z.toInt % 146097) := by
  have start : (era z * 146097).toInt = z.toInt / 146097 * 146097 := by
    have factor : (146097 : Int64).toInt = 146097 := rfl
    rw [Int64.toInt_mul, toInt_era, factor]
    exact bmod_word64 (by omega) (by omega)
  have offset : (z - era z * 146097).toInt = z.toInt % 146097 := by
    rw [Int64.toInt_sub, start, bmod_word64 (by omega) (by omega)]
    omega
  have positive : 0 ≤ z - era z * 146097 := by
    rw [Int64.le_iff_toInt_le, offset]
    exact Int.emod_nonneg _ (by decide)
  unfold Holds dayOfEra
  rw [UInt64.toNat_toUInt32, Int64.toNat_toUInt64_of_le positive, Int64.toNatClampNeg, offset]
  omega

theorem Holds.toInt32 (holds : Holds v n) (small : n < 2 ^ 31) : v.toInt32.toInt = n := by
  unfold Holds at holds
  have word : v.toInt32.toInt = v.toBitVec.toInt := rfl
  rw [word, BitVec.toInt_eq_toNat_of_lt]
  · exact holds
  · have same : v.toBitVec.toNat = v.toNat := rfl
    omega

theorem Holds.year {z : Int64} (year : Holds v yoe) (month : Holds w (monthOf mp)) (low : 0 ≤ yoe)
    (high : yoe < 400) (since : -5367000 ≤ z.toInt / 146097) (before : z.toInt / 146097 ≤ 5367000) :
    (v.toInt32 + (era z).toInt32 * 400 + if w ≤ 2 then 1 else 0).toInt =
      yearOf (yoe + z.toInt / 146097 * 400) mp := by
  have narrow : (era z).toInt32.toInt = z.toInt / 146097 := by
    rw [Int64.toInt_toInt32, toInt_era]
    exact bmod_word32 (by omega) (by omega)
  have start : ((era z).toInt32 * 400).toInt = z.toInt / 146097 * 400 := by
    have factor : (400 : Int32).toInt = 400 := rfl
    rw [Int32.toInt_mul, narrow, factor]
    exact bmod_word32 (by omega) (by omega)
  have whole : (v.toInt32 + (era z).toInt32 * 400).toInt = yoe + z.toInt / 146097 * 400 := by
    rw [Int32.toInt_add, year.toInt32 (by omega), start]
    exact bmod_word32 (by omega) (by omega)
  have late : w ≤ 2 ↔ monthOf mp ≤ 2 := by
    rw [UInt32.le_iff_toNat_le, ← Int.ofNat_le, month]
    rfl
  unfold yearOf
  by_cases next : monthOf mp ≤ 2
  · have one : (1 : Int32).toInt = 1 := rfl
    rw [if_pos (late.mpr next), if_pos next, Int32.toInt_add, whole, one]
    exact bmod_word32 (by omega) (by omega)
  · rw [if_neg (mt late.mp next), if_neg next, Int32.toInt_add, whole, Int32.toInt_zero]
    exact bmod_word32 (by omega) (by omega)

theorem gregorian_ofDays {days : Int64} (near : Near days.toInt) :
    (ofDays days).gregorian =
      ofMarch (marchYear (days.toInt + 719468)) (marchDay (days.toInt + 719468)) := by
  obtain ⟨low, high⟩ := near
  have shifted : (days + epochOffset).toInt = days.toInt + 719468 := by
    have offset : epochOffset.toInt = 719468 := rfl
    rw [Int64.toInt_add, offset]
    exact bmod_word64 (by omega) (by omega)
  have falls := falls (days + epochOffset).toInt
  have short := marchDay_lt (days + epochOffset).toInt
  obtain ⟨mp, within⟩ := exists_inMonth falls.start falls.inside
  have start := Int.emod_nonneg (days + epochOffset).toInt (by decide : (146097 : Int) ≠ 0)
  have inside := Int.emod_lt_of_pos (days + epochOffset).toInt (by decide : (0 : Int) < 146097)
  obtain ⟨⟨first, last⟩, since, -⟩ := yearIn_spec start inside
  have doe := holds_dayOfEra (z := days + epochOffset) (by omega) (by omega)
  have yoe := doe.yearOfEra start inside
  have doy := doe.dayOfYear yoe first last since
  have number := doy.monthFromMarch short
  have month : Holds _ mp := within.month_eq ▸ number
  rw [← shifted, within.ofMarch_eq]
  ext
  · exact Holds.year yoe (month.month within.low within.high) first last (by omega) (by omega)
  · exact month.month within.low within.high
  · exact doy.day month within.low within.high within.start short

/-- The first day is New Year's Day of 1970. Up to 700 thousand million days from it no step leaves the
range of its type, the dates are in the calendar, and that of the next day is the next date. -/
theorem ofDays_gregorian :
    (ofDays 0).gregorian = ⟨1970, 1, 1⟩ ∧
    ∀ days : Int64, days.toInt.natAbs ≤ 700000000000 →
      ofDays? days.toInt = some (ofDays days).gregorian ∧
        (ofDays days).gregorian.Valid ∧
        (ofDays (days + 1)).gregorian = (ofDays days).gregorian.next := by
  refine ⟨by rfl, ?_⟩
  intro days bound
  have near : Near days.toInt := ⟨by omega, by omega⟩
  have later : (days + 1).toInt = days.toInt + 1 := by
    rw [Int64.toInt_add, Int64.toInt_one]
    exact bmod_word64 (by omega) (by omega)
  have nearToo : Near (days + 1).toInt := ⟨by omega, by omega⟩
  have here := falls (days.toInt + 719468)
  have there := falls (days.toInt + 719468 + 1)
  rw [gregorian_ofDays near, gregorian_ofDays nearToo, later, Int.add_right_comm]
  exact ⟨ofDays?_eq near, here.valid, here.next there⟩

theorem ofDays_gregorian_leapCentury :
    (ofDays 11015).gregorian = ⟨2000, 2, 28⟩ ∧ (ofDays 11016).gregorian = ⟨2000, 2, 29⟩ ∧
      (ofDays 11017).gregorian = ⟨2000, 3, 1⟩ ∧
      (-700000000000 : Int64).toInt.natAbs ≤ 700000000000 ∧
      ofDays? (-700000000000 : Int64).toInt = some (ofDays (-700000000000)).gregorian ∧
      (ofDays (-700000000000)).gregorian.Valid ∧
      (ofDays (-700000000000 + 1)).gregorian = (ofDays (-700000000000)).gregorian.next := by
  have before : (ofDays 11015).gregorian = ⟨2000, 2, 28⟩ := by rfl
  have leap : (ofDays 11016).gregorian = ⟨2000, 2, 29⟩ :=
    (ofDays_gregorian.2 11015 (by decide)).2.2.trans (by rw [before]; rfl)
  have after : (ofDays 11017).gregorian = ⟨2000, 3, 1⟩ :=
    (ofDays_gregorian.2 11016 (by decide)).2.2.trans (by rw [leap]; rfl)
  have first : (-700000000000 : Int64).toInt.natAbs ≤ 700000000000 := by decide
  exact ⟨before, leap, after, first, ofDays_gregorian.2 (-700000000000) first⟩

end Date

end ChainProfile.Log
