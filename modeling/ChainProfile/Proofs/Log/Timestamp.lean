import Mathlib.Order.SuccPred.Archimedean
import ChainProfile.Proofs.Log.Calendar
import ChainProfile.Proofs.Text.Columns

/-! Times in the order of their texts. Each day has a later date than the day before it, and within a day
the clock only goes forward. Up to the year 10000 all numbers of a time fit their columns, so the
texts of times are in the order of the times. -/

namespace ChainProfile.Log

namespace Gregorian

variable {date : Gregorian} {z w : Int}

def fields (date : Gregorian) : List Int := [date.year, date.month, date.day]

theorem length_fields (date : Gregorian) : date.fields.length = 3 := rfl

theorem monthLength_le (year month : Int) : monthLength year month ≤ 31 := by
  unfold monthLength
  split
  · split <;> decide
  · split <;> decide

theorem fields_lt_next (date : Gregorian) : date.fields < date.next.fields := by
  unfold next
  split
  · simp [fields, List.cons_lt_cons_iff]
  · split <;> simp [fields, List.cons_lt_cons_iff]

def onDay (z : Int) : Gregorian := ofMarch (marchYear z) (marchDay z)

theorem valid_onDay (z : Int) : (onDay z).Valid := (falls z).valid

theorem onDay_succ (z : Int) : onDay (z + 1) = (onDay z).next := (falls z).next (falls (z + 1))

theorem fields_onDay_lt (before : z < w) : (onDay z).fields < (onDay w).fields := by
  have step (z : Int) : (onDay z).fields < (onDay (z + 1)).fields := by
    rw [onDay_succ]
    exact fields_lt_next (onDay z)
  exact strictMono_int_of_lt_succ step before

theorem year_onDay_le (order : z ≤ w) : (onDay z).year ≤ (onDay w).year := by
  obtain rfl | before := Int.le_iff_eq_or_lt.mp order
  · exact le_rfl
  · exact List.head_le_of_lt (fields_onDay_lt before)

theorem year_onDay_bounds (low : 719468 ≤ z) (high : z ≤ 3652364) :
    1970 ≤ (onDay z).year ∧ (onDay z).year ≤ 9999 := by
  have first : (onDay 719468).year = 1970 := by decide
  have last : (onDay 3652364).year = 9999 := by decide
  exact ⟨first ▸ year_onDay_le low, last ▸ year_onDay_le high⟩

end Gregorian

namespace Instant

open Date (gregorian gregorian_ofDays)
open Gregorian (fields length_fields onDay valid_onDay monthLength_le fields_onDay_lt
  year_onDay_bounds)
open Text (Column Fits RowFits columns append_lt_append_iff)

variable {s t : Instant}

/-- A time before the year 10000, less than a second behind its last full second. -/
structure Dated (t : Instant) : Prop where
  seconds : t.seconds < 253402300800
  millis : t.millis < 1000

def Earlier (s t : Instant) : Prop :=
  s.seconds < t.seconds ∨ s.seconds = t.seconds ∧ s.millis < t.millis

instance (s t : Instant) : Decidable (s.Earlier t) := inferInstanceAs (Decidable (_ ∨ _))

def days (t : Instant) : Nat := t.seconds.toNat / 86400

def secondOfDay (t : Instant) : Nat := t.seconds.toNat % 86400

def clock (t : Instant) : List Int :=
  [t.secondOfDay / 3600, t.secondOfDay % 3600 / 60, t.secondOfDay % 60, t.millis.toNat]

def date (t : Instant) : Gregorian := onDay (t.days + 719468)

def row (t : Instant) : List Int := t.date.fields ++ t.clock

def layout : List Column :=
  [{ width := 4, mark := "-" }, { width := 2, mark := "-" }, { width := 2, mark := "T" },
    { width := 2, mark := ":" }, { width := 2, mark := ":" }, { width := 2, mark := "." },
    { width := 3, mark := "Z" }]

theorem toInt_toInt64 {n : UInt64} (small : n.toNat < 2 ^ 63) : n.toInt64.toInt = n.toNat := by
  have word : n.toInt64.toInt = n.toBitVec.toInt := rfl
  have same : n.toBitVec.toNat = n.toNat := rfl
  rw [word, BitVec.toInt_eq_toNat_of_lt (by omega), same]

theorem days_le (dated : t.Dated) : t.days ≤ 2932896 := by
  have bound := UInt64.lt_iff_toNat_lt.mp dated.seconds
  have limit : (253402300800 : UInt64).toNat = 253402300800 := rfl
  unfold days
  omega

theorem gregorian_days (dated : t.Dated) :
    (Date.ofDays (t.seconds / 86400).toInt64).gregorian = t.date := by
  have bound := days_le dated
  have count : (t.seconds / 86400).toNat = t.days := UInt64.toNat_div t.seconds 86400
  have number : (t.seconds / 86400).toInt64.toInt = t.days := by
    rw [toInt_toInt64 (by omega), count]
  rw [gregorian_ofDays ⟨by omega, by omega⟩, number]
  rfl

theorem toList_render (dated : t.Dated) : t.render.toList = columns layout t.row := by
  have second : (t.seconds % 86400).toNat = t.secondOfDay := UInt64.toNat_mod t.seconds 86400
  rw [row, ← gregorian_days dated]
  simp only [render, second]
  generalize Date.ofDays (t.seconds / 86400).toInt64 = date
  simp only [toString, String.toList_append, List.append_assoc, columns, layout, fields, gregorian,
    clock, List.cons_append, List.nil_append, List.zipWith_cons_cons, List.zipWith_nil_left,
    List.flatten_cons, List.flatten_nil, List.append_nil, Column.text]

example : render ⟨1513862955, 7⟩ = "2017-12-21T13:29:15.007Z" := by rfl

theorem year_date_bounds (dated : t.Dated) : 1970 ≤ t.date.year ∧ t.date.year ≤ 9999 := by
  have bound := days_le dated
  exact year_onDay_bounds (by omega) (by omega)

theorem rowFits (dated : t.Dated) : RowFits layout t.row := by
  obtain ⟨since, before⟩ := year_date_bounds dated
  obtain ⟨⟨january, december⟩, start, ends⟩ : t.date.Valid := valid_onDay (t.days + 719468)
  have longest := monthLength_le t.date.year t.date.month
  have short : t.secondOfDay < 86400 := Nat.mod_lt _ (by decide)
  have millis := UInt32.lt_iff_toNat_lt.mp dated.millis
  have thousand : (1000 : UInt32).toNat = 1000 := rfl
  have two : 10 ^ 2 = 100 := by norm_num
  have three : 10 ^ 3 = 1000 := by norm_num
  have four : 10 ^ 4 = 10000 := by norm_num
  have year : Fits 4 t.date.year := .of_lt four (by omega) (by omega)
  have month : Fits 2 t.date.month := .of_lt two (by omega) (by omega)
  have day : Fits 2 t.date.day := .of_lt two (by omega) (by omega)
  have hour : Fits 2 ((t.secondOfDay : Int) / 3600) := .of_lt two (by omega) (by omega)
  have minute : Fits 2 ((t.secondOfDay : Int) % 3600 / 60) := .of_lt two (by omega) (by omega)
  have second : Fits 2 ((t.secondOfDay : Int) % 60) := .of_lt two (by omega) (by omega)
  have milli : Fits 3 t.millis.toNat := .of_lt three (by omega) (by omega)
  exact .cons year (.cons month (.cons day (.cons hour (.cons minute (.cons second
    (.cons milli .nil))))))

theorem clock_lt_clock (sameDay : s.days = t.days) (before : s.Earlier t) : s.clock < t.clock := by
  simp only [Earlier, UInt64.lt_iff_toNat_lt, UInt32.lt_iff_toNat_lt, ← UInt64.toNat_inj] at before
  simp only [clock, List.cons_lt_cons_iff, List.not_lt_nil, and_false, or_false]
  unfold days at sameDay
  unfold secondOfDay
  omega

theorem row_lt_row (before : s.Earlier t) : s.row < t.row := by
  have fields := (length_fields s.date).trans (length_fields t.date).symm
  rw [row, row, append_lt_append_iff fields]
  obtain earlier | same : s.days < t.days ∨ s.days = t.days := by
    simp only [Earlier, UInt64.lt_iff_toNat_lt, ← UInt64.toNat_inj] at before
    unfold days
    omega
  · exact .inl (fields_onDay_lt (by omega))
  · refine .inr ⟨?_, clock_lt_clock same before⟩
    rw [date, date, same]

theorem trichotomy (s t : Instant) : s.Earlier t ∨ s = t ∨ t.Earlier s := by
  obtain ⟨seconds, millis⟩ := s
  obtain ⟨seconds', millis'⟩ := t
  simp only [Earlier, mk.injEq, UInt64.lt_iff_toNat_lt, UInt32.lt_iff_toNat_lt, ← UInt64.toNat_inj,
    ← UInt32.toNat_inj]
  omega

theorem row_lt_row_iff : s.row < t.row ↔ s.Earlier t := by
  constructor
  · intro lower
    obtain before | rfl | after := trichotomy s t
    · exact before
    · exact absurd lower (List.lt_irrefl _)
    · exact absurd lower (lt_asymm (row_lt_row after))
  · exact row_lt_row

theorem row_inj : s.row = t.row ↔ s = t := by
  constructor
  · intro same
    obtain before | rfl | after := trichotomy s t
    · exact absurd same (row_lt_row before).ne
    · rfl
    · exact absurd same (row_lt_row after).ne'
  · exact congrArg row

/-- Times sort as their texts do, and no two times have the same text. -/
theorem render_lt_iff (left : s.Dated) (right : t.Dated) :
    (s.render < t.render ↔ s.Earlier t) ∧ (s.render = t.render ↔ s = t) := by
  have fits := rowFits left
  have fitsToo := rowFits right
  constructor
  · rw [String.lt_iff_toList_lt, toList_render left, toList_render right,
      Text.columns_lt_iff fits fitsToo, row_lt_row_iff]
  · rw [← String.toList_inj, toList_render left, toList_render right,
      Text.columns_inj fits fitsToo, row_inj]

theorem render_lt_iff_lastMillisecond :
    let before : Instant := ⟨946684799, 999⟩
    let after : Instant := ⟨946684800, 0⟩
    let last : Instant := ⟨253402300799, 999⟩
    before.Dated ∧ after.Dated ∧ last.Dated ∧ before.render < after.render ∧
      after.render < last.render ∧ before.render ≠ last.render := by
  intro before after last
  have first : before.Dated := ⟨by decide, by decide⟩
  have second : after.Dated := ⟨by decide, by decide⟩
  have third : last.Dated := ⟨by decide, by decide⟩
  exact ⟨first, second, third, (render_lt_iff first second).1.mpr (by decide),
    (render_lt_iff second third).1.mpr (by decide),
    mt (render_lt_iff first third).2.mp (by decide)⟩

end Instant

end ChainProfile.Log
