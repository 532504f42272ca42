import ChainProfile.Text.Decimal

/-! Instants and their dates. Days are counted from 1970-01-01 in the Gregorian calendar, in years
that start in March, so that the leap day ends its year; 400 such years are an era of 146097 days. -/

namespace ChainProfile.Log

structure Date where
  year : Int32
  month : UInt32
  day : UInt32
  deriving DecidableEq, Repr

namespace Date

/-- Days from the start of an era in March to the first day of 1970. -/
def epochOffset : Int64 := 719468

def era (z : Int64) : Int64 := Int64.ofInt (z.toInt / 146097)

def dayOfEra (z : Int64) : UInt32 := (z - era z * 146097).toUInt64.toUInt32

def yearOfEra (doe : UInt32) : UInt32 := (doe - doe / 1460 + doe / 36524 - doe / 146096) / 365

def dayOfYear (doe yoe : UInt32) : UInt32 := doe - (365 * yoe + yoe / 4 - yoe / 100)

def monthFromMarch (doy : UInt32) : UInt32 := (5 * doy + 2) / 153

def ofDays (days : Int64) : Date :=
  let z := days + epochOffset
  let doe := dayOfEra z
  let yoe := yearOfEra doe
  let doy := dayOfYear doe yoe
  let mp := monthFromMarch doy
  let month := if mp < 10 then mp + 3 else mp - 9
  { year := yoe.toInt32 + (era z).toInt32 * 400 + (if month ≤ 2 then 1 else 0)
    month
    day := doy - (153 * mp + 2) / 5 + 1 }

end Date

structure Instant where
  seconds : UInt64
  millis : UInt32
  deriving DecidableEq, Repr

namespace Instant

open Text.Decimal (padded)

def epoch : Instant := ⟨0, 0⟩

/-- What lies before 1970 counts as 1970. -/
def ofClock (seconds : Int64) (nanos : UInt32) : Instant :=
  let total := (seconds.toInt * 1000000000 + nanos.toNat).toNat
  ⟨UInt64.ofNat (total / 1000000000), UInt32.ofNat (total % 1000000000 / 1000000)⟩

def stamp (t : Instant) : UInt64 :=
  UInt64.ofNat (min (1000 * t.seconds.toNat + t.millis.toNat) 0xffffffffffffffff)

def render (t : Instant) : String :=
  let date := Date.ofDays (t.seconds / 86400).toInt64
  let second := (t.seconds % 86400).toNat
  let day := s!"{padded 4 date.year.toInt}-{padded 2 date.month.toNat}-{padded 2 date.day.toNat}"
  let time := s!"{padded 2 (second / 3600)}:{padded 2 (second % 3600 / 60)}:{padded 2 (second % 60)}"
  s!"{day}T{time}.{padded 3 t.millis.toNat}Z"

end Instant

end ChainProfile.Log
