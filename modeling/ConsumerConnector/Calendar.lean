/-! Days of the Gregorian calendar, counted from 1970-01-01. -/

namespace ConsumerConnector.Calendar

structure Date where
  year : Int
  month : Nat
  day : Nat
  deriving DecidableEq, Repr

def isLeap (year : Int) : Bool :=
  (year % 4 == 0 && year % 100 != 0) || year % 400 == 0

def daysIn (year : Int) : Nat → Nat
  | 2 => if isLeap year then 29 else 28
  | 4 | 6 | 9 | 11 => 30
  | _ => 31

def Date.isValid (d : Date) : Bool :=
  1 ≤ d.month && d.month ≤ 12 && 1 ≤ d.day && d.day ≤ daysIn d.year d.month

/-- Years are counted from March, so that the leap day comes last. -/
def Date.toDays (d : Date) : Int :=
  let year := if d.month ≤ 2 then d.year - 1 else d.year
  let month : Int := (d.month + 9) % 12
  year * 365 + year / 4 - year / 100 + year / 400 + (month * 153 + 2) / 5 + d.day - 719469

def Date.ofDays (days : Int) : Date :=
  let n := days + 719468
  let era := n / 146097
  let dayOfEra := n % 146097
  let yearOfEra := (dayOfEra - dayOfEra / 1460 + dayOfEra / 36524 - dayOfEra / 146096) / 365
  let dayOfYear := dayOfEra - (365 * yearOfEra + yearOfEra / 4 - yearOfEra / 100)
  let month := (5 * dayOfYear + 2) / 153
  let day := dayOfYear - (153 * month + 2) / 5 + 1
  let monthOfYear := if month < 10 then month + 3 else month - 9
  let year := yearOfEra + era * 400 + if monthOfYear ≤ 2 then 1 else 0
  ⟨year, monthOfYear.toNat, day.toNat⟩

end ConsumerConnector.Calendar
