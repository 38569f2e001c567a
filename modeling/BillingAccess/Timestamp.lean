/-
Moments as dates and times of day, in universal time.

Days are counted from the first of January 1970.  The calendar repeats itself
every 400 years, which have 146097 days; within them years are counted from
March, so that a leap day is the last day of its year.
-/
import BillingAccess.Text.Digits

namespace BillingAccess

structure Date where
  year : Int
  month : Nat
  day : Nat
deriving Repr, DecidableEq

namespace Date

/-- The days of 400 years. -/
def cycle : Int := 146097

/-- The day of the first of March of the year 0, counted back from 1970. -/
def marchDay : Int := 719468

/-- The years that are over on a day of the cycle. -/
def yearOfCycle (day : Nat) : Nat :=
  (day - day / 1460 + day / 36524 - day / 146096) / 365

/-- The date of a day. -/
def ofDay (day : Int) : Date :=
  let shifted := day + marchDay
  let dayOfCycle := (Int.fmod shifted cycle).toNat
  let year := yearOfCycle dayOfCycle
  let dayOfYear := dayOfCycle - (365 * year + year / 4 - year / 100)
  let month := (5 * dayOfYear + 2) / 153
  let fullYear := Int.fdiv shifted cycle * 400 + Int.ofNat year
  { year := if month < 10 then fullYear else fullYear + 1
    month := if month < 10 then month + 3 else month - 9
    day := dayOfYear - (153 * month + 2) / 5 + 1 }

/-- A year has four digits, and a sign if it needs more or lies before year 0. -/
def yearText (year : Int) : List Char :=
  if 0 ≤ year ∧ year ≤ 9999 then Decimal.padNat 4 year.toNat
  else (if year < 0 then '-' else '+') :: Decimal.padNat 4 year.natAbs

def text (date : Date) : List Char :=
  yearText date.year ++ '-' :: Decimal.padNat 2 date.month ++ '-' :: Decimal.padNat 2 date.day

end Date

namespace Timestamp

/-- The first and the last year that are shown. -/
def years : Int × Int := (-262143, 262142)

/-- The time of day after some milliseconds; whole seconds show no fraction. -/
def timeOfDay (milliseconds : Nat) : List Char :=
  let seconds := milliseconds / 1000
  let fraction := milliseconds % 1000
  Decimal.padNat 2 (seconds / 3600) ++ ':' :: Decimal.padNat 2 (seconds / 60 % 60)
    ++ ':' :: Decimal.padNat 2 (seconds % 60)
    ++ if fraction = 0 then [] else '.' :: Decimal.padNat 3 fraction

/-- A moment given in milliseconds, if its year can be shown. -/
def text? (milliseconds : Int) : Option String :=
  let date := Date.ofDay (Int.fdiv milliseconds 86400000)
  if years.1 ≤ date.year ∧ date.year ≤ years.2 then
    some (String.ofList (date.text ++ 'T' :: timeOfDay (Int.fmod milliseconds 86400000).toNat
      ++ "+00:00".toList))
  else none

/-- A moment, or its number if its year cannot be shown. -/
def text (milliseconds : Int64) : String :=
  (text? milliseconds.toInt).getD (Decimal.ofInt milliseconds.toInt)

end Timestamp

example : Timestamp.text? 951782400000 = some "2000-02-29T00:00:00+00:00" := by decide +kernel
example : Timestamp.text? (-1) = some "1969-12-31T23:59:59.999+00:00" := by decide +kernel
example : Timestamp.text? 8210266876800000 = none := by decide +kernel

end BillingAccess
