/-
The fewest decimal digits that read back to a double.

The numbers that read back to a double form an interval around it.  For one
digit, two digits and so on, the two neighbours of the value on that decimal
grid are tried; the first grid that has one in the interval decides, the
nearer neighbour if both are, the even one if they are equally near.
-/
import BillingAccess.Text.Digits
import BillingAccess.Decimal.Binary

namespace BillingAccess.Decimal

/-- `digits * 10 ^ exponent`. -/
structure Scientific where
  digits : Nat
  exponent : Int
deriving Repr, DecidableEq

/-- Three points in quarters of the last place: the value and the ends of the
interval that reads back to it.  Below a power of two the interval is half as
long.  The ends belong to it when the significand is even. -/
structure Interval where
  value : Ratio
  low : Ratio
  high : Ratio
  closed : Bool
deriving Repr

def Interval.ofBinary (b : Binary) : Interval :=
  let m := 4 * b.significand
  let e := b.exponent - 2
  let under := if b.significand = leadingBit ∧ -1074 < b.exponent then 1 else 2
  { value := .scaled m e
    low := .scaled (m - under) e
    high := .scaled (m + 2) e
    closed := b.significand % 2 = 0 }

/-- Whether `n * 10 ^ p` reads back. -/
def Interval.holds (i : Interval) (n : Nat) (p : Int) : Bool :=
  let low := i.low.shift (-p)
  let high := i.high.shift (-p)
  if i.closed then low.num ≤ n * low.den && n * high.den ≤ high.num
  else low.num < n * low.den && n * high.den < high.num

/-- The neighbour of the value on the grid of `10 ^ p` that reads back. -/
def Interval.onGrid? (i : Interval) (p : Int) : Option Nat :=
  let v := i.value.shift (-p)
  let n := v.floor
  match i.holds n p && n != 0, i.holds (n + 1) p with
  | true, true => some v.round
  | true, false => some n
  | false, true => some (n + 1)
  | false, false => none

/-- The number of digits before the point, counted on below zero for the zeros
right after it. -/
def leadingPlaces : Nat → Ratio → Int
  | 0, _ => 0
  | fuel + 1, r =>
      if r.den ≤ r.num then Int.ofNat (writeNat r.floor).length
      else leadingPlaces fuel (r.shift 1) - 1

/-- Drops the zeros at the end of the digits. -/
def Scientific.reduce : Nat → Scientific → Scientific
  | 0, s => s
  | fuel + 1, s =>
      if s.digits % 10 = 0 ∧ s.digits ≠ 0 then
        Scientific.reduce fuel ⟨s.digits / 10, s.exponent + 1⟩
      else s

/-- Tries one digit more until a grid has a hit. -/
def Interval.search (i : Interval) (places : Int) : Nat → Nat → Scientific
  | 0, count => ⟨(i.value.shift (Int.ofNat count - places)).round, places - Int.ofNat count⟩
  | fuel + 1, count =>
      match i.onGrid? (places - Int.ofNat count) with
      | some n => ⟨n, places - Int.ofNat count⟩
      | none => i.search places fuel (count + 1)

/-- The shortest digits of the magnitude of a finite double. -/
def Binary.shortest (b : Binary) : Scientific :=
  if b.significand = 0 then ⟨0, 0⟩
  else
    let i := Interval.ofBinary b
    (i.search (leadingPlaces 400 i.value) 17 1).reduce 20

example : (Binary.mk false 3602879701896397 (-55)).shortest = ⟨1, -1⟩ := by decide +kernel
example : (Binary.mk false 1 (-1074)).shortest = ⟨5, -324⟩ := by decide +kernel

end BillingAccess.Decimal
