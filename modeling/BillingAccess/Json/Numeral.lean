/-
JSON numbers as written.

A numeral without a point and an exponent is a whole number while it fits 64
bits.  Of any other the first digits that fit 64 bits count, and the double is
that significand times or over a power of ten, each rounded once.
-/
import BillingAccess.Json.Value
import BillingAccess.Text.Digits

namespace BillingAccess.Json

open BillingAccess.Decimal

/-- A significand and a power of ten, read digit by digit. -/
structure Mantissa where
  significand : Nat
  exponent : Int
  /-- A digit no longer fitted. -/
  full : Bool
deriving Repr, DecidableEq

/-- One more digit before the point; those that no longer fit only count. -/
def Mantissa.whole (m : Mantissa) (d : Nat) : Mantissa :=
  if m.full then { m with exponent := m.exponent + 1 }
  else if m.significand * 10 + d ≤ greatest64 then
    { m with significand := m.significand * 10 + d }
  else { m with exponent := m.exponent + 1, full := true }

/-- One more digit after the point; those that no longer fit are dropped. -/
def Mantissa.part (m : Mantissa) (d : Nat) : Mantissa :=
  if m.full then m
  else if m.significand * 10 + d ≤ greatest64 then
    { m with significand := m.significand * 10 + d, exponent := m.exponent - 1 }
  else { m with full := true }

/-- The pieces of a numeral. -/
structure Numeral where
  negative : Bool
  whole : List Nat
  part : Option (List Nat)
  exponent : Option (Bool × List Nat)
deriving Repr, DecidableEq

/-- The double of a significand and a power of ten, unless it is too large.
Powers beyond the greatest are taken in steps, downwards only; a significand of
64 bits has become zero after three. -/
def scale : Nat → Float → Int → Option Float
  | 0, f, _ => some f
  | fuel + 1, f, exponent =>
      if exponent.natAbs ≤ 308 then
        let power := Float.ofScientific 1 false exponent.natAbs
        if 0 ≤ exponent then
          let product := f * power
          if product.isInf then none else some product
        else some (f / power)
      else if f == 0.0 then some f
      else if 0 ≤ exponent then none
      else scale fuel (f / Float.ofScientific 1 false 308) (exponent + 308)

/-- The exponent as written, as far as it can matter. -/
def readExponent (digits : List Nat) : Option Nat :=
  let n := digits.foldl (fun n d => n * 10 + d) 0
  if n ≤ 0x7FFFFFFF then some n else none

/-- The double of a numeral with a point, an exponent or too many digits. -/
def Numeral.real? (n : Numeral) (m : Mantissa) : Option Float :=
  let sign := fun f : Float => if n.negative then -f else f
  let start := (UInt64.ofNat m.significand).toFloat
  match n.exponent with
  | none => (scale 4 start m.exponent).map sign
  | some (down, digits) =>
      match readExponent digits with
      | some e =>
          let exponent := if down then m.exponent - Int.ofNat e else m.exponent + Int.ofNat e
          (scale 4 start exponent).map sign
      | none => if m.significand ≠ 0 ∧ !down then none else some (sign 0.0)

/-- The number that a numeral spells, unless it is too large for a double. -/
def Numeral.number? (n : Numeral) : Option Number :=
  let m := n.whole.foldl Mantissa.whole ⟨0, 0, false⟩
  match n.part, n.exponent with
  | none, none =>
      if m.full then (n.real? m).map .real
      else if !n.negative then some (.whole m.significand)
      else if m.significand = 0 ∨ -Int.ofNat m.significand < Int64.minValue.toInt then
        some (.real (-(UInt64.ofNat m.significand).toFloat))
      else some (.whole (-Int.ofNat m.significand))
  | part, _ =>
      -- Digits after the point are tried afresh, even when one before it did not fit.
      let m := (part.getD []).foldl Mantissa.part { m with full := false }
      (n.real? m).map .real

end BillingAccess.Json
