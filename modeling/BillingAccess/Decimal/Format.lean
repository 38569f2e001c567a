/-
Texts of doubles: positional or with an exponent from the shortest digits, and
with a fixed number of places.
-/
import BillingAccess.Decimal.Shortest

namespace BillingAccess.Decimal

/-- The digits with `point` of them before the point, and zeros where there
are none. -/
def positional (digits : List Char) (point : Int) (wholeTail : List Char) : List Char :=
  if point ≤ 0 then
    '0' :: '.' :: (List.replicate (-point).toNat '0' ++ digits)
  else
    let before := point.toNat
    if digits.length ≤ before then
      digits ++ List.replicate (before - digits.length) '0' ++ wholeTail
    else digits.take before ++ '.' :: digits.drop before

/-- How a double is written where its shortest digits are wanted. -/
structure RealFormat where
  /-- What follows a whole number. -/
  wholeTail : String
  /-- Positions of the point, counted from before the first digit, for which
  no exponent is written; `none` writes every number positionally. -/
  positionalRange : Option (Int × Int)
deriving Repr

/-- Numbers of a report: every digit is written out, whole numbers bare. -/
def RealFormat.plain : RealFormat := ⟨"", none⟩

/-- Numbers of a data file: whole numbers keep a zero after the point, and very
large and very small ones have an exponent. -/
def RealFormat.data : RealFormat := ⟨".0", some (-4, 16)⟩

/-- One digit, the rest after a point, and the power of ten. -/
def scientific (digits : List Char) (point : Int) : List Char :=
  match digits with
  | [] => []
  | first :: [] => first :: 'e' :: writeInt (point - 1)
  | first :: rest => first :: '.' :: rest ++ 'e' :: writeInt (point - 1)

/-- The text of a finite double. -/
def RealFormat.write (format : RealFormat) (b : Binary) : List Char :=
  let s := b.shortest
  let digits := writeNat s.digits
  let point := if s.digits = 0 then 1 else Int.ofNat digits.length + s.exponent
  let body :=
    match format.positionalRange with
    | some (low, high) =>
        if low ≤ point ∧ point ≤ high then positional digits point format.wholeTail.toList
        else scientific digits point
    | none => positional digits point format.wholeTail.toList
  if b.negative then '-' :: body else body

/-- A double with every digit written out. -/
def ofFloat (x : Float) : String :=
  match Double.ofFloat x with
  | .finite b => String.ofList (RealFormat.plain.write b)
  | .infinite negative => if negative then "-inf" else "inf"
  | .undefined => "NaN"

/-- The magnitude with exactly `places` digits after the point, from the exact
value; a half goes to the even neighbour. -/
def Binary.fixed (places : Nat) (b : Binary) : List Char :=
  let n := ((Ratio.scaled b.significand b.exponent).shift (Int.ofNat places)).round
  let digits := padNat (places + 1) n
  let before := digits.length - places
  digits.take before ++ '.' :: digits.drop before

/-- An amount has two places. -/
def amount (x : Float) : String :=
  match Double.ofFloat x with
  | .finite b =>
      let body := b.fixed 2
      String.ofList (if b.negative then '-' :: body else body)
  | .infinite negative => if negative then "-inf" else "inf"
  | .undefined => "NaN"

example : RealFormat.data.write ⟨false, 500, 0⟩ = "500.0".toList := by decide +kernel
example : RealFormat.plain.write ⟨true, 0, 0⟩ = "-0".toList := by decide +kernel
example : (Binary.mk false 1 (-3)).fixed 2 = "0.12".toList := by decide +kernel

end BillingAccess.Decimal
