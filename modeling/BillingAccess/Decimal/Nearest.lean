/-
Reading doubles: the one nearest to a number in decimal text.
-/
import BillingAccess.Decimal.Shortest

namespace BillingAccess.Decimal

/-- The power of ten after the digits, if there is one. -/
def readPower? : List Char → Option Int
  | [] => some 0
  | c :: rest => if c = 'e' ∨ c = 'E' then readInt? rest else none

/-- A number without a sign: digits, with a point among them or beside them, and
perhaps a power of ten. -/
def Scientific.ofText? (text : List Char) : Option Scientific :=
  let whole := text.takeWhile Char.isDigit
  let (part, rest) :=
    match text.dropWhile Char.isDigit with
    | '.' :: after => (after.takeWhile Char.isDigit, after.dropWhile Char.isDigit)
    | rest => ([], rest)
  match readNat? (whole ++ part), readPower? rest with
  | some digits, some power => some ⟨digits, power - Int.ofNat part.length⟩
  | _, _ => none

/-- The position of the point beyond which every number is infinite, and before
which every number is zero. -/
def farthestPoint : Int := 400

/-- The double nearest to a number; one that is too large is infinite. -/
def Scientific.nearest (s : Scientific) : Float :=
  let point := Int.ofNat (writeNat s.digits).length + s.exponent
  if s.digits = 0 ∨ point < -farthestPoint then 0.0
  else if farthestPoint < point then 1.0 / 0.0
  else Float.ofScientific s.digits (decide (s.exponent < 0)) s.exponent.natAbs

example : Scientific.ofText? "12.50e-3".toList = some ⟨1250, -5⟩ := by decide +kernel
example : Scientific.ofText? ".5".toList = some ⟨5, -1⟩ := by decide +kernel
example : Scientific.ofText? ".".toList = none := by decide +kernel

end BillingAccess.Decimal
