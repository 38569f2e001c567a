/-
A finite double as an exact number: a sign, a whole significand and a power of
two.  What its decimal texts say is decided on these numbers alone.
-/

namespace BillingAccess.Decimal

/-- The value is `significand * 2 ^ exponent`, negated if `negative`. -/
structure Binary where
  negative : Bool
  significand : Nat
  exponent : Int
deriving Repr, DecidableEq

/-- The kinds of doubles. -/
inductive Double
  | finite (value : Binary)
  | infinite (negative : Bool)
  | undefined
deriving Repr, DecidableEq

/-- The significand of one, which the fraction leaves out. -/
def leadingBit : Nat := 0x10000000000000

/-- Reads the sign, the exponent and the fraction off the bits. -/
def Double.ofBits (bits : UInt64) : Double :=
  let b := bits.toNat
  let negative := b / 0x8000000000000000 == 1
  let exponent := b / leadingBit % 2048
  let fraction := b % leadingBit
  if exponent = 2047 then
    if fraction = 0 then .infinite negative else .undefined
  else if exponent = 0 then .finite ⟨negative, fraction, -1074⟩
  else .finite ⟨negative, fraction + leadingBit, Int.ofNat exponent - 1075⟩

/-- The kind of a double, with its exact value. -/
def Double.ofFloat (x : Float) : Double :=
  .ofBits x.toBits

/-- A quotient of whole numbers, the denominator positive. -/
structure Ratio where
  num : Nat
  den : Nat
deriving Repr, DecidableEq

/-- `n * 2 ^ e`. -/
def Ratio.scaled (n : Nat) (e : Int) : Ratio :=
  if 0 ≤ e then ⟨n * Nat.pow 2 e.toNat, 1⟩ else ⟨n, Nat.pow 2 (-e).toNat⟩

/-- The value times `10 ^ p`. -/
def Ratio.shift (r : Ratio) (p : Int) : Ratio :=
  if 0 ≤ p then ⟨r.num * Nat.pow 10 p.toNat, r.den⟩
  else ⟨r.num, r.den * Nat.pow 10 (-p).toNat⟩

/-- The greatest whole number that is not above the value. -/
def Ratio.floor (r : Ratio) : Nat :=
  r.num / r.den

/-- The nearest whole number; a half goes to the even neighbour. -/
def Ratio.round (r : Ratio) : Nat :=
  let low := r.floor
  let twice := 2 * (r.num % r.den)
  if twice < r.den then low
  else if r.den < twice then low + 1
  else if low % 2 = 0 then low
  else low + 1

example : Double.ofBits 0x3FF0000000000000 = .finite ⟨false, leadingBit, -52⟩ := by decide +kernel
example : Ratio.round ⟨25, 10⟩ = 2 ∧ Ratio.round ⟨35, 10⟩ = 4 := by decide +kernel

end BillingAccess.Decimal
