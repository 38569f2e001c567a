/-
Whole numbers in decimal text.

Reading takes an optional sign and digits alone, and refuses what lies outside
the range asked for.  Writing uses no sign but a minus and no leading zero.
-/

namespace BillingAccess.Decimal

/-- The value of a decimal digit. -/
def digit? (c : Char) : Option Nat :=
  if '0'.toNat ≤ c.toNat ∧ c.toNat ≤ '9'.toNat then some (c.toNat - '0'.toNat) else none

/-- The digit of a value below ten. -/
def digit (n : Nat) : Char :=
  Char.ofNat ('0'.toNat + n)

/-- Continues the number `value` with the digits of a text. -/
def readDigits : Nat → List Char → Option Nat
  | value, [] => some value
  | value, c :: rest =>
      match digit? c with
      | some d => readDigits (value * 10 + d) rest
      | none => none

/-- A number of at least one digit. -/
def readNat? : List Char → Option Nat
  | [] => none
  | c :: rest => readDigits 0 (c :: rest)

/-- A number without a minus, at most `greatest`. -/
def readUnsigned? (greatest : Nat) (text : List Char) : Option Nat :=
  let magnitude :=
    match text with
    | '+' :: rest => readNat? rest
    | other => readNat? other
  magnitude.filter (· ≤ greatest)

/-- A number with any sign. -/
def readInt? (text : List Char) : Option Int :=
  match text with
  | '+' :: rest => (readNat? rest).map Int.ofNat
  | '-' :: rest => (readNat? rest).map fun n => -Int.ofNat n
  | other => (readNat? other).map Int.ofNat

/-- A number with any sign, from `least` to `greatest`. -/
def readSigned? (least greatest : Int) (text : List Char) : Option Int :=
  (readInt? text).filter fun n => least ≤ n ∧ n ≤ greatest

/-- The greatest numbers of 16, 32 and 64 bits. -/
def greatest16 : Nat := 0xFFFF
def greatest32 : Nat := 0xFFFFFFFF
def greatest64 : Nat := 0xFFFFFFFFFFFFFFFF

/-- A signed number of 64 bits. -/
def readInt64? (text : List Char) : Option Int64 :=
  (readSigned? Int64.minValue.toInt Int64.maxValue.toInt text).map Int64.ofInt

/-- The digits of a number, most significant first. -/
def writeNat (n : Nat) : List Char :=
  if n < 10 then [digit n] else writeNat (n / 10) ++ [digit (n % 10)]
termination_by n
decreasing_by omega

/-- The digits of a number, after a minus if it is negative. -/
def writeInt : Int → List Char
  | .ofNat n => writeNat n
  | .negSucc n => '-' :: writeNat (n + 1)

/-- A number as a string. -/
def ofNat (n : Nat) : String :=
  String.ofList (writeNat n)

/-- A signed number as a string. -/
def ofInt (n : Int) : String :=
  String.ofList (writeInt n)

/-- The digits of a number, with zeros in front up to `width`. -/
def padNat (width n : Nat) : List Char :=
  let digits := writeNat n
  List.replicate (width - digits.length) '0' ++ digits

example : readUnsigned? greatest64 "+18446744073709551615".toList
    = some 18446744073709551615 := by decide +kernel
example : readUnsigned? greatest64 "18446744073709551616".toList = none := by decide +kernel
example : ofInt (-120) = "-120" := by decide +kernel

end BillingAccess.Decimal
