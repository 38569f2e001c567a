/-
Characters as UTF-16: units of two bytes each, in either order.

A character beyond U+FFFF takes two units, a leading and a trailing half.  The
lenient reader puts U+FFFD for a half without its counterpart and reads on at
the unit after it; a leading half and a single byte at the end are broken off
together.
-/
import BillingAccess.Text.Utf8

namespace BillingAccess.Utf16

/-- Which byte of a unit comes first. -/
inductive Order
  | little
  | big
deriving Repr, DecidableEq

/-- The unit of two bytes. -/
def Order.unit : Order → UInt8 → UInt8 → Nat
  | .little, a, b => b.toNat * 256 + a.toNat
  | .big, a, b => a.toNat * 256 + b.toNat

/-- The units of a row of bytes, and whether a single byte is left over. -/
def Order.units (order : Order) : List UInt8 → List Nat × Bool
  | [] => ([], false)
  | [_] => ([], true)
  | a :: b :: rest =>
      let (units, odd) := order.units rest
      (order.unit a b :: units, odd)

/-- The unit is the first half of a character. -/
def leads (unit : Nat) : Bool :=
  0xD800 ≤ unit && unit < 0xDC00

/-- The unit is the second half of a character. -/
def trails (unit : Nat) : Bool :=
  0xDC00 ≤ unit && unit < 0xE000

/-- The character of two halves. -/
def whole (lead trail : Nat) : Char :=
  Char.ofNat (0x10000 + (lead - 0xD800) * 0x400 + (trail - 0xDC00))

/-- The character of a unit that begins none of two halves. -/
def alone (unit : Nat) : Char :=
  if trails unit then Utf8.replacement else Char.ofNat unit

/-- Reads every character and replaces each broken one; `odd` says whether a
single byte follows the units. -/
def ofUnits (odd : Bool) : List Nat → List Char
  | [] => if odd then [Utf8.replacement] else []
  | [last] =>
      if leads last then [Utf8.replacement]
      else alone last :: if odd then [Utf8.replacement] else []
  | unit :: next :: rest =>
      if leads unit then
        if trails next then whole unit next :: ofUnits odd rest
        else Utf8.replacement :: ofUnits odd (next :: rest)
      else alone unit :: ofUnits odd (next :: rest)

def decodeLossy (order : Order) (bytes : List UInt8) : List Char :=
  let (units, odd) := order.units bytes
  ofUnits odd units

/-- The string that the bytes spell, broken characters replaced. -/
def toStringLossy (order : Order) (bytes : List UInt8) : String :=
  String.ofList (decodeLossy order bytes)

example : decodeLossy .big [0x00, 0x5B, 0xD8, 0x3D, 0xDE, 0x00] = "[😀".toList := by decide +kernel
example : decodeLossy .little [0x3D, 0xD8, 0x5B, 0x00] = [Utf8.replacement, '['] := by
  decide +kernel
example : decodeLossy .little [0x00, 0xDC, 0x3D, 0xD8, 0x5B] =
    [Utf8.replacement, Utf8.replacement] := by
  decide +kernel

end BillingAccess.Utf16
