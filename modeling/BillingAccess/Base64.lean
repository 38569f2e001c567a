/-
Base64, in the alphabet for URLs and in the standard one.

Three bytes become four symbols, and a last group of one or two bytes becomes
two or three.  Reading is strict: a group of one symbol is refused, and so are
spare bits that are not zero, so each text has one reading and each byte
string one text.  What is read is not padded.
-/
import BillingAccess.Text.Utf8

namespace BillingAccess.Base64

/-- The two alphabets differ in their last two symbols. -/
inductive Alphabet
  | urlSafe
  | standard
deriving Repr, DecidableEq

/-- The symbols for 62 and 63. -/
def Alphabet.lastTwo : Alphabet → Char × Char
  | .urlSafe => ('-', '_')
  | .standard => ('+', '/')

/-- The symbol of a value below 64. -/
def Alphabet.symbol (alphabet : Alphabet) (n : Nat) : Char :=
  if n < 26 then Char.ofNat (n + 65)
  else if n < 52 then Char.ofNat (n - 26 + 97)
  else if n < 62 then Char.ofNat (n - 52 + 48)
  else if n = 62 then alphabet.lastTwo.1
  else alphabet.lastTwo.2

/-- The value of a symbol. -/
def Alphabet.value? (alphabet : Alphabet) (c : Char) : Option Nat :=
  let n := c.toNat
  if 65 ≤ n ∧ n ≤ 90 then some (n - 65)
  else if 97 ≤ n ∧ n ≤ 122 then some (n - 97 + 26)
  else if 48 ≤ n ∧ n ≤ 57 then some (n - 48 + 52)
  else if c = alphabet.lastTwo.1 then some 62
  else if c = alphabet.lastTwo.2 then some 63
  else none

/-- The values below 64 that hold the bits of the bytes, in order. -/
def sextets : List UInt8 → List Nat
  | [] => []
  | [a] => [a.toNat / 4, a.toNat % 4 * 16]
  | [a, b] => [a.toNat / 4, a.toNat % 4 * 16 + b.toNat / 16, b.toNat % 16 * 4]
  | a :: b :: c :: rest =>
      a.toNat / 4 :: (a.toNat % 4 * 16 + b.toNat / 16)
        :: (b.toNat % 16 * 4 + c.toNat / 64) :: c.toNat % 64 :: sextets rest

/-- The bytes that values below 64 hold, if none is left over. -/
def ofSextets : List Nat → Option (List UInt8)
  | [] => some []
  | [_] => none
  | [p, q] => if q % 16 = 0 then some [UInt8.ofNat (p * 4 + q / 16)] else none
  | [p, q, r] =>
      if r % 4 = 0 then
        some [UInt8.ofNat (p * 4 + q / 16), UInt8.ofNat (q % 16 * 16 + r / 4)]
      else none
  | p :: q :: r :: s :: rest =>
      (ofSextets rest).map fun bytes =>
        UInt8.ofNat (p * 4 + q / 16) :: UInt8.ofNat (q % 16 * 16 + r / 4)
          :: UInt8.ofNat (r % 4 * 64 + s) :: bytes

/-- The text of a byte string. -/
def encode (alphabet : Alphabet) (bytes : List UInt8) : String :=
  String.ofList ((sextets bytes).map alphabet.symbol)

/-- The byte string of a text, if every character is a symbol and the text is
one that `encode` writes. -/
def decode? (alphabet : Alphabet) (text : List Char) : Option (List UInt8) :=
  (text.mapM alphabet.value?).bind ofSextets

/-- A way to write byte strings: an alphabet, with the last group filled up or
left short. -/
structure Form where
  alphabet : Alphabet
  padded : Bool
deriving Repr, DecidableEq

/-- How many signs fill the last group up to four. -/
def padding (bytes : List UInt8) : Nat :=
  (3 - bytes.length % 3) % 3

def Form.encode (form : Form) (bytes : List UInt8) : String :=
  let text := Base64.encode form.alphabet bytes
  if form.padded then text ++ String.ofList (List.replicate (padding bytes) '=') else text

example : encode .urlSafe [0xFB, 0xFF] = "-_8" := by decide +kernel
example : decode? .standard "+/8".toList = some [0xFB, 0xFF] := by decide +kernel
example : decode? .standard "+/9".toList = none := by decide +kernel
example : Form.encode ⟨.standard, true⟩ [0xFB, 0xFF] = "+/8=" := by decide +kernel

end BillingAccess.Base64
