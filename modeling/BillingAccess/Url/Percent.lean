/-
Percent-encoding: a byte as a percent sign and two hexadecimal digits.

Which characters of ASCII are escaped depends on the part of a URL; all others
are always escaped, byte by byte.  Decoding leaves a percent sign alone that no
two digits follow.
-/
import BillingAccess.Text.Hex
import BillingAccess.Text.Utf8

namespace BillingAccess.Percent

def encodeByte (b : UInt8) : List Char :=
  ['%', Hex.digit (b.toNat / 16), Hex.digit (b.toNat % 16)]

def encodeChar (escaped : Char → Bool) (c : Char) : List Char :=
  if c.toNat < 0x80 && !escaped c then [c] else (Utf8.encodeChar c).flatMap encodeByte

/-- Escapes the characters in `escaped` and all outside ASCII. -/
def encode (escaped : Char → Bool) (text : List Char) : List Char :=
  text.flatMap (encodeChar escaped)

/-- The bytes that a text stands for. -/
def decode : List Char → List UInt8
  | '%' :: a :: b :: rest =>
      match Hex.value? a, Hex.value? b with
      | some high, some low => UInt8.ofNat (high * 16 + low) :: decode rest
      | _, _ => 0x25 :: decode (a :: b :: rest)
  | c :: rest => Utf8.encodeChar c ++ decode rest
  | [] => []

/-! The characters that are escaped in each part of a URL. -/

def control (c : Char) : Bool :=
  c.toNat < 0x20 || c.toNat == 0x7F

def inFragment (c : Char) : Bool :=
  control c || " \"<>`".toList.contains c

def inPath (c : Char) : Bool :=
  inFragment c || "#?\x7b\x7d".toList.contains c

/-- A segment that is added to a path keeps its slashes and percent signs to
itself. -/
def inSegment (c : Char) : Bool :=
  inPath c || c == '/' || c == '%'

def inUserinfo (c : Char) : Bool :=
  inPath c || "/:;=@[\\]^|".toList.contains c

def inQuery (c : Char) : Bool :=
  control c || " \"#<>".toList.contains c

example : String.ofList (encode inSegment "a/ é%".toList) = "a%2F%20%C3%A9%25" := by
  decide +kernel
example : decode "%41%zz%".toList = "A%zz%".toList.map fun c => UInt8.ofNat c.toNat := by
  decide +kernel

end BillingAccess.Percent
