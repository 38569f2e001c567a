/-
Characters as UTF-8 bytes, in both directions.

`encode` writes each character in its one shortest form.  `scan` reads one
character, or says how many bytes of a broken one belong together; the strict
reader gives up there, the lenient one puts U+FFFD and goes on.
-/

namespace BillingAccess.Utf8

/-- The bytes of one character. -/
def encodeChar (c : Char) : List UInt8 :=
  let n := c.toNat
  if n < 0x80 then [UInt8.ofNat n]
  else if n < 0x800 then
    [UInt8.ofNat (0xC0 + n / 64), UInt8.ofNat (0x80 + n % 64)]
  else if n < 0x10000 then
    [UInt8.ofNat (0xE0 + n / 4096), UInt8.ofNat (0x80 + n / 64 % 64),
      UInt8.ofNat (0x80 + n % 64)]
  else
    [UInt8.ofNat (0xF0 + n / 262144), UInt8.ofNat (0x80 + n / 4096 % 64),
      UInt8.ofNat (0x80 + n / 64 % 64), UInt8.ofNat (0x80 + n % 64)]

/-- The bytes of a text. -/
def encode (text : List Char) : List UInt8 :=
  text.flatMap encodeChar

/-- A first byte of several: how many bytes follow it, what it contributes,
and the bounds of the byte right after it. -/
structure Lead where
  tails : Nat
  value : Nat
  low : Nat
  high : Nat
deriving Repr, DecidableEq

/-- The narrowed bounds after E0, ED, F0 and F4 keep out overlong forms,
surrogates and values beyond the last character. -/
def Lead.ofByte? (b : Nat) : Option Lead :=
  if 0xC2 ≤ b ∧ b ≤ 0xDF then some ⟨1, b - 0xC0, 0x80, 0xBF⟩
  else if b = 0xE0 then some ⟨2, 0, 0xA0, 0xBF⟩
  else if b = 0xED then some ⟨2, 13, 0x80, 0x9F⟩
  else if 0xE1 ≤ b ∧ b ≤ 0xEF then some ⟨2, b - 0xE0, 0x80, 0xBF⟩
  else if b = 0xF0 then some ⟨3, 0, 0x90, 0xBF⟩
  else if 0xF1 ≤ b ∧ b ≤ 0xF3 then some ⟨3, b - 0xF0, 0x80, 0xBF⟩
  else if b = 0xF4 then some ⟨3, 4, 0x80, 0x8F⟩
  else none

/-- Reads following bytes into `value` while they fit, and counts them.  The
first one has its own bounds, every later one lies in 80 to BF. -/
def tails : Nat → Nat → Nat → Nat → List UInt8 → Nat × Option Nat
  | 0, value, _, _, _ => (0, some value)
  | _ + 1, _, _, _, [] => (0, none)
  | owed + 1, value, low, high, b :: rest =>
      if low ≤ b.toNat ∧ b.toNat ≤ high then
        let (count, result) := tails owed (value * 64 + (b.toNat - 0x80)) 0x80 0xBF rest
        (count + 1, result)
      else (0, none)

/-- Reads the character that starts with `b`: how many bytes after `b` belong
to it, and the character unless it is broken. -/
def scan (b : UInt8) (rest : List UInt8) : Nat × Option Char :=
  if b.toNat < 0x80 then (0, some (Char.ofNat b.toNat))
  else
    match Lead.ofByte? b.toNat with
    | none => (0, none)
    | some lead =>
        let (count, result) := tails lead.tails lead.value lead.low lead.high rest
        (count, result.map Char.ofNat)

/-- What a broken character is replaced with. -/
def replacement : Char := Char.ofNat 0xFFFD

/-- Reads every character and replaces each broken one. -/
def decodeLossy : List UInt8 → List Char
  | [] => []
  | b :: rest =>
      let (count, result) := scan b rest
      result.getD replacement :: decodeLossy (rest.drop count)
termination_by bytes => bytes.length
decreasing_by simp only [List.length_drop, List.length_cons]; omega

/-- Reads the text, unless a character is broken. -/
def decode? : List UInt8 → Option (List Char)
  | [] => some []
  | b :: rest =>
      match scan b rest with
      | (count, some c) => (decode? (rest.drop count)).map (c :: ·)
      | (_, none) => none
termination_by bytes => bytes.length
decreasing_by simp only [List.length_drop, List.length_cons]; omega

/-- The bytes of a string. -/
def ofString (s : String) : List UInt8 :=
  encode s.toList

/-- The string that the bytes spell, broken characters replaced. -/
def toStringLossy (bytes : List UInt8) : String :=
  String.ofList (decodeLossy bytes)

/-- The string that the bytes spell, if they spell one. -/
def toString? (bytes : List UInt8) : Option String :=
  (decode? bytes).map String.ofList

example : toStringLossy (ofString "aé日😀") = "aé日😀" := by decide +kernel
example : decodeLossy [0xE2, 0x82] = [replacement] := by decide +kernel
example : decodeLossy [0xFF, 0xFE] = [replacement, replacement] := by decide +kernel
example : decode? [0xED, 0xA0, 0x80] = none := by decide +kernel

end BillingAccess.Utf8
