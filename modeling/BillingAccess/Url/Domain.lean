/-
Names of hosts, in the form in which they are looked up: small letters, ASCII
alone.

A name is read character by character and cut into labels at its points.  A
label outside ASCII is encoded, and one that is encoded has to decode to a label
that needed it.
-/
import BillingAccess.Url.Domain.Direction
import BillingAccess.Url.Domain.Joiner
import BillingAccess.Url.Domain.Reading
import BillingAccess.Url.Percent
import BillingAccess.Url.Punycode

namespace BillingAccess.Domain

/-- The characters of ASCII that no name may hold. -/
def forbidden (c : Char) : Bool :=
  Percent.control c || " %#/:<>?@[\\]^|".toList.contains c

/-- The lengths of the longest label that is encoded, and of the longest text
that is decoded. -/
def longestLabel : Nat := 1000
def longestEncoded : Nat := 2000

/-- The characters that a label stands for: if it is encoded, those that it
encodes, which have to be read as themselves and not all be of ASCII. -/
def shown? (label : List Char) : Option (List Char) :=
  match label with
  | 'x' :: 'n' :: '-' :: '-' :: rest =>
      if rest.length ≤ longestEncoded then
        (Punycode.decode? rest).filter fun shown => !isAscii shown && read? shown == some shown
      else none
  | _ => some label

/-- A label that a name may have, as it is shown. -/
def isSound (shown : List Char) : Bool :=
  shown.all (!forbidden ·) && !shown.head?.any Text.isMark && joinersFit [] shown
    && (isAscii shown || shown.length ≤ longestLabel)

def encodeLabel (label : List Char) : List Char :=
  if isAscii label then label else 'x' :: 'n' :: '-' :: '-' :: Punycode.encode label

/-- The name in ASCII, unless it holds a barred character or an unsound label. -/
def toAscii? (bytes : List UInt8) : Option String := do
  let text ← read? (← Utf8.decode? bytes)
  let labels := text.splitOn '.'
  let shown ← labels.mapM shown?
  if shown.all isSound && agreeInDirection shown then
    some (String.ofList (['.'].intercalate (labels.map encodeLabel)))
  else none

example : toAscii? (Utf8.ofString "EXAMPLE.Com") = some "example.com" := by decide +kernel
example : toAscii? (Utf8.ofString "a b") = none := by decide +kernel
example : toAscii? (Utf8.ofString "xn--abc-") = none := by decide +kernel

end BillingAccess.Domain
