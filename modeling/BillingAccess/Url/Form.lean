/-
Pairs of names and values as one text, the form in which queries and forms are
sent.

Letters, digits and `*-._` stand for themselves, a plus stands for a space, and
all else is percent-encoded.  Reading never fails: a piece without an equals
sign is a name with an empty value, and an empty piece is no pair.
-/
import BillingAccess.Url.Percent

namespace BillingAccess.Form

/-- The characters that are written as they are. -/
def plain (c : Char) : Bool :=
  c.isAlphanum || "*-._".toList.contains c

def encodeText (text : List Char) : List Char :=
  text.flatMap fun c => if c = ' ' then ['+'] else Percent.encodeChar (fun c => !plain c) c

def encodePair (pair : String × String) : List Char :=
  encodeText pair.1.toList ++ '=' :: encodeText pair.2.toList

/-- The pairs in their order. -/
def encode (pairs : List (String × String)) : String :=
  String.ofList (['&'].intercalate (pairs.map encodePair))

def decodeText (text : List Char) : String :=
  Utf8.toStringLossy (Percent.decode (text.map fun c => if c = '+' then ' ' else c))

/-- The name ends at the first equals sign. -/
def decodePair (piece : List Char) : String × String :=
  (decodeText (piece.takeWhile (· != '=')), decodeText ((piece.dropWhile (· != '=')).drop 1))

/-- The pairs of a text. -/
def decode (text : String) : List (String × String) :=
  ((text.toList.splitOn '&').filter (· ≠ [])).map decodePair

example : encode [("user", "a b&c"), ("", "é")] = "user=a+b%26c&=%C3%A9" := by decide +kernel
example : decode "a=1&&b&=c=d" = [("a", "1"), ("b", ""), ("", "c=d")] := by decide +kernel

end BillingAccess.Form
