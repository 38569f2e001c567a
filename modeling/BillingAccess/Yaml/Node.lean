/-
The content of a YAML document: scalars, lists and maps.

An alias has been replaced with what it stands for.  A scalar remembers how it
was written, since that decides what it can stand for.
-/
import BillingAccess.Text.Digits
import BillingAccess.Url.Percent

namespace BillingAccess.Yaml

/-- How a scalar is written. -/
inductive Style
  | plain
  | quoted
  /-- A block that keeps its line ends. -/
  | literal
  /-- A block in which the end of a line counts as a space. -/
  | folded
deriving Repr, DecidableEq

/-- What is said of a node in front of it. -/
inductive Tag
  | null
  | bool
  | int
  | float
  /-- A tag of the document's own. -/
  | own (name : String)
  | other (name : String)
deriving Repr, DecidableEq

inductive Node
  | scalar (text : String) (style : Style) (tag : Option Tag)
  | list (items : List Node)
  | map (members : List (Node × Node))
deriving Repr, Inhabited

/-- The texts that are null. -/
def isNullText (text : String) : Bool :=
  ["~", "null", "Null", "NULL"].contains text

/-- Digits of a base. -/
def readBase? (base : Nat) (digits : List Char) : Option Nat :=
  if digits = [] then none
  else (digits.mapM fun c => (Hex.value? c).filter (· < base)).map fun values =>
    values.foldl (fun n d => n * base + d) 0

/-- A number without a sign.  Leading zeros make a text of it. -/
def readMagnitude? : List Char → Option Nat
  | '0' :: 'x' :: digits => readBase? 16 digits
  | '0' :: 'o' :: digits => readBase? 8 digits
  | '0' :: 'b' :: digits => readBase? 2 digits
  | '0' :: _ :: _ => none
  | digits => readBase? 10 digits

/-- A number without a minus. -/
def readNat? : List Char → Option Nat
  | '+' :: rest => readMagnitude? rest
  | text => readMagnitude? text

namespace Node

/-- What stands where nothing is written. -/
def absent : Node := .scalar "" .plain none

def isAbsent : Node → Bool
  | .scalar "" .plain _ => true
  | _ => false

/-- Puts a tag in front of a node.  Only on scalars it makes a difference, and a
bare exclamation mark says nothing. -/
def withTag (tag : Option Tag) : Node → Node
  | .scalar text style own => .scalar text style ((tag.filter (· ≠ .own "!")).or own)
  | node => node

/-- Any scalar is a text. -/
def text? : Node → Option String
  | .scalar text _ _ => some text
  | _ => none

/-- A text, unless a plain scalar says that there is none.  What is tagged as
null has to be. -/
def textOrNull? : Node → Option (Option String)
  | .scalar text .plain none =>
      some (if text = "" ∨ isNullText text then none else some text)
  | .scalar text .plain (some .null) => if isNullText text then some none else none
  | .scalar text _ _ => some (some text)
  | _ => none

/-- Whether a number can be read off a scalar: one that is plain, or a block that
is tagged as a number. -/
def readsAsNumber (style : Style) (tag : Option Tag) : Bool :=
  style == .plain || (style == .literal && tag == some .int)

/-- A whole number of 64 bits. -/
def seconds? : Node → Option UInt64
  | .scalar text style tag =>
      if readsAsNumber style tag then
        ((readNat? text.toList).filter (· ≤ Decimal.greatest64)).map UInt64.ofNat
      else none
  | _ => none

end Node

example : readNat? "0x10".toList = some 16 := by decide +kernel
example : readNat? "007".toList = none := by decide +kernel
example : readNat? "1_000".toList = none := by decide +kernel

end BillingAccess.Yaml
