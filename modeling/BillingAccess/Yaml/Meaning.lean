/-
What scalars stand for when nothing else decides it.

A plain scalar stands for null, a truth value or a number if it is spelled like
one, and for its text otherwise; a quoted one always stands for its text.  A tag
says what a scalar has to stand for.  A document is sound if every scalar stands
for something, no map has two members of one key, and it is not nested too
deeply.
-/
import BillingAccess.Decimal.Nearest
import BillingAccess.Yaml.Node

namespace BillingAccess.Yaml

inductive Meaning
  | null
  | bool (value : Bool)
  | whole (value : Int)
  | real (value : Float)
  | text (text : String)
deriving Repr

namespace Meaning

/-- No number differs from itself here. -/
def same : Meaning → Meaning → Bool
  | .null, .null => true
  | .bool a, .bool b => a == b
  | .whole a, .whole b => a == b
  | .real a, .real b => a == b || (a.isNaN && b.isNaN)
  | .text a, .text b => a == b
  | _, _ => false

def readBool? (text : String) : Option Bool :=
  if ["true", "True", "TRUE"].contains text then some true
  else if ["false", "False", "FALSE"].contains text then some false
  else none

/-- A whole number of any size. -/
def readInt? : List Char → Option Int
  | '-' :: rest => (readMagnitude? rest).map fun n => -Int.ofNat n
  | other => (readNat? other).map Int.ofNat

/-- A whole number of 64 bits. -/
def ofInt? (n : Int) : Option Meaning :=
  if Int64.minValue.toInt ≤ n ∧ n ≤ Int.ofNat Decimal.greatest64 then some (.whole n) else none

/-- Twice as many bits are recognized, and stand for nothing. -/
def isRecognized (n : Int) : Bool :=
  decide (-Int.ofNat (Nat.pow 2 127) ≤ n ∧ n < Int.ofNat (Nat.pow 2 128))

/-- A finite number with a point or a power of ten, or one of the three that are
not finite. -/
def readReal? (text : List Char) : Option Float :=
  let (negative, signed, body) :=
    match text with
    | '+' :: rest => (false, true, rest)
    | '-' :: rest => (true, true, rest)
    | rest => (false, false, rest)
  let sign := fun x : Float => if negative then -x else x
  if [".inf", ".Inf", ".INF"].contains (String.ofList body) then some (sign (1.0 / 0.0))
  else if [".nan", ".NaN", ".NAN"].contains (String.ofList body) ∧ !signed then some (0.0 / 0.0)
  else ((Decimal.Scientific.ofText? body).map Decimal.Scientific.nearest).bind fun x =>
    if x.isInf then none else some (sign x)

/-- Digits that begin with a needless zero are a text. -/
def isPaddedDigits (text : List Char) : Bool :=
  let body := match text with
    | '+' :: rest => rest
    | '-' :: rest => rest
    | rest => rest
  1 < body.length && body.head? == some '0' && body.all Char.isDigit

/-- What a plain scalar stands for. -/
def ofPlain? (text : String) : Option Meaning :=
  if text = "" ∨ isNullText text then some .null
  else
    match readBool? text with
    | some b => some (.bool b)
    | none =>
        match (readInt? text.toList).filter isRecognized with
        | some n => ofInt? n
        | none =>
            match readReal? text.toList with
            | some x => some (if isPaddedDigits text.toList then .text text else .real x)
            | none => some (.text text)

/-- What a scalar stands for. -/
def ofScalar? (text : String) (style : Style) : Option Tag → Option Meaning
  | some .null => if isNullText text then some .null else none
  | some .bool => (readBool? text).map .bool
  | some .int => (readInt? text.toList).bind ofInt?
  | some .float => (readReal? text.toList).map .real
  | some (.other _) => some (.text text)
  | some (.own _) | none => if style = .plain then ofPlain? text else some (.text text)

end Meaning

/-- A tag of the document's own sets a scalar apart. -/
def ownTag? : Option Tag → Option String
  | some (.own name) => some name
  | _ => none

/-! Whether two nodes stand for the same. -/

mutual

def Node.same : Node → Node → Bool
  | .scalar a s t, .scalar b u v =>
      ownTag? t == ownTag? v &&
        match Meaning.ofScalar? a s t, Meaning.ofScalar? b u v with
        | some x, some y => x.same y
        | _, _ => false
  | .list as, .list bs => sameItems as bs
  | .map as, .map bs => as.length == bs.length && sameMembers as bs
  | _, _ => false

def sameItems : List Node → List Node → Bool
  | [], [] => true
  | a :: as, b :: bs => a.same b && sameItems as bs
  | _, _ => false

/-- The members of a map have no order. -/
def sameMembers : List (Node × Node) → List (Node × Node) → Bool
  | [], _ => true
  | (k, a) :: as, bs => (bs.any fun (l, b) => k.same l && a.same b) && sameMembers as bs

end

/-- How deeply lists and maps may be nested. -/
def greatestDepth : Nat := 128

/-! Whether a node stands for something; `room` is how deeply it may be nested. -/

mutual

def Node.standsFor (room : Nat) : Node → Bool
  | .scalar text style tag => (Meaning.ofScalar? text style tag).isSome
  | .list items => 0 < room && itemsStandFor (room - 1) items
  | .map members => 0 < room && membersStandFor (room - 1) members

def itemsStandFor (room : Nat) : List Node → Bool
  | [] => true
  | item :: rest => item.standsFor room && itemsStandFor room rest

def membersStandFor (room : Nat) : List (Node × Node) → Bool
  | [] => true
  | (key, value) :: rest =>
      key.standsFor room && value.standsFor room && membersStandFor room rest
        && !rest.any fun other => key.same other.1

end

def Node.isSound (node : Node) : Bool :=
  node.standsFor greatestDepth

example : (Meaning.ofPlain? "0x10").any (·.same (.whole 16)) := by decide +kernel
example : (Meaning.ofPlain? "007").any (·.same (.text "007")) := by decide +kernel
example : (Meaning.ofPlain? "18446744073709551616").isNone := by decide +kernel

end BillingAccess.Yaml
