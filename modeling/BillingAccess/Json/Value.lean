/-
JSON values, and why a text or a value is refused.

A number is whole when it was written without a point and an exponent and fits
64 bits, signed or not; all others are doubles.  The members of an object that
was read from a text are sorted by name, each name once.
-/

namespace BillingAccess.Json

/-- Why a JSON text was refused. -/
inductive Cause
  /-- The text is not JSON. -/
  | malformed
  /-- The text is JSON of another shape than was asked for. -/
  | mismatched
  /-- The text ends too early. -/
  | truncated
deriving Repr, DecidableEq

inductive Number
  | whole (n : Int)
  | real (x : Float)
deriving Repr

inductive Value
  | null
  | bool (b : Bool)
  | number (n : Number)
  | text (s : String)
  | list (items : List Value)
  | object (members : List (String × Value))
deriving Repr, Inhabited

/-- The value of a double: there is no number for the ones that are not
finite. -/
def Value.ofFloat (x : Float) : Value :=
  if x.isFinite then .number (.real x) else .null

/-- The nearest double. -/
def Number.toFloat : Number → Float
  | .whole (.ofNat n) => (UInt64.ofNat n).toFloat
  | .whole (.negSucc n) => -(UInt64.ofNat (n + 1)).toFloat
  | .real x => x

/-- The member of that name. -/
def Value.member? (name : String) : Value → Option Value
  | .object members => members.lookup name
  | _ => none

/-- The text, of a text. -/
def Value.text? : Value → Option String
  | .text s => some s
  | _ => none

/-- Members sorted by name with one more in its place; an earlier one of the
same name is replaced. -/
def insertSorted {α : Type} (name : String) (a : α) : List (String × α) → List (String × α)
  | [] => [(name, a)]
  | (other, b) :: rest =>
      if name = other then (name, a) :: rest
      else if name < other then (name, a) :: (other, b) :: rest
      else (other, b) :: insertSorted name a rest

/-- Members in any order, sorted by name; of one name the last stays. -/
def sortMembers {α : Type} (members : List (String × α)) : List (String × α) :=
  members.foldl (fun sorted m => insertSorted m.1 m.2 sorted) []

example : sortMembers [("b", 1), ("a", 2), ("b", 3)] = [("a", 2), ("b", 3)] := by
  decide +kernel

end BillingAccess.Json
