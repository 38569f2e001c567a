/-
A JSON text as far as it can be followed.

What is wrong with a text depends on what is asked of it: a number too large
for a double spoils a value that is read and does no harm in a member that is
skipped.  A draft is the tree of the text with its flaws left in place, so that
whoever reads it meets the first flaw in the order of the text.
-/
import BillingAccess.Json.Value

namespace BillingAccess.Json

/-- What goes wrong at a place of the text: when the place is read, and when it
is only skipped over, which may go well. -/
structure Flaw where
  read : Cause
  skipped : Option Cause
deriving Repr, DecidableEq

/-- A flaw that stops the reader of a text in any case. -/
def Flaw.fatal (cause : Cause) : Flaw := ⟨cause, some cause⟩

/-- The tree of a text.  The end of a list or of an object may be flawed, and
so may the name of a member. -/
inductive Draft
  | null
  | bool (b : Bool)
  | number (n : Number)
  | text (s : String)
  | list (items : List Draft) (ending : Option Flaw)
  | object (members : List (Except Cause String × Draft)) (ending : Option Flaw)
  | flawed (flaw : Flaw)

namespace Draft

mutual

/-- The first flaw that even skipping does not survive. -/
def skip : Draft → Option Cause
  | .list items ending => skipItems ending items
  | .object members ending => skipMembers ending members
  | .flawed flaw => flaw.skipped
  | .null | .bool _ | .number _ | .text _ => none

def skipItems (ending : Option Flaw) : List Draft → Option Cause
  | [] => ending.bind Flaw.skipped
  | d :: rest => (skip d).or (skipItems ending rest)

def skipMembers (ending : Option Flaw) : List (Except Cause String × Draft) → Option Cause
  | [] => ending.bind Flaw.skipped
  | (_, d) :: rest => (skip d).or (skipMembers ending rest)

end

/-- Fails with the flaw at the end, if there is one. -/
def close : Option Flaw → Except Cause Unit
  | none => .ok ()
  | some flaw => .error flaw.read

mutual

/-- The value that the text spells. -/
def value : Draft → Except Cause Value
  | .null => .ok .null
  | .bool b => .ok (.bool b)
  | .number n => .ok (.number n)
  | .text s => .ok (.text s)
  | .list items ending => do
      let items ← valueItems items
      close ending
      return .list items
  | .object members ending => do
      let members ← valueMembers members
      close ending
      return .object (sortMembers members)
  | .flawed flaw => .error flaw.read

def valueItems : List Draft → Except Cause (List Value)
  | [] => .ok []
  | d :: rest => do
      let v ← value d
      return v :: (← valueItems rest)

def valueMembers :
    List (Except Cause String × Draft) → Except Cause (List (String × Value))
  | [] => .ok []
  | (name, d) :: rest => do
      let name ← name
      let v ← value d
      return (name, v) :: (← valueMembers rest)

end

mutual

/-- The draft of a value, which has no flaw. -/
def ofValue : Value → Draft
  | .null => .null
  | .bool b => .bool b
  | .number n => .number n
  | .text s => .text s
  | .list items => .list (ofValues items) none
  | .object members => .object (ofMembers members) none

def ofValues : List Value → List Draft
  | [] => []
  | v :: rest => ofValue v :: ofValues rest

def ofMembers : List (String × Value) → List (Except Cause String × Draft)
  | [] => []
  | (name, v) :: rest => (.ok name, ofValue v) :: ofMembers rest

end

end Draft

end BillingAccess.Json
