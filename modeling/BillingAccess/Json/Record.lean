/-
Records and their JSON form.

A record is a list of named fields.  Reading starts from a default record and
sets each field that the text has; members of other names are skipped, and a
member that is missing leaves its default.  A list is read as the fields in
their order.  Writing gives the fields in their order.
-/
import BillingAccess.Json.Draft
import BillingAccess.Text.Digits

namespace BillingAccess.Json

/-- How values of a type are read and written. -/
structure Codec (α : Type) where
  read : Draft → Except Cause α
  write : α → Value

namespace Codec

/-- What a draft of the wrong shape fails with: its own flaw, if it has one. -/
def refuse {α : Type} : Draft → Except Cause α
  | .flawed flaw => .error flaw.read
  | _ => .error .mismatched

def text : Codec String where
  read
    | .text s => .ok s
    | d => refuse d
  write := .text

def bool : Codec Bool where
  read
    | .bool b => .ok b
    | d => refuse d
  write := .bool

/-- Any number is a double. -/
def real : Codec Float where
  read
    | .number n => .ok n.toFloat
    | d => refuse d
  write := .ofFloat

/-- A whole number in a range; a double is refused even when it is whole. -/
def readWhole (least greatest : Int) : Draft → Except Cause Int
  | .number (.whole n) => if least ≤ n ∧ n ≤ greatest then .ok n else .error .mismatched
  | d => refuse d

/-- A whole number of 32 bits without a sign. -/
def count : Codec UInt32 where
  read d := (readWhole 0 Decimal.greatest32 d).map fun n => UInt32.ofNat n.toNat
  write n := .number (.whole n.toNat)

/-- A whole number of 64 bits without a sign. -/
def seconds : Codec UInt64 where
  read d := (readWhole 0 Decimal.greatest64 d).map fun n => UInt64.ofNat n.toNat
  write n := .number (.whole n.toNat)

/-- A whole number of 32 bits. -/
def int32 : Codec Int32 where
  read d := (readWhole Int32.minValue.toInt Int32.maxValue.toInt d).map Int32.ofInt
  write n := .number (.whole n.toInt)

/-- A whole number of 64 bits. -/
def int64 : Codec Int64 where
  read d := (readWhole Int64.minValue.toInt Int64.maxValue.toInt d).map Int64.ofInt
  write n := .number (.whole n.toInt)

/-- Any value. -/
def value : Codec Value where
  read := Draft.value
  write v := v

/-- `null` for none. -/
def option {α : Type} (c : Codec α) : Codec (Option α) where
  read
    | .null => .ok none
    | d => (c.read d).map some
  write
    | none => .null
    | some a => c.write a

def readList {α : Type} (c : Codec α) (ending : Option Flaw) : List Draft → Except Cause (List α)
  | [] => do
      Draft.close ending
      return []
  | d :: rest => do
      let a ← c.read d
      return a :: (← readList c ending rest)

def list {α : Type} (c : Codec α) : Codec (List α) where
  read
    | .list items ending => readList c ending items
    | d => refuse d
  write as := .list (as.map c.write)

def readEntries {α : Type} (c : Codec α) (ending : Option Flaw) :
    List (Except Cause String × Draft) → Except Cause (List (String × α))
  | [] => do
      Draft.close ending
      return []
  | (name, d) :: rest => do
      let name ← name
      let a ← c.read d
      return (name, a) :: (← readEntries c ending rest)

/-- Values by name, in the order of the names. -/
def dictionary {α : Type} (c : Codec α) : Codec (List (String × α)) where
  read
    | .object members ending => (readEntries c ending members).map sortMembers
    | d => refuse d
  write entries := .object (entries.map fun (name, a) => (name, c.write a))

end Codec

/-- One field of a record: its name in the text, how its member is read into a
record, and the value written for it, if any. -/
structure Field (R : Type) where
  name : String
  read : Draft → R → Except Cause R
  write : R → Option Value

namespace Field

/-- A field that is always written. -/
def of {R α : Type} (name : String) (c : Codec α) (get : R → α) (set : α → R → R) : Field R where
  name := name
  read d r := (c.read d).map (set · r)
  write r := some (c.write (get r))

/-- A field that is left out when it holds nothing. -/
def omitted {R α : Type} (name : String) (c : Codec α) (get : R → Option α)
    (set : Option α → R → R) : Field R where
  name := name
  read d r := (c.option.read d).map (set · r)
  write r := (get r).map c.write

end Field

/-- A record type: what it holds before anything is read, and its fields.
`required` names the fields that may not be missing from an object; a record
with such fields may not be missing any from a list. -/
structure Record (R : Type) where
  empty : R
  fields : List (Field R)
  required : List String

namespace Record

/-- Reads the members in their order.  `seen` are the names of the fields read
before; a second member for one of them is refused. -/
def readMembers {R : Type} (fields : List (Field R)) (required : List String)
    (ending : Option Flaw) :
    List String → R → List (Except Cause String × Draft) → Except Cause R
  | seen, r, [] => do
      Draft.close ending
      if required.all (seen.contains ·) then return r else throw .mismatched
  | seen, r, (name, d) :: rest => do
      let name ← name
      match fields.find? (·.name == name) with
      | some field =>
          if seen.contains name then throw .mismatched
          let r ← field.read d r
          readMembers fields required ending (name :: seen) r rest
      | none =>
          match d.skip with
          | some cause => throw cause
          | none => readMembers fields required ending seen r rest

/-- Reads a list as the fields in their order.  Fields beyond its end keep
their defaults, if none is required. -/
def readItems {R : Type} (lenient : Bool) (ending : Option Flaw) :
    List (Field R) → R → List Draft → Except Cause R
  | [], r, [] => do
      Draft.close ending
      return r
  | [], _, _ :: _ => throw .malformed
  | _ :: _, r, [] => do
      Draft.close ending
      if lenient then return r else throw .mismatched
  | field :: fields, r, d :: rest => do
      let r ← field.read d r
      readItems lenient ending fields r rest

/-- The record that a draft spells. -/
def read {R : Type} (record : Record R) : Draft → Except Cause R
  | .object members ending =>
      readMembers record.fields record.required ending [] record.empty members
  | .list items ending =>
      readItems record.required.isEmpty ending record.fields record.empty items
  | d => Codec.refuse d

/-- The object of a record. -/
def write {R : Type} (record : Record R) (r : R) : Value :=
  .object (record.fields.filterMap fun field => (field.write r).map (field.name, ·))

def codec {R : Type} (record : Record R) : Codec R where
  read := record.read
  write := record.write

end Record

end BillingAccess.Json
