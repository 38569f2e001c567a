/-
JSON texts of values, on one line or indented by two blanks.
-/
import BillingAccess.Json.Value
import BillingAccess.Decimal.Format

namespace BillingAccess.Json

open BillingAccess.Decimal

def hexChar (n : Nat) : Char :=
  if n < 10 then Char.ofNat (48 + n) else Char.ofNat (87 + n)

/-- A character inside quotes.  Quotes, backslashes and control characters are
escaped, the common ones by a letter. -/
def escapeChar (c : Char) : List Char :=
  if c = '"' then ['\\', '"']
  else if c = '\\' then ['\\', '\\']
  else if c = '\n' then ['\\', 'n']
  else if c = '\r' then ['\\', 'r']
  else if c = '\t' then ['\\', 't']
  else if c.toNat = 8 then ['\\', 'b']
  else if c.toNat = 12 then ['\\', 'f']
  else if c.toNat < 0x20 then
    ['\\', 'u', '0', '0', hexChar (c.toNat / 16), hexChar (c.toNat % 16)]
  else [c]

/-- A text in quotes. -/
def quote (s : String) : List Char :=
  '"' :: (s.toList.flatMap escapeChar ++ ['"'])

/-- The text of a number. -/
def Number.write : Number → List Char
  | .whole n => writeInt n
  | .real x =>
      match Double.ofFloat x with
      | .finite b => RealFormat.data.write b
      | .infinite _ | .undefined => "null".toList

mutual

/-- A value on one line. -/
def Value.write : Value → List Char
  | .null => "null".toList
  | .bool true => "true".toList
  | .bool false => "false".toList
  | .number n => n.write
  | .text s => quote s
  | .list [] => ['[', ']']
  | .list (v :: rest) => '[' :: (v.write ++ writeItems rest)
  | .object [] => ['{', '}']
  | .object ((name, v) :: rest) =>
      '{' :: (quote name ++ ':' :: (v.write ++ writeMembers rest))

/-- The items after the first, and the closing bracket. -/
def writeItems : List Value → List Char
  | [] => [']']
  | v :: rest => ',' :: (v.write ++ writeItems rest)

/-- The members after the first, and the closing brace. -/
def writeMembers : List (String × Value) → List Char
  | [] => ['}']
  | (name, v) :: rest => ',' :: (quote name ++ ':' :: (v.write ++ writeMembers rest))

end

/-- A new line at the given depth. -/
def newLine (depth : Nat) : List Char :=
  '\n' :: List.replicate (2 * depth) ' '

mutual

/-- A value over several lines, each item and member on its own. -/
def Value.writePretty (depth : Nat) : Value → List Char
  | .list (v :: rest) =>
      '[' :: (newLine (depth + 1) ++ v.writePretty (depth + 1) ++ prettyItems depth rest)
  | .object ((name, v) :: rest) =>
      '{' :: (newLine (depth + 1) ++ quote name ++ ':' :: ' ' :: v.writePretty (depth + 1)
        ++ prettyMembers depth rest)
  | .list [] => ['[', ']']
  | .object [] => ['{', '}']
  | .null => "null".toList
  | .bool true => "true".toList
  | .bool false => "false".toList
  | .number n => n.write
  | .text s => quote s

def prettyItems (depth : Nat) : List Value → List Char
  | [] => newLine depth ++ [']']
  | v :: rest =>
      ',' :: (newLine (depth + 1) ++ v.writePretty (depth + 1) ++ prettyItems depth rest)

def prettyMembers (depth : Nat) : List (String × Value) → List Char
  | [] => newLine depth ++ ['}']
  | (name, v) :: rest =>
      ',' :: (newLine (depth + 1) ++ quote name ++ ':' :: ' ' :: v.writePretty (depth + 1)
        ++ prettyMembers depth rest)

end

/-- A value on one line. -/
def Value.compact (v : Value) : String :=
  String.ofList v.write

/-- A value over several lines. -/
def Value.pretty (v : Value) : String :=
  String.ofList (v.writePretty 0)

end BillingAccess.Json
