/-
Reading the draft of a JSON text.

Each reader takes the characters from where it starts and returns what it has
read with the characters that follow, or with none when the text cannot be
followed any further.
-/
import BillingAccess.Json.Draft
import BillingAccess.Json.Numeral
import BillingAccess.Text.Hex
import BillingAccess.Text.Utf8

namespace BillingAccess.Json

open BillingAccess.Decimal

/-- Blanks between tokens. -/
def isSpace (c : Char) : Bool :=
  c == ' ' || c == '\n' || c == '\r' || c == '\t'

def skipSpace (text : List Char) : List Char :=
  text.dropWhile isSpace

/-- A piece of a quoted text: a character, or a 16-bit unit written as an
escape. -/
inductive Piece
  | char (c : Char)
  | unit (n : Nat)
deriving Repr, DecidableEq

/-- What the letter after a backslash stands for. -/
def shortEscape? : Char → Option Char
  | '"' => some '"'
  | '\\' => some '\\'
  | '/' => some '/'
  | 'b' => some (Char.ofNat 8)
  | 'f' => some (Char.ofNat 12)
  | 'n' => some '\n'
  | 'r' => some '\r'
  | 't' => some '\t'
  | _ => none

/-- The value of four hexadecimal digits. -/
def hexUnit? (a b c d : Char) : Option Nat := do
  return (← Hex.value? a) * 4096 + (← Hex.value? b) * 256 + (← Hex.value? c) * 16 + (← Hex.value? d)

/-- Four bytes have to follow before their digits are looked at. -/
def shortUnit (text : List Char) : Cause :=
  if (Utf8.encode text).length < 4 then .truncated else .malformed

/-- Splits a text after its opening quote into pieces, and says what follows
the closing one. -/
def lexText : List Char → List Piece × Except Cause (List Char)
  | [] => ([], .error .truncated)
  | '"' :: rest => ([], .ok rest)
  | '\\' :: 'u' :: a :: b :: c :: d :: rest =>
      match hexUnit? a b c d with
      | some n =>
          let (pieces, after) := lexText rest
          (.unit n :: pieces, after)
      | none => ([], .error .malformed)
  | '\\' :: 'u' :: rest => ([], .error (shortUnit rest))
  | '\\' :: e :: rest =>
      match shortEscape? e with
      | some c =>
          let (pieces, after) := lexText rest
          (.char c :: pieces, after)
      | none => ([], .error .malformed)
  | '\\' :: [] => ([], .error .truncated)
  | c :: rest =>
      if c.toNat < 0x20 then ([], .error .malformed)
      else
        let (pieces, after) := lexText rest
        (.char c :: pieces, after)

/-- Joins the pieces to a text.  Two units make one character beyond the first
65536; a unit of such a pair is refused alone. -/
def joinPieces (ending : Option Cause) : List Piece → Except Cause (List Char)
  | [] =>
      match ending with
      | none => .ok []
      | some cause => .error cause
  | .char c :: rest => (joinPieces ending rest).map (c :: ·)
  | .unit n :: rest =>
      if n < 0xD800 ∨ 0xDFFF < n then (joinPieces ending rest).map (Char.ofNat n :: ·)
      else if 0xDC00 ≤ n then .error .malformed
      else
        match rest with
        | .unit m :: rest =>
            if 0xDC00 ≤ m ∧ m ≤ 0xDFFF then
              (joinPieces ending rest).map
                (Char.ofNat (0x10000 + (n - 0xD800) * 1024 + (m - 0xDC00)) :: ·)
            else .error .malformed
        | .char _ :: _ => .error .malformed
        | [] => .error (ending.getD .malformed)

/-- A quoted text after its opening quote: its characters, or why there are
none, and what follows. -/
def readText (text : List Char) : Except Cause String × Except Cause (List Char) :=
  let (pieces, after) := lexText text
  let ending :=
    match after with
    | .ok _ => none
    | .error cause => some cause
  ((joinPieces ending pieces).map String.ofList, after)

/-- The digits at the start. -/
def takeDigits : List Char → List Nat × List Char
  | [] => ([], [])
  | c :: rest =>
      match digit? c with
      | some d =>
          let (ds, after) := takeDigits rest
          (d :: ds, after)
      | none => ([], c :: rest)

/-- A digit is missing.  At the end of the text that is an early end for one
who reads the number, and a wrong number for one who skips it. -/
def missingDigit : List Char → Flaw
  | [] => ⟨.truncated, some .malformed⟩
  | _ :: _ => .fatal .malformed

/-- The exponent after its letter. -/
def readPower (text : List Char) : Except Flaw ((Bool × List Nat) × List Char) :=
  let (down, text) :=
    match text with
    | '+' :: rest => (false, rest)
    | '-' :: rest => (true, rest)
    | other => (false, other)
  match takeDigits text with
  | ([], after) => .error (missingDigit after)
  | (digits, after) => .ok ((down, digits), after)

/-- A numeral after its sign. -/
def readNumeral (negative : Bool) (text : List Char) : Except Flaw (Numeral × List Char) := do
  let (whole, after) := takeDigits text
  if whole = [] then throw (missingDigit after)
  if whole.head? = some 0 ∧ whole.length ≠ 1 then throw (.fatal .malformed)
  let (part, after) ←
    match after with
    | '.' :: rest =>
        match takeDigits rest with
        | ([], after) => throw (missingDigit after)
        | (digits, after) => pure (some digits, after)
    | other => pure (none, other)
  let (exponent, after) ←
    match after with
    | 'e' :: rest | 'E' :: rest => do
        let (power, after) ← readPower rest
        pure (some power, after)
    | other => pure (none, other)
  return (⟨negative, whole, part, exponent⟩, after)

/-- The draft of a number and what follows it. -/
def readNumber (negative : Bool) (text : List Char) : Draft × Option (List Char) :=
  match readNumeral negative text with
  | .error flaw => (.flawed flaw, none)
  | .ok (numeral, after) =>
      match numeral.number? with
      | some n => (.number n, some after)
      | none => (.flawed ⟨.malformed, none⟩, some after)

/-- One of the three words, after its first letter. -/
def readWord (draft : Draft) : List Char → List Char → Draft × Option (List Char)
  | [], text => (draft, some text)
  | _ :: _, [] => (.flawed (.fatal .truncated), none)
  | c :: word, d :: rest =>
      if c = d then readWord draft word rest else (.flawed (.fatal .malformed), none)

/-- A text that is read as a value. -/
def readTextValue (text : List Char) : Draft × Option (List Char) :=
  match readText text with
  | (.ok s, .ok after) => (.text s, some after)
  | (.ok _, .error cause) => (.flawed (.fatal cause), none)
  | (.error cause, .ok after) => (.flawed ⟨cause, none⟩, some after)
  | (.error cause, .error skipped) => (.flawed ⟨cause, some skipped⟩, none)

/-- Lists and objects nested deeper than this are refused. -/
def greatestDepth : Nat := 127

/-- A list or an object that lies too deep: whoever reads it fails at its
start. -/
def tooDeep (draft : Draft) : Draft :=
  .flawed ⟨.malformed, draft.skip⟩

mutual

/-- A value; `depth` more lists and objects may be entered.  `fuel` bounds the
characters. -/
def readValue : Nat → Nat → List Char → Draft × Option (List Char)
  | 0, _, _ => (.flawed (.fatal .truncated), none)
  | fuel + 1, depth, text =>
      match skipSpace text with
      | [] => (.flawed (.fatal .truncated), none)
      | 'n' :: rest => readWord .null ['u', 'l', 'l'] rest
      | 't' :: rest => readWord (.bool true) ['r', 'u', 'e'] rest
      | 'f' :: rest => readWord (.bool false) ['a', 'l', 's', 'e'] rest
      | '"' :: rest => readTextValue rest
      | '-' :: rest => readNumber true rest
      | '[' :: rest =>
          let (items, ending, after) := readItems fuel (depth - 1) rest
          let draft := Draft.list items ending
          (if depth = 0 then tooDeep draft else draft, after)
      | '{' :: rest =>
          let (members, ending, after) := readMembers fuel (depth - 1) rest
          let draft := Draft.object members ending
          (if depth = 0 then tooDeep draft else draft, after)
      | c :: rest =>
          if (digit? c).isSome then readNumber false (c :: rest)
          else (.flawed (.fatal .malformed), none)

/-- The items of a list after its bracket. -/
def readItems : Nat → Nat → List Char → List Draft × Option Flaw × Option (List Char)
  | 0, _, _ => ([], some (.fatal .truncated), none)
  | fuel + 1, depth, text =>
      match skipSpace text with
      | [] => ([], some (.fatal .truncated), none)
      | ']' :: rest => ([], none, some rest)
      | other => readItem fuel depth other

/-- One item and those after it. -/
def readItem : Nat → Nat → List Char → List Draft × Option Flaw × Option (List Char)
  | 0, _, _ => ([], some (.fatal .truncated), none)
  | fuel + 1, depth, text =>
      match readValue fuel depth text with
      | (draft, none) => ([draft], none, none)
      | (draft, some after) =>
          match skipSpace after with
          | [] => ([draft], some (.fatal .truncated), none)
          | ']' :: rest => ([draft], none, some rest)
          | ',' :: rest =>
              let (items, ending, after) := readItem fuel depth rest
              (draft :: items, ending, after)
          | _ => ([draft], some (.fatal .malformed), none)

/-- The members of an object after its brace. -/
def readMembers : Nat → Nat → List Char →
    List (Except Cause String × Draft) × Option Flaw × Option (List Char)
  | 0, _, _ => ([], some (.fatal .truncated), none)
  | fuel + 1, depth, text =>
      match skipSpace text with
      | '}' :: rest => ([], none, some rest)
      | other => readMember fuel depth other

/-- One member and those after it. -/
def readMember : Nat → Nat → List Char →
    List (Except Cause String × Draft) × Option Flaw × Option (List Char)
  | 0, _, _ => ([], some (.fatal .truncated), none)
  | fuel + 1, depth, text =>
      match skipSpace text with
      | [] => ([], some (.fatal .truncated), none)
      | '"' :: rest =>
          match readText rest with
          | (.ok _, .error cause) => ([], some (.fatal cause), none)
          | (.error cause, .error skipped) => ([], some ⟨cause, some skipped⟩, none)
          | (name, .ok after) =>
              match readMemberValue fuel depth after with
              | (draft, none) => ([(name, draft)], none, none)
              | (draft, some after) =>
                  match skipSpace after with
                  | [] => ([(name, draft)], some (.fatal .truncated), none)
                  | '}' :: rest => ([(name, draft)], none, some rest)
                  | ',' :: rest =>
                      let (members, ending, after) := readMember fuel depth rest
                      ((name, draft) :: members, ending, after)
                  | _ => ([(name, draft)], some (.fatal .malformed), none)
      | _ => ([], some (.fatal .malformed), none)

/-- The value of a member, from the colon on. -/
def readMemberValue : Nat → Nat → List Char → Draft × Option (List Char)
  | 0, _, _ => (.flawed (.fatal .truncated), none)
  | fuel + 1, depth, text =>
      match skipSpace text with
      | [] => (.flawed (.fatal .truncated), none)
      | ':' :: rest => readValue fuel depth rest
      | _ => (.flawed (.fatal .malformed), none)

end

/-- A whole text: its draft, and whether more than blanks follow it. -/
structure Document where
  root : Draft
  trailing : Bool

/-- Reads a text.  No character is passed more than three times. -/
def Document.ofText (text : List Char) : Document :=
  let (root, after) := readValue (3 * text.length + 3) greatestDepth text
  ⟨root, ((after.map skipSpace).getD []) ≠ []⟩

/-- Takes the root by `read`; a flaw in the root comes before what follows
it. -/
def Document.decode {α : Type} (read : Draft → Except Cause α) (document : Document) :
    Except Cause α := do
  let a ← read document.root
  if document.trailing then throw .malformed
  return a

/-- Reads a text as whatever `read` makes of its draft. -/
def decodeText {α : Type} (read : Draft → Except Cause α) (text : List Char) : Except Cause α :=
  (Document.ofText text).decode read

/-- The value that a text spells. -/
def parse (s : String) : Except Cause Value :=
  decodeText Draft.value s.toList

end BillingAccess.Json
