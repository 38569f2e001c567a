/-
Reading the words of a command line.

Options have a long name after two hyphens, and some a letter after one.  A
value is attached to an option, or it is the next word.  A word that is no
option is a command or an operand, and after two hyphens alone no word is an
option.  An option whose value is the next word is only looked at when the next
option is taken, or at the end.
-/
import BillingAccess.Text.Digits

namespace BillingAccess.CommandLine

/-- How the value of an option is read. -/
inductive Reading
  | text
  /-- A path is not empty. -/
  | path
  /-- A number of 32 bits. -/
  | count
  /-- A number of 64 bits. -/
  | seconds
deriving Repr, DecidableEq

/-- What an option is for. -/
inductive Purpose
  | flag
  | value (reading : Reading)
  | help
  | version
deriving Repr, DecidableEq

structure Switch where
  name : String
  letter : Option Char := none
  purpose : Purpose
deriving Repr, DecidableEq

/-- Why a command line is not carried out.  The first two are wishes. -/
inductive Refusal
  | help
  | version
  /-- Nothing was said at all. -/
  | nothing
  | unknownWord
  | unknownCommand
  | missingCommand
  | missingOperand
  /-- An option has no value. -/
  | missingValue
  /-- A flag has a value. -/
  | unneededValue
  | malformedValue
  /-- An option was given before. -/
  | repeated
deriving Repr, DecidableEq

/-- What may stand on a line. -/
structure Grammar where
  switches : List Switch
  operands : Nat := 0
  commands : List String := []

/-- What has been read of a line.  `pending` is an option whose value is, or is
to be, a word of its own. -/
structure Line where
  given : List (String × String) := []
  operands : List String := []
  pending : Option (Switch × Option String) := none
deriving Repr, DecidableEq

/-- A number that is at most `2 ^ 32 - 1`; a zero may have a minus. -/
def readCount? (text : String) : Option UInt32 :=
  ((Decimal.readInt64? text.toList).filter fun (n : Int64) =>
    0 ≤ n.toInt ∧ n.toInt ≤ Decimal.greatest32).map fun n => UInt32.ofNat n.toInt.toNat

/-- A number that is at most `2 ^ 64 - 1`. -/
def readSeconds? (text : String) : Option UInt64 :=
  (Decimal.readUnsigned? Decimal.greatest64 text.toList).map UInt64.ofNat

/-- Checks a value. -/
def Reading.check (reading : Reading) (text : String) : Except Refusal Unit :=
  match reading with
  | .text => .ok ()
  | .path => if text = "" then .error .missingValue else .ok ()
  | .count => if (readCount? text).isSome then .ok () else .error .malformedValue
  | .seconds => if (readSeconds? text).isSome then .ok () else .error .malformedValue

def Switch.check (switch : Switch) (text : String) : Except Refusal Unit :=
  match switch.purpose with
  | .value reading => reading.check text
  | _ => .ok ()

namespace Line

def isWaiting (line : Line) : Bool :=
  match line.pending with
  | some (_, none) => true
  | _ => false

def value? (line : Line) (name : String) : Option String :=
  line.given.lookup name

def has (line : Line) (name : String) : Bool :=
  (line.value? name).isSome

/-- Takes an option with its value; no option may be given twice. -/
def give (line : Line) (switch : Switch) (text : String) : Except Refusal Line := do
  if line.has switch.name then throw .repeated
  switch.check text
  return { line with given := line.given ++ [(switch.name, text)] }

/-- Takes the option that is pending. -/
def settle (line : Line) : Except Refusal Line :=
  match line.pending with
  | none => .ok line
  | some (_, none) => .error .missingValue
  | some (switch, some text) => { line with pending := none }.give switch text

/-- Takes an option, with the value that is attached to it. -/
def take (line : Line) (switch : Switch) (attached : Option String) : Except Refusal Line :=
  match switch.purpose, attached with
  | .value _, some text => do (← line.settle).give switch text
  | .value _, none => do return { ← line.settle with pending := some (switch, none) }
  | _, some _ => .error .unneededValue
  | .flag, none => do (← line.settle).give switch ""
  | .help, none => do let _ ← line.settle; throw .help
  | .version, none => do let _ ← line.settle; throw .version

/-- Takes letters after a hyphen; what follows an option with a value is its
value, after an equals sign or without one. -/
def takeLetters (grammar : Grammar) : Line → List Char → Except Refusal Line
  | line, [] => .ok line
  | line, c :: rest =>
      match grammar.switches.find? (·.letter == some c) with
      | none => .error .unknownWord
      | some switch =>
          match switch.purpose, rest with
          | .value _, [] => line.take switch none
          | .value _, '=' :: text => line.take switch (some (String.ofList text))
          | .value _, text => line.take switch (some (String.ofList text))
          | _, _ => do takeLetters grammar (← line.take switch none) rest

/-- Takes a long name and the value after an equals sign. -/
def takeName (grammar : Grammar) (line : Line) (body : List Char) : Except Refusal Line :=
  let name := String.ofList (body.takeWhile (· != '='))
  let attached := match body.dropWhile (· != '=') with
    | _ :: text => some (String.ofList text)
    | [] => none
  match grammar.switches.find? (·.name == name) with
  | none => .error .unknownWord
  | some switch => line.take switch attached

/-- Takes an operand, if there is room for one. -/
def takeOperand (grammar : Grammar) (line : Line) (text : String) (refusal : Refusal) :
    Except Refusal Line := do
  if line.operands.length < grammar.operands then
    return { ← line.settle with operands := line.operands ++ [text] }
  else throw refusal

end Line

namespace Grammar

/-- Why a word is out of place. -/
def misplaced (grammar : Grammar) : Refusal :=
  if grammar.commands = [] then .unknownWord else .unknownCommand

/-- Takes the words after two hyphens; none of them is a command. -/
def takeOperands (grammar : Grammar) : Line → List String → Except Refusal Line
  | line, [] => .ok line
  | line, word :: rest => do
      let refusal := if grammar.commands.contains word then .unknownWord else grammar.misplaced
      grammar.takeOperands (← line.takeOperand grammar word refusal) rest

/-- Takes words up to a command; gives the command and the words after it. -/
def takeWords (grammar : Grammar) :
    Line → List String → Except Refusal (Line × Option (String × List String))
  | line, [] => .ok (line, none)
  | line, word :: rest =>
      if !line.isWaiting && grammar.commands.contains word then .ok (line, some (word, rest))
      else
        match word.toList with
        | ['-', '-'] => do return (← grammar.takeOperands line rest, none)
        | '-' :: '-' :: body => do grammar.takeWords (← line.takeName grammar body) rest
        | '-' :: c :: letters => do
            grammar.takeWords (← line.takeLetters grammar (c :: letters)) rest
        | _ =>
            match line.pending with
            | some (switch, none) =>
                grammar.takeWords { line with pending := some (switch, some word) } rest
            | _ => do
                grammar.takeWords (← line.takeOperand grammar word grammar.misplaced) rest

end Grammar

end BillingAccess.CommandLine
