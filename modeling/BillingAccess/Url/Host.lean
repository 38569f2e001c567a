/-
Hosts: names and addresses.

A host of one of the well-known schemes is an address if it is in brackets or
ends in a number, and a name otherwise.  A host of another scheme is kept as it
is, brackets apart.
-/
import BillingAccess.Text.Digits
import BillingAccess.Url.Domain
import BillingAccess.Url.Fault

namespace BillingAccess.Url

inductive Host
  | named (text : String)
  | ipv4 (address : UInt32)
  | ipv6 (pieces : List Nat)
deriving Repr, DecidableEq

/-- A part of an address: none if it is no number, and no value if it is too
large a number.  A leading zero means base eight, and `0x` base sixteen. -/
def readPart? (text : List Char) : Option (Option Nat) :=
  let read (base : Nat) (digits : List Char) : Option (Option Nat) :=
    (digits.mapM fun c => (Hex.value? c).filter (· < base)).map fun values =>
      let n := values.foldl (fun n d => n * base + d) 0
      if n ≤ Decimal.greatest32 then some n else none
  match text with
  | [] => none
  | '0' :: 'x' :: rest => read 16 rest
  | '0' :: 'X' :: rest => read 16 rest
  | '0' :: c :: rest => read 8 (c :: rest)
  | _ => read 10 text

/-- The parts of a name, without an empty one at the end. -/
def dottedParts (text : List Char) : List (List Char) :=
  let parts := text.splitOn '.'
  if parts.getLast? = some [] then parts.dropLast else parts

/-- A name whose last part is a number has to be an address. -/
def endsInNumber (text : List Char) : Bool :=
  match (dottedParts text).getLast? with
  | some last => (last != [] && last.all Char.isDigit) || (readPart? last).isSome
  | none => false

/-- At most four parts.  The last fills all bytes that the others leave, each
of which is one byte. -/
def readIpv4? (text : List Char) : Option UInt32 := do
  let parts := dottedParts text
  let numbers ← parts.mapM fun part => (readPart? part).join
  let last ← numbers.getLast?
  let front := numbers.dropLast
  let room := Nat.pow 256 (4 - front.length)
  if parts.length ≤ 4 ∧ (∀ n ∈ front, n < 256) ∧ last < room then
    let high := front.foldl (fun n d => n * 256 + d) 0
    some (UInt32.ofNat (high * room + last))
  else none

def ipv4Text (address : UInt32) : List Char :=
  let n := address.toNat
  ['.'].intercalate
    ([n / 0x1000000, n / 0x10000 % 256, n / 0x100 % 256, n % 256].map Decimal.writeNat)

/-- A piece of at most four hexadecimal digits. -/
def readPiece? (text : List Char) : Option Nat :=
  if text.length = 0 ∨ 4 < text.length then none
  else (text.mapM Hex.value?).map fun digits => digits.foldl (fun n d => n * 16 + d) 0

/-- A byte in decimal, without leading zeros. -/
def readByte? (text : List Char) : Option Nat :=
  if text.length ≠ 1 ∧ text.head? = some '0' then none
  else (Decimal.readNat? text).filter (· < 256)

/-- Four bytes as two pieces. -/
def readQuad? (text : List Char) : Option (List Nat) := do
  match ← (text.splitOn '.').mapM readByte? with
  | [a, b, c, d] => some [a * 256 + b, c * 256 + d]
  | _ => none

/-- The pieces of a row; `quad` says that the last may be written as four bytes. -/
def readPieces? (quad : Bool) : List (List Char) → Option (List Nat)
  | [] => some []
  | [last] =>
      match readPiece? last with
      | some n => some [n]
      | none => if quad then readQuad? last else none
  | piece :: rest => do
      let n ← readPiece? piece
      return n :: (← readPieces? quad rest)

def readRow? (quad : Bool) (text : List Char) : Option (List Nat) :=
  if text = [] then some [] else readPieces? quad (text.splitOn ':')

/-- What stands before and after the first two colons in a row. -/
def splitGap? : List Char → Option (List Char × List Char)
  | ':' :: ':' :: rest => some ([], rest)
  | c :: rest => (splitGap? rest).map fun (before, after) => (c :: before, after)
  | [] => none

/-- Eight pieces, or fewer around a gap of zeros. -/
def readIpv6? (text : List Char) : Option (List Nat) :=
  match splitGap? text with
  | none => (readRow? true text).filter (·.length = 8)
  | some (before, after) => do
      let front ← readRow? false before
      let back ← readRow? true after
      if front.length + back.length < 8 then
        some (front ++ List.replicate (8 - front.length - back.length) 0 ++ back)
      else none

/-- A piece without leading zeros. -/
def pieceText (n : Nat) : List Char :=
  let digits := ([n / 4096 % 16, n / 256 % 16, n / 16 % 16].dropWhile (· == 0)) ++ [n % 16]
  digits.map fun d => (Hex.digit d).toLower

def rowText (pieces : List Nat) : List Char :=
  [':'].intercalate (pieces.map pieceText)

/-- The number of zeros at the start of each tail. -/
def zeroRuns : List Nat → List Nat
  | [] => []
  | n :: rest => ((n :: rest).takeWhile (· == 0)).length :: zeroRuns rest

/-- The first longest run of two zeros or more is written as a gap. -/
def ipv6Text (pieces : List Nat) : List Char :=
  let runs := zeroRuns pieces
  let longest := runs.foldl max 0
  if longest < 2 then rowText pieces
  else
    let start := runs.idxOf longest
    rowText (pieces.take start) ++ ':' :: ':' :: rowText (pieces.drop (start + longest))

def Host.text : Host → String
  | .named text => text
  | .ipv4 address => String.ofList (ipv4Text address)
  | .ipv6 pieces => String.ofList ('[' :: ipv6Text pieces ++ [']'])

/-- What stands between brackets, if the text starts with one. -/
def bracketed? : List Char → Option (Except Fault (List Char))
  | '[' :: rest =>
      if rest.getLast? = some ']' then some (.ok rest.dropLast) else some (.error .badIpv6)
  | _ => none

def readBracketed (text : List Char) : Except Fault Host :=
  match readIpv6? text with
  | some pieces => .ok (.ipv6 pieces)
  | none => .error .badIpv6

/-- The host of a well-known scheme. -/
def Host.read (text : List Char) : Except Fault Host :=
  match bracketed? text with
  | some inner => inner.bind readBracketed
  | none =>
      match Domain.toAscii? (Percent.decode text) with
      | none => .error .badName
      | some "" => .error .emptyHost
      | some name =>
          if endsInNumber name.toList then
            match readIpv4? name.toList with
            | some address => .ok (.ipv4 address)
            | none => .error .badIpv4
          else .ok (.named name)

/-- The characters that no host may hold. -/
def hostBreaker (c : Char) : Bool :=
  "\x00\t\n\r #/:<>?@[\\]^|".toList.contains c

/-- The host of another scheme; it may be empty. -/
def Host.readPlain (text : List Char) : Except Fault Host :=
  match bracketed? text with
  | some inner => inner.bind readBracketed
  | none =>
      if text.any hostBreaker then .error .badHostCharacter
      else .ok (.named (String.ofList (Percent.encode Percent.control text)))

example : (readIpv4? "0x7F.1".toList).map ipv4Text = some "127.0.0.1".toList := by
  decide +kernel
example : (readIpv6? "1:0:0:2::ffff:1.2.3.4".toList).map ipv6Text
    = some "1::2:0:ffff:102:304".toList := by decide +kernel
example : readIpv4? "1.2.3.4.5".toList = none := by decide +kernel
example : readIpv6? "1::2:".toList = none := by decide +kernel

end BillingAccess.Url
