/-
Labels of a domain name that hold more than ASCII, written in ASCII alone.

The characters of ASCII come first and a hyphen after them; then follows, for
each other character in increasing order, how far to advance a counter of
characters and places, as a number with digits of growing weight.
-/
import BillingAccess.Text.Digits

namespace BillingAccess.Punycode

def base : Nat := 36
def leastThreshold : Nat := 1
def greatestThreshold : Nat := 26
def firstBias : Nat := 72
def firstOther : Nat := 0x80

/-- Divides until a step fits, and counts the divisions. -/
def settle (count delta : Nat) : Nat × Nat :=
  if delta > (base - leastThreshold) * greatestThreshold / 2 then
    settle (count + 1) (delta / (base - leastThreshold))
  else (count, delta)
termination_by delta
decreasing_by simp only [base, leastThreshold, greatestThreshold] at *; omega

/-- The bias for the next number: a small one after small steps. -/
def adapt (delta places : Nat) (first : Bool) : Nat :=
  let delta := if first then delta / 700 else delta / 2
  let (count, delta) := settle 0 (delta + delta / places)
  base * count + (base - leastThreshold + 1) * delta / (delta + 38)

/-- The least digit value at which the digit of weight number `k` ends a number. -/
def threshold (bias k : Nat) : Nat :=
  min greatestThreshold (max leastThreshold (base * k - bias))

def digit (n : Nat) : Char :=
  if n < 26 then Char.ofNat (97 + n) else Char.ofNat (22 + n)

def digit? (c : Char) : Option Nat :=
  let n := c.toNat
  if 97 ≤ n ∧ n ≤ 122 then some (n - 97)
  else if 65 ≤ n ∧ n ≤ 90 then some (n - 65)
  else if 48 ≤ n ∧ n ≤ 57 then some (n - 22)
  else none

/-- Writes a number, from the digit of weight number `k` on.  `fuel` bounds the
digits. -/
def writeNumber (bias : Nat) : Nat → Nat → Nat → List Char
  | 0, _, n => [digit n]
  | fuel + 1, k, n =>
      let t := threshold bias k
      if n < t then [digit n]
      else digit (t + (n - t) % (base - t)) :: writeNumber bias fuel (k + 1) ((n - t) / (base - t))

/-- Where the writer stands: all characters below `next` are written, `delta`
counts since the last one. -/
structure Writer where
  delta : Nat
  bias : Nat
  written : Nat
  first : Bool
  output : List Char

/-- Passes one place of the label while the characters equal to `next` are
written. -/
def Writer.pass (next : Nat) (w : Writer) (c : Char) : Writer :=
  if c.toNat < next then { w with delta := w.delta + 1 }
  else if c.toNat = next then
    { delta := 0
      bias := adapt w.delta (w.written + 1) w.first
      written := w.written + 1
      first := false
      output := w.output ++ writeNumber w.bias w.delta 1 w.delta }
  else w

/-- Writes the characters in `others`, which are in increasing order. -/
def writeOthers (label : List Char) : Nat → List Nat → Writer → List Char
  | _, [], w => w.output
  | next, c :: rest, w =>
      let w := { w with delta := w.delta + (c - next) * (w.written + 1) }
      let w := label.foldl (Writer.pass c) w
      writeOthers label (c + 1) rest { w with delta := w.delta + 1 }

/-- Puts a number in its place among increasing ones, unless it is there. -/
def insertOnce (n : Nat) : List Nat → List Nat
  | [] => [n]
  | m :: rest =>
      if n < m then n :: m :: rest
      else if n = m then m :: rest
      else m :: insertOnce n rest

/-- The characters outside ASCII, in increasing order, each once. -/
def others (label : List Char) : List Nat :=
  ((label.map Char.toNat).filter (firstOther ≤ ·)).foldr insertOnce []

/-- A label in ASCII. -/
def encode (label : List Char) : List Char :=
  let simple := label.filter (·.toNat < firstOther)
  let start := if simple = [] then [] else simple ++ ['-']
  writeOthers label firstOther (others label) ⟨0, firstBias, simple.length, true, start⟩

/-- Reads a number from the digit of weight number `k` on, and what follows it.
No weight may take more than 32 bits. -/
def readNumber (bias : Nat) : Nat → Nat → Nat → List Char → Option (Nat × List Char)
  | _, _, _, [] => none
  | k, weight, sum, c :: rest =>
      match digit? c with
      | none => none
      | some d =>
          let t := threshold bias k
          if d < t then some (sum + d * weight, rest)
          else if Decimal.greatest32 < weight * (base - t) then none
          else readNumber bias (k + 1) (weight * (base - t)) (sum + d * weight) rest

/-- Reads numbers and puts the character of each in its place.  `fuel` bounds
their count. -/
def readOthers : Nat → Nat → Nat → Nat → Bool → List Char → List Char → Option (List Char)
  | _, _, _, _, _, label, [] => some label
  | 0, _, _, _, _, _, _ => none
  | fuel + 1, next, place, bias, first, label, input =>
      match readNumber bias 1 1 0 input with
      | none => none
      | some (delta, rest) =>
          let places := label.length + 1
          let next := next + (place + delta) / places
          let place := (place + delta) % places
          if next.isValidChar then
            readOthers fuel next (place + 1) (adapt delta places first) false
              (label.insertIdx place (Char.ofNat next)) rest
          else none

/-- The label that a text in ASCII stands for.  A hyphen with nothing before it is
no digit and ends no characters. -/
def decode? (text : List Char) : Option (List Char) :=
  let tail := (text.reverse.takeWhile (· != '-')).reverse
  let simple := text.take (text.length - tail.length - 1)
  if simple.all (·.toNat < firstOther) && (simple != [] || tail == text) then
    readOthers text.length firstOther 0 firstBias true simple tail
  else none

example : String.ofList (encode "bücher".toList) = "bcher-kva" := by decide +kernel
example : decode? "bcher-kva".toList = some "bücher".toList := by decide +kernel
example : decode? "-bcher".toList = none := by decide +kernel
example : String.ofList (encode "例え".toList) = "r8jz45g" := by decide +kernel

end BillingAccess.Punycode
