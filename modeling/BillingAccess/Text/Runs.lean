/-
Tables over characters, as text.

A table has lines of entries with blanks between them.  An entry says for which
characters it stands, in hexadecimal: `e0` for one, `e0-f6` for a run, `100-12e/2`
for every second of a run.  After a colon comes what it says of the first of
them: some numbers with plus signs between them.  What follows a comma is said
of the next character.
-/
import BillingAccess.Text.Blank
import BillingAccess.Text.Hex

namespace BillingAccess.Text

/-- Every `step`-th number from `first` to `last`, and what is said of `first`. -/
structure Run where
  first : Nat
  last : Nat
  step : Nat
  values : List Nat
deriving Repr, DecidableEq

namespace Run

/-- What stands before and after the first `mark`. -/
def cut (mark : Char) (text : List Char) : List Char × List Char :=
  (text.takeWhile (· != mark), (text.dropWhile (· != mark)).drop 1)

/-- Numbers with plus signs between them. -/
def numbers (text : List Char) : List Nat :=
  if text = [] then [] else (text.splitOn '+').map Hex.number

def read (entry : List Char) : List Run :=
  let (span, images) := cut ':' entry
  let (ends, step) := cut '/' span
  let (first, last) := cut '-' ends
  (images.splitOn ',').zipIdx.map fun (image, i) =>
    { first := Hex.number first + i
      last := Hex.number (if last = [] then first else last) + i
      step := if step = [] then 1 else Hex.number step
      values := numbers image }

/-- The runs of a table. -/
def table (lines : List String) : List Run :=
  lines.flatMap fun line => (words line.toList).flatMap read

def holds (run : Run) (n : Nat) : Bool :=
  run.first ≤ n && n ≤ run.last && (n - run.first) % run.step == 0

/-- Whether a run of a table holds a number. -/
def anyHolds (runs : List Run) (n : Nat) : Bool :=
  runs.any (·.holds n)

/-- The one number that a table says of all characters of a run. -/
def class? (runs : List Run) (n : Nat) : Option Nat :=
  (runs.find? (·.holds n)).bind (·.values.head?)

/-- What a table turns a number into: as far from what it turns the first of the
run into as the number is from the first. -/
def image? (runs : List Run) (n : Nat) : Option (List Nat) :=
  (runs.find? (·.holds n)).map fun run => run.values.map (· + (n - run.first))

example : table ["e0-f6:c0 100-12e/2:101", "1f80:1f00+3b9,1f01+3b9"]
    = [⟨0xE0, 0xF6, 1, [0xC0]⟩, ⟨0x100, 0x12E, 2, [0x101]⟩, ⟨0x1F80, 0x1F80, 1, [0x1F00, 0x3B9]⟩,
        ⟨0x1F81, 0x1F81, 1, [0x1F01, 0x3B9]⟩] := by
  decide +kernel
example : image? [⟨0x100, 0x12E, 2, [0x101]⟩] 0x104 = some [0x105] := by decide

end Run

end BillingAccess.Text
