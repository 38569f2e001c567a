/-
Spans of time and how they are written: in the largest unit that is not below
one, with as many places as they need.
-/
import BillingAccess.Text.Blank
import BillingAccess.Text.Digits

namespace BillingAccess

structure Duration where
  nanoseconds : Nat
deriving Repr, DecidableEq

namespace Duration

def ofSeconds (n : Nat) : Duration := ⟨n * 1000000000⟩
def ofMilliseconds (n : Nat) : Duration := ⟨n * 1000000⟩

/-- A number of `places` decimal places, without zeros at its end. -/
def fraction (places n : Nat) : List Char :=
  match Text.trimEndBy (· == '0') (Decimal.padNat places n) with
  | [] => []
  | digits => '.' :: digits

/-- The span in a unit that is a power of ten of nanoseconds. -/
def inUnit (places : Nat) (unit : String) (d : Duration) : String :=
  String.ofList (Decimal.writeNat (d.nanoseconds / Nat.pow 10 places)
    ++ fraction places (d.nanoseconds % Nat.pow 10 places)) ++ unit

def text (d : Duration) : String :=
  if 1000000000 ≤ d.nanoseconds then d.inUnit 9 "s"
  else if 1000000 ≤ d.nanoseconds then d.inUnit 6 "ms"
  else if 1000 ≤ d.nanoseconds then d.inUnit 3 "µs"
  else d.inUnit 0 "ns"

example : (ofMilliseconds 1500).text = "1.5s" := by decide +kernel
example : (Duration.mk 1000).text = "1µs" := by decide +kernel
example : (Duration.mk 0).text = "0ns" := by decide +kernel

end Duration

end BillingAccess
