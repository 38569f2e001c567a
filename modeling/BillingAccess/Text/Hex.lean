/-
Digits of base sixteen.
-/

namespace BillingAccess.Hex

/-- The digit of a value below sixteen, in capitals. -/
def digit (n : Nat) : Char :=
  if n < 10 then Char.ofNat (48 + n) else Char.ofNat (55 + n)

/-- The value of a digit, in small letters or capitals. -/
def value? (c : Char) : Option Nat :=
  let n := c.toNat
  if 48 ≤ n ∧ n ≤ 57 then some (n - 48)
  else if 65 ≤ n ∧ n ≤ 70 then some (n - 55)
  else if 97 ≤ n ∧ n ≤ 102 then some (n - 87)
  else none

/-- A digit is read as the value that it is written for. -/
theorem value?_digit {n : Nat} (h : n < 16) : value? (digit n) = some n := by
  have all : ∀ m ∈ List.range 16, value? (digit m) = some m := by decide
  exact all n (List.mem_range.mpr h)

/-- The number that some digits make.  Any other character counts as a zero. -/
def number (digits : List Char) : Nat :=
  digits.foldl (fun n c => n * 16 + (value? c).getD 0) 0

/-- The digits of a number, in small letters and without leading zeros. -/
def digits (n : Nat) : List Char :=
  Nat.toDigits 16 n

example : number "1e9E".toList = 0x1E9E := by decide +kernel
example : digits 0x7F = "7f".toList := by decide +kernel

end BillingAccess.Hex
