/-
Names of which a part is written from right to left.

In such a name every label has to keep to one direction, that of its first
letter, and must end in a letter or a digit, so that no label seems to reach into
the next.
-/
import BillingAccess.Text.Mark

namespace BillingAccess.Domain

/-- How a character is laid out. -/
inductive Direction
  /-- Letters of most scripts, which follow one another to the right. -/
  | rightward
  /-- Letters of Arabic, Hebrew and others, which follow one another to the left. -/
  | leftward
  /-- Digits that stand with letters of either direction. -/
  | digit
  /-- Digits that stand with leftward letters alone. -/
  | leftwardDigit
  /-- Marks, which go with the character before them. -/
  | mark
  | neutral
deriving Repr, DecidableEq

namespace Direction

/-! The runs of each table pass over characters that a table before it holds, or
that no name may hold. -/

/-- Marks that are laid out as letters. -/
def letterMarks : List Text.Run := Text.Run.table [
  "cbf cc6 11a07-11a08 11c3f"]

def digits : List Text.Run := Text.Run.table [
  "30-39 6f0-6f9 102e1-102fb"]

def leftwardDigits : List Text.Run := Text.Run.table [
  "660-669 66b-66c 10d30-10d49 10e60-10e7e"]

def leftwards : List Text.Run := Text.Run.table [
  "5be-5f4 608 60b 60d 61b-64a 66d-6d5 6e5-6e6 6ee-7f5 7fa-8c9 fbb2-fbc2 fe73 10800-1091b",
  "10920-10b35 10b40-10d4f 10d6f-10ec7 10f00-10ff6 1e800-1ed3d"]

def neutrals : List Text.Run := Text.Run.table [
  "0-8 e-1b 21-60 7b-d7 f7 2b9-2ba 2c2-2cf 2d2-2ed 2ef-2ff 375 3f6 58a-7f9 9f2-9f3 9fb af1",
  "bf3-bfa c78-c7e e3f f3a-f3d 1390-1399 1400 169b-169c 17db 17f0-180a 1940-1945 19de-19ff",
  "200c-214d 218a-2335 237b-2394 2396-26ab 26ad-27ff 2900-2bff 2ce5-2cea 2cf9-2cff 2e00-3004",
  "3008-3020 3030 3037 303d-303f 30a0 30fb 31c0-31e5 4dc0-4dff a490-a4c6 a60d-a60f a673-a67f",
  "a700-a721 a788 a828-a82b a838-a839 a874-a877 ab6a-ab6b fbc3-fe46 10101 10140-1018c 10190-101a0",
  "1091f-10ed8 11052-11065 11660-1166c 11fd5-11ff1 16fe2 1cc00-1cef0 1d1e9-1d245 1d300-1d356",
  "1e2ff 1eef0-1f12f 1f16d-1f16f 1f1ad 1f260-1fbfa"]

/-- The first of all marks and leftward letters. -/
def firstLeftward : Nat := 0x590

def ofChar (c : Char) : Direction :=
  if Text.isNonspacing c && !Text.Run.anyHolds letterMarks c.toNat then mark
  else if Text.Run.anyHolds digits c.toNat then digit
  else if Text.Run.anyHolds leftwardDigits c.toNat then leftwardDigit
  else if Text.Run.anyHolds leftwards c.toNat then leftward
  else if Text.Run.anyHolds neutrals c.toNat then neutral
  else rightward

end Direction

/-- Whether a character makes the whole name one of two directions. -/
def turns (c : Char) : Bool :=
  Direction.firstLeftward ≤ c.toNat
    && (Direction.ofChar c == .leftward || Direction.ofChar c == .leftwardDigit)

/-- Whether a label keeps to the direction of its first letter.  Marks at its end
do not count, and the two kinds of digits do not go together. -/
def keepsDirection (label : List Char) : Bool :=
  match label.map Direction.ofChar with
  | [] => true
  | first :: rest =>
      let rest := (rest.reverse.dropWhile (· == .mark)).reverse
      match first with
      | .rightward =>
          rest.all (fun d => d != .leftward && d != .leftwardDigit)
            && rest.getLast?.all fun d => d == .rightward || d == .digit
      | .leftward =>
          rest.all (· != .rightward) && !(rest.contains .digit && rest.contains .leftwardDigit)
            && rest.getLast?.all fun d => d == .leftward || d == .digit || d == .leftwardDigit
      | _ => false

/-- Whether no label turns, or every label keeps its direction. -/
def agreeInDirection (labels : List (List Char)) : Bool :=
  !labels.any (·.any turns) || labels.all keepsDirection

example : agreeInDirection ["1a-".toList, "b".toList] = true := by decide +kernel

end BillingAccess.Domain
