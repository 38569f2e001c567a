/-
How many columns of a terminal a text takes.

Most characters take one column.  Control characters and marks that are put on
the character before take none; the wide characters of East Asia and pictures
take two.
-/
import BillingAccess.Text.Mark

namespace BillingAccess.Text

/-- Characters that take two columns. -/
def wide : List Run := Run.table [
  "1100-115f 231a-231b 2329-232a 23e9-23ec 23f0 23f3 25fd-25fe 2614-2615 2630-2637 2648-2653 267f",
  "268a-268f 2693 26a1 26aa-26ab 26bd-26be 26c4-26c5 26ce 26d4 26ea 26f2-26f3 26f5 26fa 26fd 2705",
  "270a-270b 2728 274c 274e 2753-2755 2757 2795-2797 27b0 27bf 2b1b-2b1c 2b50 2b55 2e80-2e99",
  "2e9b-2ef3 2f00-2fd5 2ff0-303e 3041-3096 3099-30ff 3105-312f 3131-318e 3190-31e5 31ef-321e",
  "3220-3247 3250-a48c a490-a4c6 a960-a97c ac00-d7a3 f900-faff fe10-fe19 fe30-fe52 fe54-fe66",
  "fe68-fe6b ff01-ff60 ffe0-ffe6 16fe0-16fe4 16ff0-16ff1 17000-187f7 18800-18cd5 18cff-18d08",
  "1aff0-1aff3 1aff5-1affb 1affd-1affe 1b000-1b122 1b132 1b150-1b152 1b155 1b164-1b167",
  "1b170-1b2fb 1d300-1d356 1d360-1d376 1f004 1f0cf 1f18e 1f191-1f19a 1f200-1f202 1f210-1f23b",
  "1f240-1f248 1f250-1f251 1f260-1f265 1f300-1f320 1f32d-1f335 1f337-1f37c 1f37e-1f393",
  "1f3a0-1f3ca 1f3cf-1f3d3 1f3e0-1f3f0 1f3f4 1f3f8-1f43e 1f440 1f442-1f4fc 1f4ff-1f53d",
  "1f54b-1f54e 1f550-1f567 1f57a 1f595-1f596 1f5a4 1f5fb-1f64f 1f680-1f6c5 1f6cc 1f6d0-1f6d2",
  "1f6d5-1f6d7 1f6dc-1f6df 1f6eb-1f6ec 1f6f4-1f6fc 1f7e0-1f7eb 1f7f0 1f90c-1f93a 1f93c-1f945",
  "1f947-1f9ff 1fa70-1fa7c 1fa80-1fa89 1fa8f-1fac6 1face-1fadc 1fadf-1fae9 1faf0-1faf8",
  "20000-2fffd 30000-3fffd"]

/-- Korean vowels and closing consonants, which stand in one column with the consonant
before them. -/
def isInner (n : Nat) : Bool :=
  (0x1160 ≤ n && n ≤ 0x11FF) || (0xD7B0 ≤ n && n ≤ 0xD7FF)

def charWidth (c : Char) : Nat :=
  let n := c.toNat
  if n < 0x80 then if n < 0x20 || n == 0x7F then 0 else 1
  else if n < 0xA0 || isInner n || isNonspacing c || isSteering c then 0
  else if Run.anyHolds wide n then 2
  else 1

/-- The text without the marks of styles.  `inMark` says that one has begun. -/
def withoutMarks : Bool → List Char → List Char
  | false, '\x1b' :: '[' :: rest => withoutMarks true rest
  | false, c :: rest => c :: withoutMarks false rest
  | true, c :: rest => withoutMarks (c != 'm') rest
  | _, [] => []

/-- The columns that a line takes. -/
def width (line : List Char) : Nat :=
  ((withoutMarks false line).map charWidth).foldr (· + ·) 0

example : width "\x1b[32mpaid\x1b[0m".toList = 4 := by decide +kernel

end BillingAccess.Text
