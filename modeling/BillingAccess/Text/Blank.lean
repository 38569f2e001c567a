/-
White space, as the Unicode property names it, and texts without it at their
ends.
-/

namespace BillingAccess.Text

/-- The characters with the property White_Space. -/
def isBlank (c : Char) : Bool :=
  let n := c.toNat
  (0x09 ≤ n && n ≤ 0x0D) || n == 0x20 || n == 0x85 || n == 0xA0 || n == 0x1680
    || (0x2000 ≤ n && n ≤ 0x200A) || n == 0x2028 || n == 0x2029 || n == 0x202F
    || n == 0x205F || n == 0x3000

/-- The list without the leading and trailing members that satisfy `p`. -/
def trimBy (p : Char → Bool) (text : List Char) : List Char :=
  ((text.dropWhile p).reverse.dropWhile p).reverse

/-- The list without the trailing members that satisfy `p`. -/
def trimEndBy (p : Char → Bool) (text : List Char) : List Char :=
  (text.reverse.dropWhile p).reverse

/-- The text without blanks at either end. -/
def trim (s : String) : String :=
  String.ofList (trimBy isBlank s.toList)

/-- A text of blanks alone. -/
def isBlankText (s : String) : Bool :=
  s.toList.all isBlank

/-- The words between runs of blanks, no empty ones. -/
def words (text : List Char) : List (List Char) :=
  (text.splitBy fun a b => isBlank a == isBlank b).filter fun group =>
    match group with
    | [] => false
    | c :: _ => !isBlank c

example : trim "\t a b \u3000" = "a b" := by decide +kernel
example : words "GET  /x HTTP".toList = ["GET".toList, "/x".toList, "HTTP".toList] := by
  decide +kernel

end BillingAccess.Text
