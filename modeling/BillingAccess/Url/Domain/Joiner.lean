/-
Joiners: characters that do not show and make the letters beside them join, or
keep them from joining.

A joiner may only stand where it makes a difference: after a mark that takes the
vowel from a letter, or, if it keeps letters apart, between two letters that
would join.
-/
import BillingAccess.Text.Mark

namespace BillingAccess.Domain

/-- The joiner that keeps letters apart. -/
def separator : Char := Char.ofNat 0x200C

def joiner : Char := Char.ofNat 0x200D

/-- Letters that join on both sides. -/
def bothSides : List Text.Run := Text.Run.table [
  "620 626 628 62a-62e 633-63f 641-647 649-64a 66e-66f 679-687 69a-6bf 6c1-6c2 6cc 6ce 6d0-6d1",
  "6fa-6fc 6ff 712-714 71a-71d 71f-727 729 72b 72d-72e 74e-758 75c-76a 76d-770 772 775-777",
  "77a-77f 7ca-7ea 841-845 848 84a-853 855 860 862-865 868 886 889-88d 88f 8a0-8a9 8af-8b0",
  "8b3-8b8 8ba-8c8 1807 1820-1878 1887-18a8 18aa a840-a871 10ac0-10ac4 10ad3-10ad6 10ad8-10adc",
  "10ade-10ae0 10aeb-10aee 10b80 10b82 10b86-10b88 10b8a-10b8b 10b8d 10b90 10bad-10bae",
  "10d01-10d21 10d23 10ec3-10ec4 10ec6-10ec7 10f30-10f32 10f34-10f44 10f51-10f53 10f70-10f73",
  "10f76-10f81 10fb0 10fb2-10fb3 10fb8 10fbb-10fbc 10fbe-10fbf 10fc1 10fc4 10fca 1e922-1e943"]

/-- Letters that join to the next one alone. -/
def nextSide : List Text.Run := Text.Run.table [
  "a872 10acd 10ad7 10d00 10fcb"]

/-- Letters that join to the one before alone.  The runs pass over letters that
join on both sides. -/
def previousSide : List Text.Run := Text.Run.table [
  "622-632 648 671-673 688-6d3 6d5 6ee-6ef 710 715-72f 74d-779 840-858 867-882 88e 8aa-8ac",
  "8ae-8b9 10ac5 10ac7 10ac9-10aca 10ace-10ad2 10add-10ae1 10ae4 10aef 10b81-10b91 10ba9-10bac",
  "10d22 10ec2 10f33 10f54 10f74-10f75 10fb4-10fb6 10fb9-10fbd 10fc2-10fc3 10fc9"]

def joinsNext (c : Char) : Bool :=
  Text.Run.anyHolds bothSides c.toNat || Text.Run.anyHolds nextSide c.toNat

def joinsPrevious (c : Char) : Bool :=
  Text.Run.anyHolds bothSides c.toNat || Text.Run.anyHolds previousSide c.toNat

/-- A sign for vowels through the nose, which is no mark and yet does not part
letters. -/
def nasalSign : Char := Char.ofNat 0x1E94B

/-- Characters past which letters join. -/
def isTransparent (c : Char) : Bool :=
  c != separator && c != joiner
    && (Text.isNonspacing c || Text.isSteering c || c == nasalSign)

/-- The first character of a text that is not transparent. -/
def nearest? (text : List Char) : Option Char :=
  (text.dropWhile isTransparent).head?

/-- The class of the marks that take the vowel from a letter. -/
def vowelKiller : Nat := 9

/-- Whether a joiner may stand between two texts, of which the first has its last
character first. -/
def mayJoin (before : List Char) (c : Char) (after : List Char) : Bool :=
  before.head?.any (Text.markClass · == vowelKiller)
    || (c == separator && (nearest? before).any joinsNext && (nearest? after).any joinsPrevious)

/-- Whether every joiner in the rest of a label may stand there. -/
def joinersFit (before : List Char) : List Char → Bool
  | [] => true
  | c :: after =>
      ((c != separator && c != joiner) || mayJoin before c after) && joinersFit (c :: before) after

end BillingAccess.Domain
