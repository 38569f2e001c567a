/-
Reading scalars: plain, in quotation marks, or as blocks of lines.

Inside a plain or quoted scalar a single line end counts as a space, and of
several the first does not count.
-/
import BillingAccess.Yaml.Node

namespace BillingAccess.Yaml

/-- What is left of a text, and where that is. -/
structure Cursor where
  rest : List Char
  line : Nat := 0
  column : Nat := 0
  /-- Whether the items of a block may begin here. -/
  fresh : Bool := true
deriving Repr

def isGap (c : Char) : Bool :=
  c == ' ' || c == '\t' || c == '\n'

/-- Whether a mark that was read stands by itself. -/
def endsHere : List Char → Bool
  | [] => true
  | c :: _ => isGap c

namespace Cursor

/-- Passes one character that ends no line. -/
def pass (cursor : Cursor) : Cursor :=
  { cursor with rest := cursor.rest.drop 1, column := cursor.column + 1 }

/-- Between documents stands a line that begins with one of two marks. -/
def atMarker (cursor : Cursor) : Bool :=
  cursor.column == 0 &&
    match cursor.rest with
    | '-' :: '-' :: '-' :: rest => endsHere rest
    | '.' :: '.' :: '.' :: rest => endsHere rest
    | _ => false

def atEnd (cursor : Cursor) : Bool :=
  cursor.rest.isEmpty || cursor.atMarker

/-- Whether a mark that stands by itself is next. -/
def sees (mark : Char) (cursor : Cursor) : Bool :=
  match cursor.rest with
  | c :: rest => c == mark && endsHere rest
  | [] => false

/-- Passes blanks, line ends and comments.  At the start of a line of a block
tabs are no blanks. -/
def skipFrom (flow comment fresh : Bool) (line column : Nat) : List Char → Cursor
  | [] => ⟨[], line, column, fresh⟩
  | c :: rest =>
      if c = '\n' then skipFrom flow false (!flow || fresh) (line + 1) 0 rest
      else if comment then skipFrom flow true fresh line (column + 1) rest
      else if c = ' ' ∨ c = '\t' ∧ (flow ∨ !fresh) then
        skipFrom flow false fresh line (column + 1) rest
      else if c = '#' then skipFrom flow true fresh line (column + 1) rest
      else ⟨c :: rest, line, column, fresh⟩

def skip (flow : Bool) (cursor : Cursor) : Cursor :=
  skipFrom flow false cursor.fresh cursor.line cursor.column cursor.rest

end Cursor

/-- Blanks and line ends within a scalar. -/
structure Gap where
  /-- The blanks, if no line ends. -/
  blanks : List Char
  breaks : Nat
  after : Cursor

/-- Passes blanks and line ends.  A tab may not stand where a line has to be
indented. -/
def gapFrom (indent : Int) (blanks : List Char) (breaks line column : Nat) :
    List Char → Option Gap
  | [] => some ⟨blanks, breaks, ⟨[], line, column, 0 < breaks⟩⟩
  | c :: rest =>
      if c = '\n' then gapFrom indent [] (breaks + 1) (line + 1) 0 rest
      else if c = '\t' ∧ 0 < breaks ∧ Int.ofNat column < indent then none
      else if c = ' ' ∨ c = '\t' then
        gapFrom indent (if breaks = 0 then blanks ++ [c] else []) breaks line (column + 1) rest
      else some ⟨blanks, breaks, ⟨c :: rest, line, column, 0 < breaks⟩⟩

def Cursor.gap (indent : Int) (cursor : Cursor) : Option Gap :=
  gapFrom indent [] 0 cursor.line cursor.column cursor.rest

/-- What a gap contributes to a scalar. -/
def Gap.text (gap : Gap) : List Char :=
  match gap.breaks with
  | 0 => gap.blanks
  | 1 => [' ']
  | n + 2 => List.replicate (n + 1) '\n'

/-- The characters that separate items in brackets. -/
def isBracket (c : Char) : Bool :=
  ",[]\x7b\x7d".toList.contains c

/-- The characters up to a gap, a colon that stands by itself or, in brackets,
a separator. -/
def chunk (flow : Bool) : List Char → Option (List Char × List Char)
  | [] => some ([], [])
  | c :: rest =>
      if isGap c || (c == ':' && endsHere rest) || (flow && isBracket c) then some ([], c :: rest)
      else if flow && c == ':' && rest.head?.any fun d => d == '?' || isBracket d then none
      else (chunk flow rest).map fun (front, after) => (c :: front, after)

/-- Reads on in a plain scalar.  `before` is what has been read with the gap
after it; lines that go on are indented by `indent`.  `fuel` bounds the chunks. -/
def plainFrom (flow : Bool) (indent : Int) : Nat → List Char → List Char → Cursor →
    Option (List Char × Cursor)
  | 0, _, _, _ => none
  | fuel + 1, text, gapText, cursor =>
      match chunk flow cursor.rest with
      | none => none
      | some ([], _) => some (text, cursor)
      | some (front, after) =>
          let text := text ++ gapText ++ front
          let cursor := { cursor with rest := after, column := cursor.column + front.length }
          match cursor.gap indent with
          | none => none
          | some gap =>
              let next := gap.after
              if next.atEnd || next.rest.head? == some '#'
                  || (!flow && 0 < gap.breaks && Int.ofNat next.column < indent) then
                some (text, next)
              else plainFrom flow indent fuel text gap.text next

/-- Whether a plain scalar can begin with what is next. -/
def startsPlain (flow : Bool) : List Char → Bool
  | [] => false
  | c :: rest =>
      if c == '-' then !endsHere rest
      else if c == '?' || c == ':' then !flow && !endsHere rest
      else !isGap c && !isBracket c && !"#&*!|>'\"%@`".toList.contains c

def readPlain (flow : Bool) (indent : Int) (cursor : Cursor) : Option (Node × Cursor) :=
  if startsPlain flow cursor.rest then
    (plainFrom flow indent (cursor.rest.length + 1) [] [] cursor).map fun (text, after) =>
      (.scalar (String.ofList text) .plain none, after)
  else none

/-- What a letter after a backslash stands for. -/
def escapes : List (Char × Nat) := [
  ('0', 0), ('a', 7), ('b', 8), ('t', 9), ('\t', 9), ('n', 10), ('v', 11), ('f', 12), ('r', 13),
  ('e', 27), (' ', 32), ('"', 34), ('/', 47), ('\\', 92), ('N', 0x85), ('_', 0xA0),
  ('L', 0x2028), ('P', 0x2029)]

/-- How many digits follow a letter after a backslash. -/
def escapeDigits : List (Char × Nat) := [('x', 2), ('u', 4), ('U', 8)]

/-- The character after a backslash, and how many characters spell it. -/
def readEscape : List Char → Option (Char × Nat)
  | [] => none
  | c :: rest =>
      match escapes.lookup c, escapeDigits.lookup c with
      | some n, _ => some (Char.ofNat n, 1)
      | none, some count =>
          let digits := rest.take count
          match readBase? 16 digits with
          | some n =>
              if digits.length = count ∧ n.isValidChar then some (Char.ofNat n, count + 1)
              else none
          | none => none
      | none, none => none

/-- Reads on in quotation marks.  `fuel` bounds the steps. -/
def quotedFrom (double : Bool) : Nat → List Char → Cursor → Option (List Char × Cursor)
  | 0, _, _ => none
  | fuel + 1, text, cursor =>
      if cursor.atEnd then none
      else
        match cursor.rest with
        | [] => none
        | c :: rest =>
            if isGap c then
              match cursor.gap (-1) with
              | some gap => quotedFrom double fuel (text ++ gap.text) gap.after
              | none => none
            else if c = '\'' ∧ !double then
              if rest.head? = some '\'' then
                quotedFrom double fuel (text ++ ['\'']) cursor.pass.pass
              else some (text, { cursor.pass with fresh := false })
            else if c = '"' ∧ double then some (text, { cursor.pass with fresh := false })
            else if c = '\\' ∧ double then
              if rest.head? = some '\n' then
                match cursor.pass.gap (-1) with
                | some gap =>
                    quotedFrom double fuel (text ++ List.replicate (gap.breaks - 1) '\n') gap.after
                | none => none
              else
                match readEscape rest with
                | some (d, count) =>
                    quotedFrom double fuel (text ++ [d])
                      { cursor with
                        rest := rest.drop count, column := cursor.column + 1 + count }
                | none => none
            else quotedFrom double fuel (text ++ [c]) cursor.pass

def readQuoted (double : Bool) (cursor : Cursor) : Option (Node × Cursor) :=
  (quotedFrom double (cursor.rest.length + 1) [] cursor.pass).map fun (text, after) =>
    (.scalar (String.ofList text) .quoted none, after)

/-- What becomes of the line ends after the last line. -/
inductive Chomp
  | strip
  | clip
  | keep
deriving Repr, DecidableEq

/-- The marks after the sign of a block. -/
structure BlockHeader where
  chomp : Chomp := .clip
  indent : Option Nat := none

def readChomp? : Char → Option Chomp
  | '+' => some .keep
  | '-' => some .strip
  | _ => none

def readIndent? (c : Char) : Option Nat :=
  (Decimal.digit? c).filter (0 < ·)

/-- Reads the marks, in either order. -/
def readHeader : List Char → BlockHeader × List Char
  | [] => ({}, [])
  | c :: rest =>
      match readChomp? c, readIndent? c with
      | some chomp, _ =>
          match rest with
          | d :: after =>
              match readIndent? d with
              | some n => (⟨chomp, some n⟩, after)
              | none => (⟨chomp, none⟩, rest)
          | [] => (⟨chomp, none⟩, [])
      | none, some n =>
          match rest with
          | d :: after =>
              match readChomp? d with
              | some chomp => (⟨chomp, some n⟩, after)
              | none => (⟨.clip, some n⟩, rest)
          | [] => (⟨.clip, some n⟩, [])
      | none, none => ({}, c :: rest)

/-- Whether nothing but blanks and a comment stands before the end of a line. -/
def isLineRest (line : List Char) : Bool :=
  match line.dropWhile fun c => c == ' ' || c == '\t' with
  | [] => true
  | c :: _ => c == '#'

def leadingSpaces (line : List Char) : Nat :=
  (line.takeWhile (· == ' ')).length

/-- The widest indentation of the blank lines at the start and of the line
after them. -/
def widestIndent : List (List Char) → Nat
  | [] => 0
  | [last] => leadingSpaces last
  | line :: rest =>
      if line.all (· == ' ') then max line.length (widestIndent rest) else leadingSpaces line

/-- Passes lines that hold nothing beyond the indentation, and counts them. -/
def passBlank (indent : Nat) : List (List Char) → Nat × List (List Char)
  | [] => (0, [])
  | [last] => (0, [last])
  | line :: rest =>
      if line.all (· == ' ') ∧ line.length ≤ indent then
        let (count, after) := passBlank indent rest
        (count + 1, after)
      else (0, line :: rest)

/-- A tab may not stand where a line has to be indented. -/
def hasTabIndent (indent : Nat) : List (List Char) → Bool
  | first :: _ => leadingSpaces first < indent && first[leadingSpaces first]? == some '\t'
  | [] => false

/-- Line ends that have been read and not yet written: whether that of the last
line with content is one of them, and how many blank lines follow. -/
structure Breaks where
  leading : Bool
  blank : Nat

/-- What line ends become between two lines.  In a folded block the end of a
line counts as a space, unless blank lines follow or a line begins with a blank. -/
def Breaks.between (breaks : Breaks) (fold : Bool) : List Char :=
  if !breaks.leading then List.replicate breaks.blank '\n'
  else if fold then if breaks.blank = 0 then [' '] else List.replicate breaks.blank '\n'
  else List.replicate (breaks.blank + 1) '\n'

/-- What line ends become after the last line. -/
def Breaks.atEnd (breaks : Breaks) : Chomp → List Char
  | .strip => []
  | .clip => if breaks.leading then ['\n'] else []
  | .keep => List.replicate (breaks.blank + if breaks.leading then 1 else 0) '\n'

/-- Reads on in a block.  `indented` says that the last line began with a blank. -/
def blockFrom (folded : Bool) (indent : Nat) :
    Nat → List Char → Breaks → Bool → List (List Char) →
    Option (List Char × Breaks × List (List Char))
  | 0, _, _, _, _ => none
  | fuel + 1, text, breaks, indented, lines =>
      if hasTabIndent indent lines then none
      else
        match lines with
        | [] => some (text, breaks, [])
        | line :: rest =>
            let content := line.drop indent
            if leadingSpaces line < indent ∨ (rest = [] ∧ content = []) then
              some (text, breaks, line :: rest)
            else
              let startsBlank := content.head?.any fun c => c == ' ' || c == '\t'
              let text := text ++ breaks.between (folded && !indented && !startsBlank) ++ content
              if rest = [] then some (text, ⟨false, 0⟩, [])
              else
                let (count, rest) := passBlank indent rest
                blockFrom folded indent fuel text ⟨true, count⟩ startsBlank rest

def countBreaks (text : List Char) : Nat :=
  (text.filter (· == '\n')).length

/-- Reads a block after its sign.  `parent` is the indentation of what holds it. -/
def readBlock (folded : Bool) (parent : Int) (cursor : Cursor) : Option (Node × Cursor) :=
  let (header, after) := readHeader cursor.rest
  let body := after.dropWhile (· != '\n')
  let lines := (body.drop 1).splitOn '\n'
  let found := widestIndent lines
  let indent := match header.indent with
    | some n => (max parent 0).toNat + n
    | none => max (max (parent + 1) 1).toNat found
  let (count, lines) := passBlank indent lines
  if !isLineRest (after.takeWhile (· != '\n')) then none
  else if header.indent = none ∧ hasTabIndent (found + 1) lines then none
  else
    match blockFrom folded indent (lines.length + 1) [] ⟨false, count⟩ false lines with
    | none => none
    | some (text, breaks, left) =>
        let rest := ['\n'].intercalate left
        let line := cursor.line + (countBreaks body - countBreaks rest)
        let style := if folded then Style.folded else .literal
        some (.scalar (String.ofList (text ++ breaks.atEnd header.chomp)) style none,
          ⟨rest, line, 0, true⟩)

end BillingAccess.Yaml
