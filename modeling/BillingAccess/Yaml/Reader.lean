/-
Reading YAML documents.

In a block the indentation tells what belongs together: the items of a list
begin with a hyphen and the members of a map with their key, all in one column.
In brackets it does not count.  A key before a colon stands on one line.
-/
import BillingAccess.Text.Blank
import BillingAccess.Yaml.Meaning
import BillingAccess.Yaml.Scalar

namespace BillingAccess.Yaml

/-- A place in a text and the nodes that have been given a name. -/
structure Reading where
  cursor : Cursor
  anchors : List (String × Node) := []

/-- What is read, unless the text is no YAML. -/
abbrev Reader := StateT Reading Option

namespace Reader

def cursor : Reader Cursor := do return (← get).cursor

def goTo (cursor : Cursor) : Reader Unit :=
  modify fun r => { r with cursor := cursor }

/-- Reads with a function on cursors. -/
def take {α : Type} (read : Cursor → Option (α × Cursor)) : Reader α := do
  match read (← cursor) with
  | some (a, after) =>
      goTo after
      return a
  | none => failure

def skip (flow : Bool) : Reader Cursor := do
  goTo ((← cursor).skip flow)
  cursor

/-- Passes one character; `fresh` says whether a block may begin after it. -/
def pass (fresh : Bool) : Reader Unit := do
  goTo { (← cursor).pass with fresh := fresh }

end Reader

open Reader

/-! ### Names and tags -/

/-- What is written in front of a node. -/
structure Properties where
  anchor : Option String := none
  tag : Option Tag := none

def Properties.isEmpty (properties : Properties) : Bool :=
  properties.anchor.isNone && properties.tag.isNone

def isNameChar (c : Char) : Bool :=
  c.isAlphanum || c == '-' || c == '_'

/-- The name after a mark; it is not empty and ends where an item ends. -/
def readName (cursor : Cursor) : Option (String × Cursor) :=
  let name := cursor.rest.takeWhile isNameChar
  let rest := cursor.rest.drop name.length
  if name = [] ∨ !(endsHere rest || rest.head?.any fun c => "?:,]\x7d%@`".toList.contains c) then
    none
  else
    some (String.ofList name,
      { cursor with rest := rest, column := cursor.column + name.length, fresh := false })

/-- The tags of the core. -/
def coreTags : List (String × Tag) :=
  [("null", .null), ("bool", .bool), ("int", .int), ("float", .float)]

/-- The tag of a full name. -/
def Tag.ofName (name : List Char) : Tag :=
  match name with
  | '!' :: _ => .own (String.ofList name)
  | _ =>
      let core := "tag:yaml.org,2002:".toList
      let known := if core.isPrefixOf name then
          coreTags.lookup (String.ofList (name.drop core.length))
        else none
      known.getD (.other (String.ofList name))

def isTagChar (c : Char) : Bool :=
  isNameChar c || ";/?:@&=+$.~*'()%".toList.contains c

/-- The full name of a tag and how many characters spell it after its exclamation
mark: one in angle brackets, or one after a second mark or after none. -/
def readTagName? : List Char → Option (List Char × Nat)
  | '<' :: rest =>
      let name := rest.takeWhile fun c => isTagChar c || "!,[]".toList.contains c
      if name ≠ [] ∧ rest[name.length]? = some '>' then some (name, name.length + 2) else none
  | '!' :: rest =>
      let name := rest.takeWhile fun c => isTagChar c || c == '!'
      if name = [] then none
      else some ("tag:yaml.org,2002:".toList ++ name, name.length + 1)
  | rest =>
      let name := rest.takeWhile fun c => isTagChar c || c == '!'
      if (name.dropWhile isNameChar).head? = some '!' then none
      else some ('!' :: name, name.length)

/-- A tag.  In brackets a comma may stand right behind it. -/
def readTag (flow : Bool) (cursor : Cursor) : Option (Tag × Cursor) :=
  let body := cursor.rest.drop 1
  match readTagName? body with
  | none => none
  | some (name, length) =>
      let rest := body.drop length
      if endsHere rest || (flow && rest.head? == some ',') then
        some (.ofName name, { cursor with
          rest := rest, column := cursor.column + 1 + length, fresh := false })
      else none

/-- Reads names and tags, each at most once.  `fuel` bounds their number. -/
def readProperties (flow : Bool) : Nat → Properties → Reader Properties
  | 0, properties => return properties
  | fuel + 1, properties => do
      let at? := (← cursor).rest.head?
      if at? = some '&' ∧ properties.anchor = none then
        pass false
        let name ← take readName
        sameLine
        readProperties flow fuel { properties with anchor := some name }
      else if at? = some '!' ∧ properties.tag = none then
        let tag ← take (readTag flow)
        sameLine
        readProperties flow fuel { properties with tag := some tag }
      else return properties
where
  /-- Passes the blanks behind a property. -/
  sameLine : Reader Unit := do
    let c ← cursor
    let blanks := c.rest.takeWhile fun d => d == ' ' || d == '\t'
    goTo { c with rest := c.rest.drop blanks.length, column := c.column + blanks.length }

/-- Gives a node what is written in front of it. -/
def dress (properties : Properties) (node : Node) : Reader Node := do
  let node := node.withTag properties.tag
  if let some anchor := properties.anchor then
    modify fun r => { r with anchors := (anchor, node) :: r.anchors }
  return node

/-- Nothing may be written in front of an alias. -/
def refuseAlias (properties : Properties) : Reader Unit := do
  if !properties.isEmpty && (← cursor).rest.head? == some '*' then failure

/-- Whether nothing more is on the line. -/
def lineEnds (cursor : Cursor) : Bool :=
  match cursor.rest with
  | [] => true
  | c :: _ => c == '\n' || c == '#'

/-- A node that was named before. -/
def readAlias : Reader Node := do
  pass false
  let name ← take readName
  match (← get).anchors.lookup name with
  | some node => return node
  | none => failure

/-- What is next, if it is no block. -/
inductive Shape
  | alias
  | list
  | map
  | quoted (double : Bool)
  | plain

def shapeOf (flow : Bool) (rest : List Char) : Option Shape :=
  match rest with
  | '*' :: _ => some .alias
  | '[' :: _ => some .list
  | '\x7b' :: _ => some .map
  | '\'' :: _ => some (.quoted false)
  | '"' :: _ => some (.quoted true)
  | _ => if startsPlain flow rest then some .plain else none

/-! ### Brackets -/

mutual

/-- A node that is no block; plain lines that go on are indented by `indent`. -/
def readInline (fuel : Nat) (flow : Bool) (indent : Int) : Reader Node :=
  match fuel with
  | 0 => failure
  | fuel + 1 => do
      match shapeOf flow (← cursor).rest with
      | some .alias => readAlias
      | some (.quoted double) => take (readQuoted double)
      | some .plain => take (readPlain flow indent)
      | some .list =>
          pass false
          let items ← readFlowList fuel
          return .list items
      | some .map =>
          pass false
          let members ← readFlowMap fuel
          return .map members
      | none => failure

/-- A node in brackets.  What ends an item leaves it empty. -/
def readFlowNode (fuel : Nat) : Reader Node :=
  match fuel with
  | 0 => failure
  | fuel + 1 => do
      let properties ← readProperties true 2 {}
      let c ← skip true
      if c.rest.head?.any fun d => d == ',' || d == ']' || d == '\x7d' || d == ':' then
        if properties.isEmpty then failure else dress properties .absent
      else
        refuseAlias properties
        let node ← readInline fuel true 0
        dress properties node

/-- The value after a colon in brackets. -/
def readFlowValue (fuel : Nat) : Reader Node :=
  match fuel with
  | 0 => failure
  | fuel + 1 => do
      pass false
      let c ← skip true
      if c.rest.head?.any fun d => d == ',' || d == ']' || d == '\x7d' then return .absent
      else readFlowNode fuel

/-- A key in brackets and its value, if a colon follows. -/
def readFlowPair (fuel : Nat) : Reader (Node × Option Node) :=
  match fuel with
  | 0 => failure
  | fuel + 1 => do
      let start ← cursor
      if start.rest.head? = some '?' then
        pass false
        let c ← skip true
        let key ←
          if c.rest.head?.any fun d => d == ',' || d == ']' || d == '\x7d' || d == ':' then
            pure .absent
          else readFlowNode fuel
        if (← skip true).rest.head? = some ':' then
          let value ← readFlowValue fuel
          return (key, some value)
        else return (key, some .absent)
      else
        let key ← readFlowNode fuel
        let c ← skip true
        if c.rest.head? = some ':' then
          if c.line ≠ start.line then failure
          let value ← readFlowValue fuel
          return (key, some value)
        else return (key, none)

/-- The items up to a closing bracket. -/
def readFlowList (fuel : Nat) : Reader (List Node) :=
  match fuel with
  | 0 => failure
  | fuel + 1 => do
      if (← skip true).rest.head? = some ']' then
        pass false
        return []
      let (key, value) ← readFlowPair fuel
      let item := match value with
        | some value => .map [(key, value)]
        | none => key
      match (← skip true).rest.head? with
      | some ',' =>
          pass false
          let rest ← readFlowList fuel
          return item :: rest
      | some ']' =>
          pass false
          return [item]
      | _ => failure

/-- The members up to a closing brace. -/
def readFlowMap (fuel : Nat) : Reader (List (Node × Node)) :=
  match fuel with
  | 0 => failure
  | fuel + 1 => do
      if (← skip true).rest.head? = some '\x7d' then
        pass false
        return []
      let (key, value) ← readFlowPair fuel
      let member := (key, value.getD .absent)
      match (← skip true).rest.head? with
      | some ',' =>
          pass false
          let rest ← readFlowMap fuel
          return member :: rest
      | some '\x7d' =>
          pass false
          return [member]
      | _ => failure

end

/-! ### Blocks -/

/-- Passes the blanks of a line. -/
def passBlanks : Reader Cursor := do
  let c ← cursor
  let blanks := c.rest.takeWhile fun d => d == ' ' || d == '\t'
  goTo { c with rest := c.rest.drop blanks.length, column := c.column + blanks.length }
  cursor

/-- Whether a colon that stands by itself is next on the line `line`. -/
def colonFollows (line : Nat) : Reader Bool := do
  let c ← passBlanks
  return c.line = line && c.sees ':'

mutual

/-- The node of a block inside one of the column `parent`.  `sameColumn` says
that the hyphens of a list may stand in that column, and `dressed` that
something is written in front of the node on a line of its own. -/
def readNode (fuel : Nat) (parent : Int) (sameColumn dressed : Bool) : Reader Node :=
  match fuel with
  | 0 => failure
  | fuel + 1 => do
      let start ← skip false
      if start.atEnd then return .absent
      let column := Int.ofNat start.column
      if start.fresh ∧ start.sees '-' ∧ (parent < column ∨ (sameColumn ∧ column = parent)) then
        let items ← readItems fuel start.column (column = parent)
        return .list items
      if start.fresh ∧ column ≤ parent then return .absent
      if start.sees '-' then failure
      if start.sees '?' then
        if !start.fresh then failure
        let members ← readMembers fuel start.column
        return .map members
      let properties ← readProperties false 2 {}
      let here ← cursor
      let overdressed := dressed && (!properties.isEmpty || here.rest.head? == some '*')
      if lineEnds here ∧ !properties.isEmpty then
        if overdressed then failure
        let node ← readNode fuel parent sameColumn true
        dress properties node
      else if here.rest.head? = some '|' ∨ here.rest.head? = some '>' then
        if overdressed then failure
        let folded := here.rest.head? = some '>'
        pass false
        let node ← take (readBlock folded parent)
        dress properties node
      else
        refuseAlias properties
        let node ← readInline fuel false (parent + 1)
        let after ← cursor
        if ← colonFollows start.line then
          if !start.fresh then failure
          let key ← dress properties node
          pass false
          let value ← readNode fuel column true false
          let rest ← readMembers fuel start.column
          return .map ((key, value) :: rest)
        else
          if overdressed then failure
          goTo { (← cursor) with fresh := after.fresh }
          dress properties node

/-- The items of a list whose hyphens stand in a column.  `nested` says that
the list shares the column with the map that holds it. -/
def readItems (fuel : Nat) (column : Nat) (nested : Bool) : Reader (List Node) :=
  match fuel with
  | 0 => failure
  | fuel + 1 => do
      let c ← skip false
      if c.atEnd ∨ c.column < column then return []
      if !c.fresh ∨ column < c.column then failure
      if c.sees '-' then
        pass true
        let item ← readNode fuel column false false
        let rest ← readItems fuel column nested
        return item :: rest
      else if nested then return []
      else failure

/-- The members of a map whose keys stand in a column. -/
def readMembers (fuel : Nat) (column : Nat) : Reader (List (Node × Node)) :=
  match fuel with
  | 0 => failure
  | fuel + 1 => do
      let c ← skip false
      if c.atEnd ∨ c.column < column then return []
      if !c.fresh ∨ column < c.column ∨ c.sees '-' then failure
      if c.sees '?' then
        pass true
        let key ← readNode fuel column true false
        let d ← skip false
        let value ←
          if d.fresh ∧ d.column = column ∧ d.sees ':' ∧ !d.atEnd then do
            pass true
            readNode fuel column true false
          else pure .absent
        let rest ← readMembers fuel column
        return (key, value) :: rest
      else
        let properties ← readProperties false 2 {}
        refuseAlias properties
        let node ← readInline fuel false (Int.ofNat column + 1)
        let key ← dress properties node
        if !(← colonFollows c.line) then failure
        pass false
        let value ← readNode fuel column true false
        let rest ← readMembers fuel column
        return (key, value) :: rest

end

/-! ### Documents -/

/-- The characters that a document may hold. -/
def isPrintable (c : Char) : Bool :=
  let n := c.toNat
  n == 0x09 || n == 0x0A || n == 0x0D || (0x20 ≤ n && n ≤ 0x7E) || n == 0x85
    || (0xA0 ≤ n && n ≤ 0xFFFD) || 0x10000 ≤ n

/-- Every line end as one character. -/
def unifyBreaks : List Char → List Char
  | '\r' :: '\n' :: rest => '\n' :: unifyBreaks rest
  | '\r' :: rest => '\n' :: unifyBreaks rest
  | c :: rest => (if c = Char.ofNat 0x85 then '\n' else c) :: unifyBreaks rest
  | [] => []

/-- A byte order mark in front of a text takes one column. -/
def blankMark (text : List Char) : List Char :=
  match text with
  | c :: rest => if c.toNat = 0xFEFF then ' ' :: rest else text
  | [] => []

/-- A line in front of a document: the version, or a handle for tags. -/
def isDirective (line : List Char) : Bool :=
  match Text.words (line.takeWhile (· != '#')) with
  | [kind, version] =>
      kind == "%YAML".toList && (version == "1.1".toList || version == "1.2".toList)
  | [kind, handle, _] => kind == "%TAG".toList && handle.head? == some '!'
  | _ => false

/-- Passes the directives, and says whether there were any.  `fuel` bounds their
number. -/
def readDirectives : Nat → Bool → Reader Bool
  | 0, _ => failure
  | fuel + 1, seen => do
      let c ← skip false
      if c.column = 0 ∧ c.rest.head? = some '%' then
        let line := c.rest.takeWhile (· != '\n')
        if !isDirective line then failure
        goTo { c with rest := c.rest.drop line.length, column := line.length }
        readDirectives fuel true
      else return seen

/-- Passes what may stand after a document. -/
def readEnd : Nat → Reader Unit
  | 0 => failure
  | fuel + 1 => do
      let c ← skip false
      if c.rest = [] then return ()
      if c.atMarker ∧ c.rest.head? = some '.' then
        goTo { c with rest := c.rest.drop 3, column := 3, fresh := false }
        if !lineEnds (← passBlanks) then failure
        readEnd fuel
      else failure

/-- One document.  `fuel` bounds the nesting. -/
def readDocument (fuel : Nat) : Reader Node := do
  let directed ← readDirectives fuel false
  let c ← cursor
  if c.atMarker ∧ c.rest.head? = some '-' then
    goTo { c with rest := c.rest.drop 3, column := 3, fresh := false }
  else if directed || c.atMarker then failure
  let node ← readNode fuel (-1) false false
  readEnd fuel
  return node

/-- The only document in a text; one without content is absent. -/
def parse (text : String) : Option Node :=
  let chars := unifyBreaks (blankMark text.toList)
  if chars.all isPrintable then
    ((readDocument (8 * chars.length + 16)).run { cursor := { rest := chars } }).map Prod.fst
  else none

end BillingAccess.Yaml
