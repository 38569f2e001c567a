/-
Reading URLs, alone or relative to another.

A text is cut at its first number sign and its first question mark; what comes
before is the scheme, the host and the path.  Blanks around it and tabs and
line ends within are dropped first.
-/
import BillingAccess.Text.Blank
import BillingAccess.Url.Basic

namespace BillingAccess.Url

/-- A text cut into its three parts. -/
structure Reference where
  body : List Char
  query : Option (List Char)
  fragment : Option (List Char)
deriving Repr, DecidableEq

/-- What stands before the first `mark`, and what stands after it. -/
def cutAt (mark : Char) (text : List Char) : List Char × Option (List Char) :=
  match text.dropWhile (· != mark) with
  | [] => (text, none)
  | _ :: rest => (text.takeWhile (· != mark), some rest)

def Reference.ofText (text : List Char) : Reference :=
  let trimmed := Text.trimBy (fun c => c.toNat ≤ 0x20) text
  let clean := trimmed.filter fun c => !(c == '\t' || c == '\n' || c == '\r')
  let (front, fragment) := cutAt '#' clean
  let (body, query) := cutAt '?' front
  ⟨body, query, fragment⟩

/-- The scheme in front of a text, in small letters, and what follows it. -/
def splitScheme? : List Char → Option (String × List Char)
  | [] => none
  | c :: rest =>
      if c.isAlpha then
        let isNext := fun d : Char => d.isAlphanum || d == '+' || d == '-' || d == '.'
        match rest.dropWhile isNext with
        | ':' :: after =>
            some (String.ofList ((c :: rest.takeWhile isNext).map Char.toLower), after)
        | _ => none
      else none

def isSlash (special : Bool) (c : Char) : Bool :=
  c == '/' || (special && c == '\\')

/-- The pieces between the slashes of a text, at least one. -/
def cutSlashes (special : Bool) : List Char → List (List Char)
  | [] => [[]]
  | c :: rest =>
      if isSlash special c then [] :: cutSlashes special rest
      else
        match cutSlashes special rest with
        | piece :: pieces => (c :: piece) :: pieces
        | [] => [[c]]

/-- A piece that stands for the place it is in: a point, which may be escaped. -/
def isHere (piece : List Char) : Bool :=
  [".".toList, "%2e".toList].contains (piece.map Char.toLower)

/-- A piece that stands for the place above. -/
def isUp (piece : List Char) : Bool :=
  ["..".toList, ".%2e".toList, "%2e.".toList, "%2e%2e".toList].contains (piece.map Char.toLower)

/-- The letter of a drive: a letter and a colon, or a bar for it if `loose`. -/
def isDrive (loose : Bool) : List Char → Bool
  | [a, b] => a.isAlpha && (b == ':' || (loose && b == '|'))
  | _ => false

/-- A path without its last segment; the drive of a file stays. -/
def shorten (file : Bool) (path : List String) : List String :=
  if file && (path.getLast?.map fun last => isDrive false last.toList) == some true then path
  else path.dropLast

/-- A segment of a path; a drive at its start is written with a colon. -/
def segmentOf (file : Bool) (path : List String) (piece : List Char) : String :=
  match file && path.isEmpty && isDrive true piece, piece with
  | true, a :: _ => String.ofList [a, ':']
  | _, _ => String.ofList (Percent.encode Percent.inPath piece)

/-- Walks from a path along pieces.  A path that ends at a place ends in an
empty segment. -/
def walk (file : Bool) : List String → List (List Char) → List String
  | path, [] => path
  | path, [last] =>
      if isUp last then shorten file path ++ [""]
      else if isHere last then path ++ [""]
      else path ++ [segmentOf file path last]
  | path, piece :: rest =>
      if isUp piece then walk file (shorten file path) rest
      else if isHere piece then walk file path rest
      else walk file (path ++ [segmentOf file path piece]) rest

/-- The path of a file does not start with empty segments. -/
def settleFile (path : List String) : List String :=
  match path.dropWhile (· == "") with
  | [] => [""]
  | rest => rest

/-- The path after a host: a special one is never empty. -/
def rootedPath (special : Bool) (text : List Char) : List String :=
  match text with
  | [] => if special then [""] else []
  | c :: rest => walk false [] (cutSlashes special (if isSlash special c then rest else text))

/-- Special URLs also escape the apostrophe. -/
def queryOf (scheme : String) (text : List Char) : String :=
  String.ofList (Percent.encode
    (fun c => Percent.inQuery c || (isSpecial scheme && c == '\'')) text)

def fragmentOf (text : List Char) : String :=
  String.ofList (Percent.encode Percent.inFragment text)

/-- The same URL with the query and the fragment of a reference. -/
def withEnding (url : Url) (ref : Reference) : Url :=
  { url with
    query := ref.query.map (queryOf url.scheme)
    fragment := ref.fragment.map fragmentOf }

/-- The same URL with another path and the ending of a reference. -/
def withPath (url : Url) (ref : Reference) (path : List String) : Url :=
  { url.withEnding ref with path := .parts path }

/-- A reference without a body: the URL itself, with what the reference has. -/
def withoutBody (url : Url) (ref : Reference) : Url :=
  { url.withEnding ref with
    query := (ref.query.map (queryOf url.scheme)).or url.query }

/-- The user and the rest of a text, cut at its last at sign before the path. -/
def cutUser (special : Bool) (text : List Char) : Option (List Char) × List Char :=
  let authority := text.takeWhile (!isSlash special ·)
  if authority.contains '@' then
    let after := (authority.reverse.takeWhile (· != '@')).reverse
    (some (authority.take (authority.length - after.length - 1)),
      after ++ text.dropWhile (!isSlash special ·))
  else (none, text)

/-- The host up to its port or the path.  A colon in brackets is no mark of a
port. -/
def cutHost (special : Bool) : Bool → List Char → List Char × List Char
  | _, [] => ([], [])
  | inside, c :: rest =>
      if isSlash special c || (c == ':' && !inside) then ([], c :: rest)
      else
        let (host, after) := cutHost special (if c == '[' then true else inside && c != ']') rest
        (c :: host, after)

/-- The port up to the path; none if it is the usual one of the scheme. -/
def readPort (scheme : String) (text : List Char) : Except Fault (Option Nat × List Char) :=
  let digits := text.takeWhile Char.isDigit
  let rest := text.dropWhile Char.isDigit
  let port := digits.foldl (fun n d => n * 10 + (d.toNat - 48)) 0
  if Decimal.greatest16 < port then .error .badPort
  else
    match rest with
    | c :: _ =>
        if c ≠ '/' ∧ c ≠ '\\' then .error .badPort
        else .ok (usual digits port, rest)
    | [] => .ok (usual digits port, rest)
where
  usual (digits : List Char) (port : Nat) : Option Nat :=
    if digits = [] ∨ knownPorts.lookup scheme = some port then none else some port

def readHost (special : Bool) (text : List Char) : Except Fault Host :=
  if special then if text = [] then .error .emptyHost else Host.read text
  else Host.readPlain text

/-- What follows the two slashes of a URL that is no file. -/
def readAuthority (scheme : String) (ref : Reference) (text : List Char) : Except Fault Url := do
  let special := isSpecial scheme
  let (user, rest) := cutUser special text
  if user = some [] ∧ (rest.head?.any (isSlash special) ∨ rest = [] ∧
      (ref.query.isSome ∨ ref.fragment.isSome)) then throw .emptyHost
  let (username, password) := cutAt ':' (user.getD [])
  let escape := fun part => String.ofList (Percent.encode Percent.inUserinfo part)
  let (hostText, rest) := cutHost special false rest
  let host ← readHost special hostText
  if host = .named "" ∧ rest.head? = some ':' then throw .emptyHost
  let (port, rest) ← match rest with
    | ':' :: after => readPort scheme after
    | _ => pure (none, rest)
  if host = .named "" ∧ (escape username ≠ "" ∨ password.any (· ≠ [])) then throw .emptyHost
  let front : Url := {
    scheme := scheme
    username := escape username
    password := escape (password.getD [])
    host := some host
    port := port }
  return front.withPath ref (rootedPath special rest)

/-- The segments of the path, if it has any. -/
def segments (url : Url) : List String :=
  match url.path with
  | .parts segments => segments
  | .whole _ => []

/-- A reference relative to a URL that is no file. -/
def readRelative (base : Url) (ref : Reference) : Except Fault Url :=
  let special := isSpecial base.scheme
  let slashes := ref.body.takeWhile fun c => c == '/' || c == '\\'
  match ref.body with
  | [] => .ok (base.withoutBody ref)
  | _ :: rest =>
      if 2 ≤ slashes.length then
        let after := match ref.body with
          | '/' :: '/' :: after => after
          | body => body.drop slashes.length
        readAuthority base.scheme ref after
      else if slashes.length = 1 then
        .ok (base.withPath ref (walk false [] (cutSlashes special rest)))
      else
        .ok (base.withPath ref (walk false base.segments.dropLast (cutSlashes special ref.body)))

def startsWithDrive (text : List Char) : Bool :=
  isDrive true (text.take 2) &&
    match text.drop 2 with
    | [] => true
    | c :: _ => isSlash true c

def emptyFile : Url :=
  { scheme := "file", host := some (.named "") }

/-- The host of a file; the own machine counts as no host. -/
def readFileHost (text : List Char) : Except Fault Host :=
  if text = [] then .ok (.named "")
  else
    match Host.read text with
    | .ok (.named "localhost") => .ok (.named "")
    | other => other

/-- What follows the two slashes of a file. -/
def readFileAuthority (ref : Reference) (text : List Char) : Except Fault Url := do
  let hostText := text.takeWhile (!isSlash true ·)
  let (host, rest) ←
    if isDrive true hostText then pure (Host.named "", text)
    else do pure (← readFileHost hostText, text.dropWhile (!isSlash true ·))
  let rest := match rest with
    | c :: after => if isSlash true c then after else rest
    | [] => []
  let path := walk true [] (cutSlashes true rest)
  let drive := path.head?.any fun first => isDrive false first.toList
  return { emptyFile with host := some (if drive then .named "" else host) }.withPath ref
    (settleFile path)

/-- A file, relative to another one if there is one. -/
def readFile (base : Option Url) (ref : Reference) : Except Fault Url :=
  match ref.body, base with
  | a :: rest, base =>
      if isSlash true a then
        match rest with
        | b :: after =>
            if isSlash true b then readFileAuthority ref after else fromRoot base rest
        | [] => fromRoot base rest
      else
        match base with
        | some url =>
            if startsWithDrive ref.body then fresh
            else .ok (url.withPath ref (settleFile
              (walk true (shorten true url.segments) (cutSlashes true ref.body))))
        | none => fresh
  | [], some url => .ok (url.withoutBody ref)
  | [], none => fresh
where
  fresh : Except Fault Url :=
    .ok (emptyFile.withPath ref (settleFile (walk true [] (cutSlashes true ref.body))))
  fromRoot (base : Option Url) (rest : List Char) : Except Fault Url :=
    match base with
    | some url =>
        if startsWithDrive rest then
          .ok (emptyFile.withPath ref (settleFile (walk true [] (cutSlashes true rest))))
        else
          let drive := url.segments.take 1 |>.filter fun first => isDrive false first.toList
          let host := if drive = [] then url.host else some (.named "")
          .ok ({ emptyFile with host := host }.withPath ref
            (settleFile (walk true drive (cutSlashes true rest))))
    | none =>
        .ok (emptyFile.withPath ref (settleFile (walk true [] (cutSlashes true rest))))

/-- What follows a scheme that is not special. -/
def readOther (scheme : String) (ref : Reference) (text : List Char) : Except Fault Url :=
  match text with
  | '/' :: '/' :: after => readAuthority scheme ref after
  | '/' :: after =>
      .ok (Url.withPath { scheme := scheme } ref (walk false [] (cutSlashes false after)))
  | body =>
      let path := String.ofList (Percent.encode Percent.control body)
      .ok (Url.withEnding { scheme := scheme, path := .whole path } ref)

/-- What follows a scheme. -/
def readSchemed (base : Option Url) (scheme : String) (ref : Reference) (text : List Char) :
    Except Fault Url :=
  let same := base.filter (·.scheme == scheme)
  if scheme = "file" then readFile same { ref with body := text }
  else if isSpecial scheme then
    let slashes := text.takeWhile fun c => c == '/' || c == '\\'
    match same with
    | some url =>
        if slashes.length < 2 then readRelative url { ref with body := text }
        else readAuthority scheme ref (text.drop slashes.length)
    | none => readAuthority scheme ref (text.drop slashes.length)
  else readOther scheme ref text

/-- Reads a reference that has no scheme. -/
def readUnschemed (base : Option Url) (ref : Reference) : Except Fault Url :=
  match base with
  | none => .error .noBase
  | some url =>
      if ref.body = [] ∧ ref.query = none ∧ ref.fragment.isSome then .ok (url.withoutBody ref)
      else
        match url.path with
        | .whole _ => .error .baseWithoutParts
        | .parts _ => if url.scheme = "file" then readFile base ref else readRelative url ref

def readFrom (base : Option Url) (text : String) : Except Fault Url :=
  let ref := Reference.ofText text.toList
  match splitScheme? ref.body with
  | some (scheme, rest) => readSchemed base scheme ref rest
  | none => readUnschemed base ref

/-- Reads a URL. -/
def parse (text : String) : Except Fault Url :=
  readFrom none text

/-- Reads a text as a link on a page with this URL. -/
def join (base : Url) (text : String) : Except Fault Url :=
  readFrom (some base) text

end BillingAccess.Url
