/-
URLs and their text.

The path of most URLs is a list of segments.  Only a URL without a host may
instead have a path that is one text without parts.  Everything in a URL is
already escaped as its place requires.
-/
import BillingAccess.Url.Form
import BillingAccess.Url.Host

namespace BillingAccess

inductive Url.Path
  | whole (text : String)
  | parts (segments : List String)
deriving Repr, DecidableEq

structure Url where
  scheme : String
  username : String := ""
  password : String := ""
  /-- A name that is empty stands for a host that is written but empty. -/
  host : Option Url.Host := none
  port : Option Nat := none
  path : Url.Path := .parts []
  query : Option String := none
  fragment : Option String := none
deriving Repr, DecidableEq

namespace Url

/-- The schemes whose URLs have a host and segments, and their usual ports. -/
def knownPorts : List (String × Nat) :=
  [("http", 80), ("https", 443), ("ws", 80), ("wss", 443), ("ftp", 21)]

/-- Schemes of files and of the known ports read a backslash as a slash. -/
def isSpecial (scheme : String) : Bool :=
  scheme == "file" || (knownPorts.lookup scheme).isSome

/-- The port of a URL, its usual one if it names none. -/
def portOrKnown? (url : Url) : Option Nat :=
  url.port.or (knownPorts.lookup url.scheme)

/-- The text of a host that is not empty. -/
def hostText? (url : Url) : Option String :=
  match url.host with
  | some host => if host = .named "" then none else some host.text
  | none => none

def Path.text : Path → String
  | .whole text => text
  | .parts segments => String.join (segments.map ("/" ++ ·))

def userinfoText (url : Url) : String :=
  if url.username = "" ∧ url.password = "" then ""
  else if url.password = "" then url.username ++ "@"
  else url.username ++ ":" ++ url.password ++ "@"

def portText (url : Url) : String :=
  match url.port with
  | some port => ":" ++ Decimal.ofNat port
  | none => ""

/-- What stands before the path.  A path that would be taken for a host is
kept apart by a point. -/
def authorityText (url : Url) : String :=
  match url.host, url.path with
  | some host, _ => "//" ++ url.userinfoText ++ host.text ++ url.portText
  | none, .parts ("" :: _ :: _) => "/."
  | none, _ => ""

def queryText (url : Url) : String :=
  match url.query with
  | some query => "?" ++ query
  | none => ""

def fragmentText (url : Url) : String :=
  match url.fragment with
  | some fragment => "#" ++ fragment
  | none => ""

def text (url : Url) : String :=
  url.scheme ++ ":" ++ url.authorityText ++ url.path.text ++ url.queryText ++ url.fragmentText

/-- The pairs in the query. -/
def queryPairs (url : Url) : List (String × String) :=
  Form.decode (url.query.getD "")

end Url

end BillingAccess
