/-
Requests, and what comes back.
-/
import BillingAccess.Base64
import BillingAccess.Fault
import BillingAccess.Json.Printer
import BillingAccess.Text.Utf16
import BillingAccess.Url.Reader

namespace BillingAccess

inductive Method
  | get
  | post
  | patch
  | delete
  | other (name : String)
deriving Repr, DecidableEq

def Method.name : Method → String
  | .get => "GET"
  | .post => "POST"
  | .patch => "PATCH"
  | .delete => "DELETE"
  | .other name => name

/-- The method of a name. -/
def Method.ofName (name : String) : Method :=
  ([Method.get, .post, .patch, .delete].find? (·.name == name)).getD (.other name)

/-- What a request carries. -/
inductive Payload
  | none
  | json (value : Json.Value)
  | form (pairs : List (String × String))
deriving Repr

def Payload.contentType? : Payload → Option String
  | .none => Option.none
  | .json _ => some "application/json"
  | .form _ => some "application/x-www-form-urlencoded"

/-- The text that a part of an address stands for, if it stands for one. -/
def Url.plainText? (part : String) : Option String :=
  Utf8.toString? (Percent.decode part.toList)

/-- The name and the password of the user that an address names.  One whose name
stands for no text is no user, and a password that stands for none is left out. -/
def Url.user? (url : Url) : Option (String × String) :=
  (plainText? url.username).bind fun name =>
    let password := (plainText? url.password).getD ""
    if name = "" ∧ password = "" then none else some (name, password)

structure Request where
  method : Method
  /-- Where it goes, unless that is no URL. -/
  address : Except Url.Fault Url
  accept : String
  /-- The bearer token, if any. -/
  bearer : Option String
  payload : Payload
deriving Repr

namespace Request

/-- The user that the address names. -/
def user? (request : Request) : Option (String × String) :=
  match request.address with
  | .ok url => url.user?
  | .error _ => none

/-- The header of a user. -/
def basic (user : String × String) : String :=
  "Basic " ++ Base64.Form.encode ⟨.standard, true⟩ (Utf8.ofString (user.1 ++ ":" ++ user.2))

/-- The header of the token. -/
def authorization? (request : Request) : Option String :=
  request.bearer.map ("Bearer " ++ ·)

/-- All headers that say who asks.  The user of the address comes first, and the
token does not take its place. -/
def authorizations (request : Request) : List String :=
  (request.user?.map basic).toList ++ request.authorization?.toList

/-- Headers hold no control characters but tabs. -/
def isHeaderText (text : String) : Bool :=
  text.toList.all fun c => c == '\t' || !Percent.control c

/-- The address as it is put to the peer: without the user that it names, which
has a header instead. -/
def publicUrl (url : Url) : Url :=
  if url.user?.isSome then { url with username := "", password := "" } else url

/-- Where a request goes, unless it cannot even be sent. -/
def destination (request : Request) : Except TransportFault Url :=
  match request.address with
  | .error cause => .error (.badAddress cause)
  | .ok url =>
      if request.authorization?.any fun text => !isHeaderText text then .error .badHeader
      else if url.scheme = "http" ∨ url.scheme = "https" then .ok url
      else .error (.badScheme url.text)

end Request

/-- What a peer does with a request.  The body of an answer may break off; then
it cannot be read. -/
inductive Reply
  | answer (status : Nat) (body : Option (List UInt8))
  | hangUp
  | silence
deriving Repr

/-- What becomes of a request. -/
inductive Outcome
  | answered (status : Nat) (body : Option (List UInt8))
  | failed (fault : TransportFault)
  /-- No answer ever comes. -/
  | unanswered
deriving Repr

/-- The text of a body, broken characters replaced.  A byte order mark says how
it is written and is no part of it; without one it is UTF-8, as no header says
otherwise. -/
def bodyText (bytes : List UInt8) : String :=
  match bytes with
  | 0xEF :: 0xBB :: 0xBF :: rest => Utf8.toStringLossy rest
  | 0xFF :: 0xFE :: rest => Utf16.toStringLossy .little rest
  | 0xFE :: 0xFF :: rest => Utf16.toStringLossy .big rest
  | _ => Utf8.toStringLossy bytes

/-- The statuses of success. -/
def isSuccess (status : Nat) : Bool :=
  200 ≤ status && status < 300

example : ({ scheme := "http", username := "a%20b", password := "c" } : Url).user?.map Request.basic
    = some "Basic YSBiOmM=" := by decide +kernel
example : bodyText [0xFF, 0xFE, 0x5B, 0x00, 0x5D, 0x00] = "[]" := by decide +kernel
example : bodyText [0xFE, 0xFF, 0x00, 0x5B, 0x00, 0x5D] = "[]" := by decide +kernel

end BillingAccess
