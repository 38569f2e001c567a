/-
Who is signed in, as the access token tells it.

The middle part of a token holds claims.  Its signature is not checked: the
identity is for display, and it decides nothing.
-/
import BillingAccess.Base64
import BillingAccess.Json.Reader
import BillingAccess.Json.Record
import BillingAccess.Text.Blank

namespace BillingAccess.SignIn

open BillingAccess.Json

/-- What the claims say about a user. -/
structure Identity where
  email : String
  displayName : Option String
  avatar : Option String
  subject : String
deriving Repr, DecidableEq

/-- The form in which an identity is handed on. -/
def Identity.record : Record Identity where
  empty := ⟨"", none, none, ""⟩
  fields := [
    .of "email" .text (·.email) fun x r => { r with email := x },
    .of "displayName" (.option .text) (·.displayName) fun x r => { r with displayName := x },
    .of "avatar" (.option .text) (·.avatar) fun x r => { r with avatar := x },
    .of "sub" .text (·.subject) fun x r => { r with subject := x }]
  required := ["email", "sub"]

/-- Claims are an object.  A claim that is not a text counts as absent, and
`name` stands in for an absent email, display name or subject. -/
def Identity.ofClaims? : Value → Option Identity
  | .object members =>
      let claim := fun key => (members.lookup key).bind Value.text?
      let name := claim "name"
      some {
        email := ((claim "email").or name).getD ""
        displayName := (claim "displayName").or name
        avatar := claim "avatar"
        subject := ((claim "sub").or name).getD "" }
  | _ => none

/-- What to call the user. -/
def Identity.label (identity : Identity) : String :=
  match identity.displayName with
  | some name => if name ≠ "" then name else if identity.email ≠ "" then identity.email
      else identity.subject
  | none => if identity.email ≠ "" then identity.email else identity.subject

/-- The bytes of a part of a token, in either alphabet, padded or not. -/
def decodeSegment? (segment : List Char) : Option (List UInt8) :=
  let symbols := Text.trimEndBy (· == '=') segment
  (Base64.decode? .urlSafe symbols).or (Base64.decode? .standard symbols)

/-- The claims in a byte string. -/
def Identity.ofPayload? (bytes : List UInt8) : Option Identity := do
  let text ← Utf8.decode? bytes
  let claims ← (decodeText Draft.value text).toOption
  Identity.ofClaims? claims

/-- The parts between the points of a token. -/
def tokenParts (token : String) : List (List Char) :=
  token.toList.splitOn '.'

/-- The identity in the second part of a token of three parts or more. -/
def Identity.ofToken? (token : String) : Option Identity :=
  match tokenParts token with
  | _ :: payload :: _ :: _ => (decodeSegment? payload).bind Identity.ofPayload?
  | _ => none

example : (Identity.ofToken? "h.eyJzdWIiOiJ1MSIsImVtYWlsIjoiYUBiLmMifQ.s").map Identity.label
    = some "a@b.c" := by decide +kernel

end BillingAccess.SignIn
