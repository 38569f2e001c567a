/-
The answer of a token endpoint, and the tokens that it grants.
-/
import BillingAccess.Fault
import BillingAccess.Json.Reader
import BillingAccess.Json.Record
import BillingAccess.Network.Message
import BillingAccess.Text.Blank

namespace BillingAccess.SignIn

open BillingAccess.Json

/-- What an answer may say.  None of it has to be there. -/
structure TokenAnswer where
  accessToken : Option String := none
  refreshToken : Option String := none
  expiresIn : Option UInt64 := none
  error : Option String := none
  errorDescription : Option String := none
deriving Repr, DecidableEq

def TokenAnswer.record : Record TokenAnswer where
  empty := {}
  fields := [
    .of "access_token" (.option .text) (·.accessToken) fun x r => { r with accessToken := x },
    .of "refresh_token" (.option .text) (·.refreshToken) fun x r => { r with refreshToken := x },
    .of "expires_in" (.option .seconds) (·.expiresIn) fun x r => { r with expiresIn := x },
    .of "error" (.option .text) (·.error) fun x r => { r with error := x },
    .of "error_description" (.option .text) (·.errorDescription)
      fun x r => { r with errorDescription := x }]
  required := []

/-- The tokens of a sign-in or a refresh. -/
structure Grant where
  accessToken : String
  refreshToken : Option String
  lifetime : Option UInt64
deriving Repr, DecidableEq

namespace Grant

/-- An error counts even beside a token, and what is empty counts as absent. -/
def ofAnswer (answer : TokenAnswer) : Except SignInFault Grant :=
  match answer.error.filter (· ≠ "") with
  | some error => .error (.provider error ((answer.errorDescription.filter (· ≠ "")).getD error))
  | none =>
      match answer.accessToken.filter (· ≠ "") with
      | none => .error .missingAccessToken
      | some token =>
          .ok ⟨token, answer.refreshToken.filter (· ≠ ""), answer.expiresIn⟩

/-- The tokens in the text of an answer; a blank one says nothing. -/
def ofText (text : String) : Except Fault Grant := do
  let answer ←
    if Text.isBlankText text then pure {}
    else (decodeText TokenAnswer.record.codec.read text.toList).mapError Fault.json
  (ofAnswer answer).mapError Fault.signIn

/-- The tokens in what came of a request.  The usual HTTP client of a sign-in
waits as long as it takes; that no answer comes is said of one that the caller
has chosen and that stops waiting. -/
def ofOutcome : Outcome → Except Fault Grant
  | .failed fault => .error (.transport fault)
  | .unanswered => .error (.transport .brokenBody)
  | .answered status body =>
      if isSuccess status then
        match body with
        | some bytes => ofText (bodyText bytes)
        | none => .error (.transport .brokenBody)
      else .error (.signIn (.exchangeRefused status ((body.map bodyText).getD "")))

end Grant

end BillingAccess.SignIn
