/-
Signing in, step by step.

`start` keeps fresh secrets and gives the address to which the user is sent.
`handleCallback` takes the address that the user comes back with: an error, a
token, or a code, which is exchanged for tokens if the state is the one that
was kept.  The secrets are removed before the code is sent, so that no code is
sent twice.  `refresh` exchanges the refresh token.
-/
import BillingAccess.Session
import BillingAccess.SignIn.Application
import BillingAccess.SignIn.Callback
import BillingAccess.SignIn.Grant
import BillingAccess.SignIn.Identity
import BillingAccess.Url.Edit
import BillingAccess.World

namespace BillingAccess.SignIn

variable {σ : Type} [TokenStore σ]

/-- Where a user is sent, and the secrets that were kept for the way back. -/
structure AuthorizationRequest where
  url : Url
  pkce : Pkce

/-- The address of a sign-in. -/
def authorizationUrl (app : Application) (pkce : Pkce) : Except Url.Fault Url :=
  (Url.parse app.authorizeEndpoint).map fun url => url.appendPairs [
    ("client_id", app.clientId),
    ("response_type", "code"),
    ("redirect_uri", app.redirectUri),
    ("scope", app.scopes),
    ("state", pkce.state),
    ("code_challenge", pkce.challenge),
    ("code_challenge_method", challengeMethod)]

/-- Draws new secrets. -/
def drawPkce : StateM (World σ) Pkce := fun w =>
  let (pkce, random) := Pkce.generate w.random
  (pkce, { w with random := random })

/-- Begins a sign-in; secrets that were kept before are replaced. -/
def start (app : Application) : Action (World σ) AuthorizationRequest := do
  let pkce ← Action.always drawPkce
  World.onStore (Session.setPending pkce.state pkce.verifier)
  let url ← Action.ofExcept ((authorizationUrl app pkce).mapError Fault.url)
  Action.always (World.setStage .authorizing)
  return ⟨url, pkce⟩

/-- The request that carries a form to the token endpoint. -/
def tokenRequest (app : Application) (form : List (String × String)) : Request where
  method := .post
  address := Url.parse app.tokenEndpoint
  accept := "*/*"
  bearer := none
  payload := .form form

/-- Asks the token endpoint for tokens. -/
def requestGrant (app : Application) (form : List (String × String)) :
    Action (World σ) Grant := do
  let outcome ← Action.always (World.send (tokenRequest app form))
  Action.ofExcept (Grant.ofOutcome outcome)

/-- Keeps the tokens of a grant. -/
def storeGrant (grant : Grant) : Action (World σ) Unit := do
  let now ← Action.always World.readClock
  World.onStore (Session.storeTokens now grant.accessToken grant.refreshToken grant.lifetime)

/-- The token, while the session is signed in. -/
def accessToken : StateM (World σ) (Option String) := do
  let now ← World.readClock
  World.readStore (Session.accessToken now)

/-- Who is signed in. -/
def currentUser : StateM (World σ) (Option Identity) := do
  return (← accessToken).bind Identity.ofToken?

/-- The form with which a code is exchanged. -/
def codeForm (app : Application) (code verifier : String) : List (String × String) := [
  ("grant_type", "authorization_code"),
  ("client_id", app.clientId),
  ("code", code),
  ("redirect_uri", app.redirectUri),
  ("code_verifier", verifier)]

/-- The form with which a refresh token is exchanged. -/
def refreshForm (app : Application) (token : String) : List (String × String) := [
  ("grant_type", "refresh_token"),
  ("client_id", app.clientId),
  ("refresh_token", token)]

/-- Exchanges a code.  The secrets have to be removed first. -/
def exchangeCode (app : Application) (code verifier : String) :
    Action (World σ) (Option Identity) := do
  World.onStore Session.clearPending
  let grant ← requestGrant app (codeForm app code verifier)
  storeGrant grant
  Action.always currentUser

/-- Takes a token that came without a code. -/
def acceptToken (token : String) (lifetime : Option UInt64) :
    Action (World σ) (Option Identity) := do
  let now ← Action.always World.readClock
  World.onStore (Session.storeTokens now token none lifetime)
  World.onStore Session.clearPending
  Action.always currentUser

/-- Exchanges the code of a callback if its state is the one that was kept. -/
def exchangeChecked (app : Application) (callback : Callback) (code : String) :
    Action (World σ) (Option Identity) := do
  let kept ← Action.always (World.readStore Session.pendingState)
  if kept.isNone ∨ callback.state ≠ kept then throw (.signIn .stateMismatch)
  else
    match ← Action.always (World.readStore Session.pendingVerifier) with
    | none => throw (.signIn .missingVerifier)
    | some verifier => exchangeCode app code verifier

/-- The decisions on a callback, in their order. -/
def processCallback (app : Application) (callback : Callback) :
    Action (World σ) (Option Identity) := do
  if let some error := callback.error then
    throw (.signIn (.provider error (callback.errorDescription.getD error)))
  match callback.code, callback.accessToken with
  | none, some token => acceptToken token callback.lifetime?
  | none, none => throw (.signIn .missingCode)
  | some code, _ => exchangeChecked app callback code

/-- Ends a callback.  After a failure the secrets are removed as well. -/
def settle : Except Fault (Option Identity) → Action (World σ) (Option Identity)
  | .ok user => do
      Action.always (World.setStage .authenticated)
      return user
  | .error fault => do
      let _ ← (World.onStore Session.clearPending).outcome
      Action.always (World.setStage .failed)
      throw fault

/-- Completes a sign-in. -/
def handleCallback (app : Application) (url : Url) : Action (World σ) (Option Identity) := do
  Action.always (World.setStage .callbackPending)
  settle (← (processCallback app (Callback.ofUrl url)).outcome)

/-- Exchanges the refresh token for new tokens. -/
def refresh (app : Application) : Action (World σ) (Option Identity) := do
  match ← Action.always (World.readStore Session.refreshToken) with
  | none => throw (.signIn .missingRefreshToken)
  | some token =>
      match ← (requestGrant app (refreshForm app token)).outcome with
      | .ok grant =>
          storeGrant grant
          Action.always (World.setStage .authenticated)
          Action.always currentUser
      | .error fault =>
          Action.always (World.setStage .failed)
          throw fault

/-- Signs out. -/
def logout : Action (World σ) Unit := do
  World.onStore Session.clear
  Action.always (World.setStage .idle)

/-- How a sign-in shows itself. -/
def display (app : Application) (stage : Stage) : String :=
  "PkceLoginFlow \x7b config: " ++ app.display ++ ", state: " ++ stage.name ++ " \x7d"

end BillingAccess.SignIn
