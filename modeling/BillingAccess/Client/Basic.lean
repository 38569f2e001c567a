/-
A client of the billing interface: where it is, the token that is shown to it,
and how long an answer may take.
-/
import BillingAccess.Client.Call
import BillingAccess.Json.Reader
import BillingAccess.Json.Record
import BillingAccess.Network.Status
import BillingAccess.Session
import BillingAccess.Text.Blank
import BillingAccess.Url.Edit
import BillingAccess.World

namespace BillingAccess

open BillingAccess.Json

/-- What a client is made from. -/
structure ClientSettings where
  baseUrl : String := "https://api.commerce.hanzo.ai"
  token : Option String := none
  limit : Duration := .ofSeconds 10
deriving Repr, DecidableEq

structure Client where
  baseUrl : Url
  /-- Never empty. -/
  token : Option String
  limit : Duration
deriving Repr, DecidableEq

namespace Client

/-- An empty token is none. -/
def tokenOf (text : String) : Option String :=
  if text = "" then none else some text

/-- A client of the interface at a base URL; slashes at its end do not count. -/
def make (settings : ClientSettings) : Except Fault Client := do
  let text := String.ofList (Text.trimEndBy (· == '/') settings.baseUrl.toList)
  let url ← (Url.parse text).mapError Fault.url
  return ⟨url, settings.token.bind tokenOf, settings.limit⟩

/-- A client that shows the token of the session, while that is signed in. -/
def fromSession {σ : Type} [TokenStore σ] (settings : ClientSettings) :
    Action (World σ) Client := do
  let now ← Action.always World.readClock
  let token ← Action.always (World.readStore (Session.accessToken now))
  Action.ofExcept (make { settings with token := token })

def withToken (client : Client) (token : String) : Client :=
  { client with token := tokenOf token }

def withoutToken (client : Client) : Client :=
  { client with token := none }

def withLimit (client : Client) (limit : Duration) : Client :=
  { client with limit := limit }

/-- The same client, with another token if one is given. -/
def authorized (client : Client) (token : Option String) : Client :=
  match token with
  | some token => client.withToken token
  | none => client

/-- Where a call goes. -/
def resolve (client : Client) (call : Call) : Except Fault Url := do
  let url ← (client.baseUrl.join call.path).mapError Fault.url
  if call.segments = [] then return url.appendPairs call.params
  match url.withSegments? call.segments with
  | some url => return url.appendPairs call.params
  | none => throw (.settings (.baseWithoutPath client.baseUrl.text))

/-- The request that a call makes. -/
def requestOf (client : Client) (call : Call) (url : Url) : Request where
  method := call.method
  address := .ok url
  accept := "application/json"
  bearer := call.token.or client.token
  payload := match call.body with
    | some value => .json value
    | none => .none

/-- What is said of an answer that is no success. -/
def refusal (status : Nat) (body : String) : Fault :=
  .refused status (Text.trim (statusReason status ++ ": " ++ body))

/-- The body of an answer of success. -/
def readOutcome (limit : Duration) : Outcome → Except Fault String
  | .failed fault => .error (.transport fault)
  | .unanswered => .error (.timedOut limit)
  | .answered status body =>
      if isSuccess status then
        match body with
        | some bytes => .ok (bodyText bytes)
        | none => .error (.transport .brokenBody)
      else .error (refusal status ((body.map bodyText).getD ""))

variable {σ : Type}

/-- Makes a call, and gives the body of the answer. -/
def execute (client : Client) (call : Call) : Action (World σ) String := do
  let url ← Action.ofExcept (client.resolve call)
  let outcome ← Action.always (World.send (client.requestOf call url))
  Action.ofExcept (readOutcome client.limit outcome)

/-- Makes a call, and reads the answer. -/
def fetch {α : Type} (client : Client) (codec : Codec α) (call : Call) : Action (World σ) α := do
  let body ← client.execute call
  Action.ofExcept ((decodeText codec.read body.toList).mapError Fault.json)

/-- Makes a call whose answer says nothing more. -/
def perform (client : Client) (call : Call) : Action (World σ) Unit := do
  let _ ← client.execute call
  return ()

/-- Makes a call, and gives nothing if it fails. -/
def lookup? {α : Type} (client : Client) (codec : Codec α) (call : Call) :
    StateM (World σ) (Option α) := do
  return (← (client.fetch codec call).run).toOption

/-- Makes a call, and gives something else if it fails. -/
def fetchOr {α : Type} (client : Client) (codec : Codec α) (fallback : α) (call : Call) :
    StateM (World σ) α := do
  return (← (client.fetch codec call).run).toOption.getD fallback

end Client

end BillingAccess
