/-
The settings of the program: the identity server, the billing interface, and
where sessions are kept.
-/
import BillingAccess.Client.Basic
import BillingAccess.SignIn.Application
import BillingAccess.Storage.Vault

namespace BillingAccess

open BillingAccess.Json

structure IdentitySettings where
  serverUrl : String := "https://hanzo.id"
  clientId : String := "hanzo-app-client-id"
  redirectUri : String := "http://127.0.0.1:8765/callback"
  scopes : String := SignIn.defaultScopes
deriving Repr, DecidableEq

structure CommerceSettings where
  baseUrl : String := "https://api.commerce.hanzo.ai"
  timeoutSeconds : UInt64 := 10
  /-- A token that is shown instead of that of the session. -/
  token : Option String := none
deriving Repr, DecidableEq

structure StorageSettings where
  backend : String := "file"
  /-- The session file, if it is not in its usual place. -/
  path : Option String := none
  keyringService : String := Keyring.defaultService
deriving Repr, DecidableEq

structure Settings where
  identity : IdentitySettings := {}
  commerce : CommerceSettings := {}
  storage : StorageSettings := {}
deriving Repr, DecidableEq

namespace Settings

/-- The settings without their token, which is never written. -/
def withoutToken (settings : Settings) : Settings :=
  { settings with commerce := { settings.commerce with token := none } }

/-- The form in which settings are written, without their token. -/
def write (settings : Settings) : Value :=
  let identity := settings.identity
  let commerce := settings.commerce
  let storage := settings.storage
  .object [
    ("iam", .object [
      ("server_url", .text identity.serverUrl),
      ("client_id", .text identity.clientId),
      ("redirect_uri", .text identity.redirectUri),
      ("scopes", .text identity.scopes)]),
    ("commerce", .object [
      ("base_url", .text commerce.baseUrl),
      ("timeout_seconds", Codec.seconds.write commerce.timeoutSeconds)]),
    ("storage", .object [
      ("backend", .text storage.backend),
      ("path", (Codec.option .text).write storage.path),
      ("keyring_service", .text storage.keyringService)])]

/-- The application to which users sign in. -/
def application (settings : Settings) : SignIn.Application where
  serverUrl := settings.identity.serverUrl
  clientId := settings.identity.clientId
  redirectUri := settings.identity.redirectUri
  scopes := settings.identity.scopes

/-- What a client of the billing interface is made from. -/
def clientSettings (settings : Settings) : ClientSettings where
  baseUrl := settings.commerce.baseUrl
  token := settings.commerce.token
  limit := .ofSeconds settings.commerce.timeoutSeconds.toNat

def checkUrl (setting value : String) : Except SettingsFault Unit :=
  match Url.parse value with
  | .ok _ => .ok ()
  | .error cause => .error (.notUrl setting value cause)

/-- The first thing that is wrong with the settings. -/
def check (settings : Settings) : Except SettingsFault Unit := do
  if Text.isBlankText settings.identity.clientId then throw .noClient
  checkUrl "iam.server_url" settings.identity.serverUrl
  checkUrl "iam.redirect_uri" settings.identity.redirectUri
  checkUrl "commerce.base_url" settings.commerce.baseUrl
  if settings.commerce.timeoutSeconds = 0 then throw .noTimeout
  if !backendNames.contains settings.storage.backend then
    throw (.unknownBackend settings.storage.backend)

def validate (settings : Settings) : Except Fault Unit :=
  settings.check.mapError Fault.settings

/-- A client for a command: a token of the settings comes before that of the
session. -/
def client {σ : Type} [TokenStore σ] (settings : Settings) : Action (World σ) Client :=
  match settings.commerce.token with
  | some _ => Action.ofExcept (Client.make settings.clientSettings)
  | none => Client.fromSession settings.clientSettings

end Settings

end BillingAccess
