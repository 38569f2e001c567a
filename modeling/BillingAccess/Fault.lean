/-
Everything that can go wrong, and what is said about it.

A fault is a cause with the data that its message needs.  What other parts of
the program find out about their input (a text that is no URL, no JSON, no
YAML) keeps its own cause.
-/
import BillingAccess.Duration
import BillingAccess.Json.Value
import BillingAccess.Url.Fault

namespace BillingAccess

/-- What is wrong with the settings, or with a use that they do not allow. -/
inductive SettingsFault
  | fileUnreadable
  | fileMalformed
  | noClient
  | notUrl (setting value : String) (cause : Url.Fault)
  | noTimeout
  | unknownBackend (name : String)
  | noSessionFile
  | redirectWithoutHost (uri : String)
  | redirectWithoutPort (uri : String)
  /-- The base URL of the interface has no path to which segments can be added. -/
  | baseWithoutPath (url : String)
  | noUser
  | stated (text : String)
deriving Repr, DecidableEq

/-- Where session tokens can be kept. -/
def backendNames : List String := ["memory", "file", "keyring"]

def SettingsFault.message : SettingsFault → String
  | .fileUnreadable => "Failed to read config file"
  | .fileMalformed => "Failed to parse config"
  | .noClient => "iam.client_id cannot be empty"
  | .notUrl setting value cause =>
      setting ++ " is not a valid URL (" ++ value ++ "): " ++ cause.message
  | .noTimeout => "commerce.timeout_seconds must be greater than 0"
  | .unknownBackend name =>
      "Invalid storage backend: " ++ name ++ ". Must be one of: "
        ++ String.intercalate ", " backendNames
  | .noSessionFile => "no home directory; set storage.path or HANZO_COMMERCE_STORAGE_PATH"
  | .redirectWithoutHost uri => "redirect URI has no host: " ++ uri
  | .redirectWithoutPort uri => "redirect URI has no port: " ++ uri
  | .baseWithoutPath url => "base URL cannot take a path: " ++ url
  | .noUser => "Not logged in. Run `hanzo-commerce login` or pass --user"
  | .stated text => text

/-- What breaks off a sign-in. -/
inductive SignInFault
  /-- The server reports an error. -/
  | provider (code description : String)
  | missingCode
  | stateMismatch
  | missingVerifier
  /-- The server refuses to exchange the code or the refresh token. -/
  | exchangeRefused (status : Nat) (detail : String)
  | missingAccessToken
  | missingRefreshToken
deriving Repr, DecidableEq

def SignInFault.message : SignInFault → String
  | .provider _ description => "OAuth error: " ++ description
  | .missingCode => "No authorization code in callback"
  | .stateMismatch => "State mismatch -- possible CSRF"
  | .missingVerifier => "Missing code verifier"
  | .exchangeRefused status detail =>
      "Token exchange failed (" ++ Decimal.ofNat status ++ "): " ++ detail
  | .missingAccessToken => "No access token received"
  | .missingRefreshToken => "No refresh token stored"

/-- Why a file or a folder could not be used. -/
inductive DiskFault
  | notFound
  | isDirectory
  | notDirectory
  | alreadyExists
  /-- The content is no text. -/
  | invalidData
  /-- A name holds a zero, which no name can. -/
  | invalidInput
  | nameTooLong
  | permissionDenied
  | addressUnavailable
  | unclassified
deriving Repr, DecidableEq

/-- Why the keyring refused a call. -/
inductive KeyringFault
  | noEntry
  | badEncoding
  | tooLong (entry : String) (limit : Nat)
  | invalid (entry reason : String)
deriving Repr, DecidableEq

def KeyringFault.message : KeyringFault → String
  | .noEntry => "No matching entry found in secure storage"
  | .badEncoding => "Password cannot be UTF-8 encoded"
  | .tooLong entry limit =>
      "Attribute '" ++ entry ++ "' is longer than platform limit of "
        ++ Decimal.ofNat limit ++ " chars"
  | .invalid entry reason => "Attribute " ++ entry ++ " is invalid: " ++ reason

/-- Why a store of tokens failed. -/
inductive StorageFault
  /-- The session file at the path does not hold what a session file holds. -/
  | malformed (path : String)
  | stated (text : String)
deriving Repr, DecidableEq

def StorageFault.message : StorageFault → String
  | .malformed path => "malformed session file " ++ path
  | .stated text => text

/-- Why a request has no answer. -/
inductive TransportFault
  /-- The address is no URL. -/
  | badAddress (cause : Url.Fault)
  /-- Only the schemes of the web are sent. -/
  | badScheme (address : String)
  /-- A header holds a character that headers cannot hold. -/
  | badHeader
  /-- There is no way to the peer. -/
  | unreachable (address : String)
  /-- The peer hangs up without an answer. -/
  | closed (address : String)
  /-- The body of the answer breaks off. -/
  | brokenBody
deriving Repr, DecidableEq

inductive Fault
  | settings (fault : SettingsFault)
  | signIn (fault : SignInFault)
  /-- The interface answers with a status that is no success. -/
  | refused (status : Nat) (detail : String)
  | timedOut (limit : Duration)
  | storage (fault : StorageFault)
  | keyring (fault : KeyringFault)
  | disk (fault : DiskFault)
  | json (cause : Json.Cause)
  | yaml
  | url (cause : Url.Fault)
  | transport (fault : TransportFault)
deriving Repr, DecidableEq

/-- The causes of a failed request, the nearest first. -/
def TransportFault.causes : TransportFault → List String
  | .badAddress cause => ["builder error: " ++ cause.message, cause.message]
  | .badScheme address =>
      ["builder error for url (" ++ address ++ "): URL scheme is not allowed",
        "URL scheme is not allowed"]
  | .badHeader =>
      ["builder error: failed to parse header value", "failed to parse header value"]
  | .unreachable address =>
      chain ["error sending request for url (" ++ address ++ ")", "error trying to connect",
        "tcp connect error", "Network is unreachable (os error 101)"]
  | .closed address =>
      chain ["error sending request for url (" ++ address ++ ")",
        "connection closed before message completed"]
  | .brokenBody =>
      chain ["request or response body error", "error reading a body from connection",
        "end of file before message length reached"]
where
  /-- Each cause names all that are behind it. -/
  chain : List String → List String
    | [] => []
    | cause :: rest => String.intercalate ": " (cause :: rest) :: chain rest

namespace Fault

/-- What a fault is about, followed by what went wrong. -/
def message : Fault → String
  | .settings fault => "Configuration error: " ++ fault.message
  | .signIn fault => fault.message
  | .refused status detail =>
      "Commerce API error (" ++ Decimal.ofNat status ++ "): " ++ detail
  | .timedOut limit => "Request timed out after " ++ limit.text
  | .storage fault => "Storage error: " ++ fault.message
  | .keyring fault => "Keyring error: " ++ fault.message
  | .disk fault => "IO error: " ++ diskText fault
  | .json cause => "Serialization error: " ++ jsonText cause
  | .yaml => "YAML error: not a document of the expected shape"
  | .url cause => "URL error: " ++ cause.message
  | .transport fault => "HTTP error: " ++ fault.causes.headD ""
where
  diskText : DiskFault → String
    | .notFound => "No such file or directory (os error 2)"
    | .isDirectory => "Is a directory (os error 21)"
    | .notDirectory => "Not a directory (os error 20)"
    | .alreadyExists => "File exists (os error 17)"
    | .invalidData => "stream did not contain valid UTF-8"
    | .invalidInput => "file name contained an unexpected NUL byte"
    | .nameTooLong => "File name too long (os error 36)"
    | .permissionDenied => "Permission denied (os error 13)"
    | .addressUnavailable => "Cannot assign requested address (os error 99)"
    | .unclassified => "failed to lookup address information"
  jsonText : Json.Cause → String
    | .malformed => "the text is not JSON"
    | .mismatched => "the text has another shape"
    | .truncated => "the text ends too early"

/-- What is behind a fault, the nearest first. -/
def causes : Fault → List String
  | .keyring fault => [fault.message]
  | .disk fault => [message.diskText fault]
  | .json cause => [message.jsonText cause]
  | .url cause => [cause.message]
  | .transport fault => fault.causes
  | _ => []

/-- The status with which the interface refused. -/
def status? : Fault → Option Nat
  | .refused status _ => some status
  | _ => none

/-- The state that came back is not the one that was sent. -/
def isStateMismatch : Fault → Bool
  | .signIn .stateMismatch => true
  | _ => false

/-- What the program writes when it ends with a fault: the message, and a list
of the causes if there are any, numbered if there are several. -/
def report (fault : Fault) : String :=
  "Error: " ++ fault.message ++ "\n" ++
    match fault.causes with
    | [] => ""
    | [cause] => "\nCaused by:\n    " ++ cause ++ "\n"
    | several =>
        "\nCaused by:\n" ++ String.join (several.zipIdx.map fun (cause, i) =>
          "    " ++ Decimal.ofNat i ++ ": " ++ cause ++ "\n")

example : (Fault.url .noBase).report
    = "Error: URL error: relative URL without a base\n\n"
      ++ "Caused by:\n    relative URL without a base\n" := by
  decide +kernel

end Fault

end BillingAccess
