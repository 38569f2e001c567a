/-
The application that a user signs in to, as the identity server knows it.
-/
import BillingAccess.Text.Blank
import BillingAccess.Text.Quoted

namespace BillingAccess.SignIn

def authorizePath : String := "/login/oauth/authorize"
def tokenPath : String := "/api/login/oauth/access_token"
def defaultScopes : String := "openid profile email"

structure Application where
  serverUrl : String
  clientId : String
  redirectUri : String
  /-- The scopes that are asked for, with blanks between them. -/
  scopes : String := defaultScopes
deriving Repr, DecidableEq

namespace Application

/-- The server without slashes at its end. -/
def baseUrl (app : Application) : String :=
  String.ofList (Text.trimEndBy (· == '/') app.serverUrl.toList)

/-- Where users go to sign in. -/
def authorizeEndpoint (app : Application) : String :=
  app.baseUrl ++ authorizePath

/-- Where tokens are given out. -/
def tokenEndpoint (app : Application) : String :=
  app.baseUrl ++ tokenPath

/-- How an application shows itself. -/
def display (app : Application) : String :=
  "IamAuthConfig \x7b iam_server_url: " ++ Text.quoted app.serverUrl
    ++ ", client_id: " ++ Text.quoted app.clientId
    ++ ", redirect_uri: " ++ Text.quoted app.redirectUri
    ++ ", scopes: " ++ Text.quoted app.scopes ++ " \x7d"

end Application

end BillingAccess.SignIn
