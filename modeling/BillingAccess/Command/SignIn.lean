/-
The commands for signing in and out.
-/
import BillingAccess.Command.Basic
import BillingAccess.SignIn.Flow
import BillingAccess.SignIn.Redirect
import BillingAccess.Timestamp

namespace BillingAccess.Command

/-- Completes a sign-in with the address that the browser came back with. -/
def complete (setting : Setting) (url : Url) : Step Unit := do
  match ← SignIn.handleCallback setting.settings.application url with
  | some user =>
      printLine (done setting ++ " Signed in as " ++ Text.styled setting.colors .bold user.label)
  | none => printLine (done setting ++ " Signed in")

/-- Waits for the browser and completes the sign-in. -/
def completeWith (setting : Setting) (listener : SignIn.Listener) (patience : UInt64) :
    Step Unit := do
  printLine ("Waiting for the redirect on " ++ setting.settings.identity.redirectUri ++ " ...")
  match ← Action.always (SignIn.awaitBrowser listener) with
  | some url => complete setting url
  | none => throw (.timedOut (.ofSeconds patience.toNat))

def listenIf (setting : Setting) (listen : Bool) : Step (Option SignIn.Listener) := do
  let w ← get
  if listen then
    some <$> Action.ofExcept (SignIn.listen setting.settings.identity.redirectUri w.ports)
  else return none

/-- Begins a sign-in.  The program listens before it keeps new secrets, so that
the ones that were kept stay if it cannot.  It has no browser to open. -/
def runLogin (setting : Setting) (listen : Bool) (patience : UInt64) : Step Unit := do
  openSession setting
  let listener ← listenIf setting listen
  let request ← SignIn.start setting.settings.application
  printLines [
    "\nOpen the following URL in your browser to sign in:\n",
    "  " ++ request.url.text ++ "\n"]
  match listener with
  | none => printLine "After signing in, run:\n\n  hanzo-commerce callback '<redirect URL>'\n"
  | some listener => completeWith setting listener patience

def runCallback (setting : Setting) (text : String) : Step Unit := do
  openSession setting
  let url ← Action.ofExcept ((Url.parse text).mapError Fault.url)
  complete setting url

/-- An empty text is shown as a hyphen. -/
def orHyphen (text : String) : String :=
  if text = "" then "-" else text

def showUser (user : SignIn.Identity) : List String :=
  ["\nSigned-in User\n",
    "Name:    " ++ user.displayName.getD "-",
    "Email:   " ++ orHyphen user.email,
    "Subject: " ++ orHyphen user.subject]
  ++ (user.avatar.map ("Avatar:  " ++ ·)).toList
  ++ [""]

def runWhoami (setting : Setting) : Step Unit := do
  openSession setting
  match ← Action.always SignIn.currentUser with
  | some user => printLines (showUser user)
  | none =>
      let now ← Action.always World.readClock
      if ← Action.always (World.readStore (Session.isLoggedIn now)) then
        printLine "Signed in, but the access token carries no readable identity"
      else printLine (Text.styled setting.colors .yellow "Not signed in")

/-- What is said of a session: whether it is signed in, when that ends or ended,
whether it has a refresh token, and whether a sign-in is under way. -/
def showStatus (setting : Setting) (signedIn : Bool) (expiry : Option Int64)
    (refreshable pending : Bool) : List String :=
  let state :=
    if signedIn then Text.styled setting.colors .green "signed in"
    else if expiry.isSome then Text.styled setting.colors .red "expired"
    else Text.styled setting.colors .yellow "signed out"
  ["\nSession Status\n",
    "IAM server:    " ++ setting.settings.identity.serverUrl,
    "Storage:       " ++ setting.settings.storage.backend,
    "State:         " ++ state]
  ++ (expiry.map fun moment => "Expires at:    " ++ Timestamp.text moment).toList
  ++ ["Refresh token: " ++ if refreshable then "yes" else "no"]
  ++ (if pending then ["Pending login: yes (complete it with `hanzo-commerce callback`)"] else [])
  ++ [""]

def runStatus (setting : Setting) : Step Unit := do
  openSession setting
  let now ← Action.always World.readClock
  let signedIn ← Action.always (World.readStore (Session.isLoggedIn now))
  let expiry ← Action.always (World.readStore Session.expiry)
  let refreshToken ← Action.always (World.readStore Session.refreshToken)
  let state ← Action.always (World.readStore Session.pendingState)
  printLines (showStatus setting signedIn expiry refreshToken.isSome state.isSome)

def runLogout (setting : Setting) : Step Unit := do
  openSession setting
  SignIn.logout
  printLine (done setting ++ " Signed out")

def runRefresh (setting : Setting) : Step Unit := do
  openSession setting
  match ← SignIn.refresh setting.settings.application with
  | some user => printLine (done setting ++ " Token refreshed for " ++ user.label)
  | none => printLine (done setting ++ " Token refreshed")

end BillingAccess.Command
