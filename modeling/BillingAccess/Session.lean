/-
A session: the tokens of a sign-in, when they expire, and the secrets of a
sign-in that is under way.

What cannot be read counts as absent.  A session is signed in while it has an
access token whose expiry lies ahead or is absent; an expiry that is no number
has passed.
-/
import BillingAccess.Storage.TokenStore
import BillingAccess.Text.Blank

namespace BillingAccess.Session

variable {σ : Type} [TokenStore σ]

/-- How long a token lasts if the server does not say. -/
def defaultLifetime : UInt64 := 3600

/-- What a slot holds, if it can be read. -/
def read (slot : Slot) : StateM σ (Option String) := do
  match ← (TokenStore.get slot : Action σ _).run with
  | .ok held => return held
  | .error _ => return none

/-- A time in milliseconds. -/
def readTime? (text : String) : Option Int64 :=
  Decimal.readInt64? (Text.trim text).toList

/-- Whether there is a token that has not expired. -/
def isLoggedIn (now : Int64) : StateM σ Bool := do
  match ← read .accessToken with
  | none => return false
  | some _ =>
      match ← read .expiresAt with
      | none => return true
      | some text => return (readTime? text).any fun expiry => now < expiry

/-- The token, while the session is signed in. -/
def accessToken (now : Int64) : StateM σ (Option String) := do
  if ← isLoggedIn now then read .accessToken else return none

def refreshToken : StateM σ (Option String) :=
  read .refreshToken

/-- When the token expires, if that can be read as a time. -/
def expiry : StateM σ (Option Int64) := do
  return (← read .expiresAt).bind readTime?

def pendingState : StateM σ (Option String) :=
  read .state

def pendingVerifier : StateM σ (Option String) :=
  read .codeVerifier

/-- A number, or the nearest number of 64 bits. -/
def clamp (n : Int) : Int64 :=
  if n < Int64.minValue.toInt then Int64.minValue
  else if Int64.maxValue.toInt < n then Int64.maxValue
  else Int64.ofInt n

/-- A lifetime in milliseconds, as far as it can be expressed. -/
def lifetimeMilliseconds (seconds : UInt64) : Int64 :=
  clamp (Int.ofNat (seconds.toNat * 1000))

/-- When a token that is given out now expires. -/
def expiryAt (now : Int64) (lifetime : Option UInt64) : Int64 :=
  clamp (now.toInt + (lifetimeMilliseconds (lifetime.getD defaultLifetime)).toInt)

/-- The three writes of `storeTokens`, the expiry first: a token is never
readable without the expiry that bounds it. -/
def writeTokens (now : Int64) (access : String) (refresh : Option String)
    (lifetime : Option UInt64) : Action σ Unit := do
  TokenStore.set .expiresAt (Decimal.ofInt (expiryAt now lifetime).toInt)
  if let some refresh := refresh then TokenStore.set .refreshToken refresh
  TokenStore.set .accessToken access

/-- Keeps a new token.  An old refresh token stays if there is no new one.  If
a write fails, the access token is removed. -/
def storeTokens (now : Int64) (access : String) (refresh : Option String)
    (lifetime : Option UInt64) : Action σ Unit := fun s =>
  match (writeTokens now access refresh lifetime).runFrom s with
  | (.ok (), s) => (.ok (), s)
  | (.error fault, s) =>
      (.error fault, ((TokenStore.remove .accessToken : Action σ Unit).runFrom s).2)

/-- Keeps the secrets of a sign-in. -/
def setPending (state verifier : String) : Action σ Unit := do
  TokenStore.set .state state
  TokenStore.set .codeVerifier verifier

/-- Removes every slot of a list that can be removed; the first failure is the
result. -/
def removeAll : List Slot → Action σ Unit
  | [] => pure ()
  | slot :: rest => fun s =>
      match (TokenStore.remove slot : Action σ Unit).runFrom s with
      | (.ok (), s) => (removeAll rest).runFrom s
      | (.error fault, s) => (.error fault, ((removeAll rest).runFrom s).2)

def clearPending : Action σ Unit :=
  removeAll [.state, .codeVerifier]

/-- Signs out. -/
def clear : Action σ Unit :=
  removeAll Slot.all

/-- How a session shows itself. -/
def display (now : Int64) : StateM σ String := do
  return "SessionTokenStore \x7b logged_in: " ++ (if ← isLoggedIn now then "true" else "false")
    ++ " \x7d"

end BillingAccess.Session
