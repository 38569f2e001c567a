/-
What the browser brings back from the identity server: a code, a token, or an
error.

Of each name the first value that is not empty counts.  A token may also stand
in the fragment, and its lifetime is looked for beside it first.
-/
import BillingAccess.Text.Blank
import BillingAccess.Url.Reader

namespace BillingAccess.SignIn

structure Callback where
  code : Option String
  state : Option String
  error : Option String
  errorDescription : Option String
  accessToken : Option String
  /-- The lifetime of the token, as it was sent. -/
  expiresIn : Option String
deriving Repr, DecidableEq

/-- The first value of a name that is not empty. -/
def firstValue? (name : String) (pairs : List (String × String)) : Option String :=
  (pairs.find? fun pair => pair.1 == name && pair.2 != "").map Prod.snd

namespace Callback

/-- The parameters in the pairs of a query and of a fragment. -/
def ofPairs (query fragment : List (String × String)) : Callback where
  code := firstValue? "code" query
  state := firstValue? "state" query
  error := firstValue? "error" query
  errorDescription := firstValue? "error_description" query
  accessToken := (firstValue? "access_token" query).or (firstValue? "access_token" fragment)
  expiresIn :=
    if (firstValue? "access_token" query).isSome then firstValue? "expires_in" query
    else (firstValue? "expires_in" fragment).or (firstValue? "expires_in" query)

def ofUrl (url : Url) : Callback :=
  ofPairs (Form.decode (url.query.getD "")) (Form.decode (url.fragment.getD ""))

/-- A token without a code. -/
def isImplicit (callback : Callback) : Bool :=
  callback.accessToken.isSome && callback.code.isNone

/-- The lifetime, if it is a number of seconds. -/
def lifetime? (callback : Callback) : Option UInt64 :=
  (callback.expiresIn.bind fun text =>
    Decimal.readUnsigned? Decimal.greatest64 (Text.trim text).toList).map UInt64.ofNat

end Callback

end BillingAccess.SignIn
