/-
For whom a command acts.
-/
import BillingAccess.SignIn.Flow

namespace BillingAccess.SignIn

variable {σ : Type} [TokenStore σ]

/-- The user that is named, or else the one that is signed in. -/
def resolveUser (named : Option String) : Action (World σ) String := do
  match named.filter (· ≠ "") with
  | some user => return user
  | none =>
      let identity ← Action.always currentUser
      match (identity.map Identity.subject).filter (· ≠ "") with
      | some subject => return subject
      | none => throw (.settings .noUser)

end BillingAccess.SignIn
