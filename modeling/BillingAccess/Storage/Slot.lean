/-
The five values that a session keeps.
-/

namespace BillingAccess

inductive Slot
  | accessToken
  | refreshToken
  /-- When the access token expires, in milliseconds, as decimal text. -/
  | expiresAt
  | codeVerifier
  | state
deriving Repr, DecidableEq

namespace Slot

/-- Every slot, in the order in which a session is cleared. -/
def all : List Slot :=
  [accessToken, refreshToken, expiresAt, codeVerifier, state]

theorem mem_all (slot : Slot) : slot ∈ all := by
  cases slot <;> decide

def name : Slot → String
  | accessToken => "access_token"
  | refreshToken => "refresh_token"
  | expiresAt => "expires_at"
  | codeVerifier => "code_verifier"
  | state => "state"

/-- The name under which a slot is kept in files and keyrings. -/
def key : Slot → String
  | accessToken => "hanzo_commerce_access_token"
  | refreshToken => "hanzo_commerce_refresh_token"
  | expiresAt => "hanzo_commerce_expires_at"
  | codeVerifier => "hanzo_commerce_code_verifier"
  | state => "hanzo_commerce_state"

theorem key_injective {a b : Slot} (h : a.key = b.key) : a = b := by
  cases a <;> cases b <;> first | rfl | exact absurd h (by decide)

end Slot

end BillingAccess
