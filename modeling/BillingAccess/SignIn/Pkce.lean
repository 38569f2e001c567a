/-
The secrets of one sign-in: a state that comes back with the browser, and a
verifier that proves the code was asked for here.

The server is shown only the challenge, the digest of the verifier.
-/
import BillingAccess.Base64
import BillingAccess.Sha256

namespace BillingAccess.SignIn

/-- An endless row of random bytes and how many of them have been drawn. -/
structure RandomSource where
  byte : Nat → UInt8
  drawn : Nat := 0

/-- The next `count` bytes. -/
def RandomSource.draw (source : RandomSource) (count : Nat) : List UInt8 × RandomSource :=
  ((List.range count).map fun i => source.byte (source.drawn + i),
    { source with drawn := source.drawn + count })

/-- The digit of a value below thirty-six. -/
def base36Digit (n : Nat) : Char :=
  if n < 10 then Char.ofNat (48 + n) else Char.ofNat (87 + n)

/-- A byte as two digits. -/
def base36Pair (b : UInt8) : List Char :=
  [base36Digit (b.toNat / 36), base36Digit (b.toNat % 36)]

/-- The first `length` digits of the bytes. -/
def randomText (length : Nat) (bytes : List UInt8) : String :=
  String.ofList ((bytes.flatMap base36Pair).take length)

def stateLength : Nat := 32
def verifierLength : Nat := 64

/-- The method by which the challenge is made. -/
def challengeMethod : String := "S256"

/-- The challenge of a verifier: the digest of its bytes, in base64 for URLs. -/
def challenge (verifier : String) : String :=
  Base64.encode .urlSafe (Sha256.digest (Utf8.ofString verifier))

/-- The secrets of one sign-in with their challenge. -/
structure Pkce where
  state : String
  verifier : String
  challenge : String
deriving Repr, DecidableEq

/-- Draws the bytes of the state and then those of the verifier, one byte for
each character. -/
def Pkce.generate (source : RandomSource) : Pkce × RandomSource :=
  let (stateBytes, source) := source.draw stateLength
  let (verifierBytes, source) := source.draw verifierLength
  let verifier := randomText verifierLength verifierBytes
  ({ state := randomText stateLength stateBytes
     verifier := verifier
     challenge := SignIn.challenge verifier }, source)

end BillingAccess.SignIn
