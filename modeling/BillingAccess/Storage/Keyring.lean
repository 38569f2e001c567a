/-
The keyring of the system: passwords by service and user.

A session keeps each slot as the password of one user.  The keyring may refuse
any call.
-/
import BillingAccess.Storage.TokenStore

namespace BillingAccess

/-- The calls that a keyring may refuse: naming an entry, and using it. -/
inductive KeyringCall
  | entry
  | get
  | set
  | remove
deriving Repr, DecidableEq

/-- One password of a keyring. -/
structure Secret where
  service : String
  user : String
  password : String
deriving Repr, DecidableEq

structure Keyring where
  secrets : List Secret := []
  refusal : KeyringCall → Option KeyringFault := fun _ => none

namespace Keyring

def defaultService : String := "hanzo-commerce"

/-- Whether a secret belongs to a user of a service. -/
def isFor (service user : String) (secret : Secret) : Bool :=
  secret.service == service && secret.user == user

def find? (keyring : Keyring) (service user : String) : Option String :=
  (keyring.secrets.find? (isFor service user)).map Secret.password

def put (keyring : Keyring) (service user password : String) : Keyring :=
  { keyring with
    secrets := ⟨service, user, password⟩ :: keyring.secrets.filter (!isFor service user ·) }

def erase (keyring : Keyring) (service user : String) : Keyring :=
  { keyring with secrets := keyring.secrets.filter (!isFor service user ·) }

/-- The refusal of a call on an entry, if there is one. -/
def refuses (keyring : Keyring) (call : KeyringCall) : Option KeyringFault :=
  (keyring.refusal .entry).or (keyring.refusal call)

/-- An entry that is missing is empty, and nothing else is forgiven. -/
def get (keyring : Keyring) (service : String) (slot : Slot) : Except Fault (Option String) :=
  match keyring.refusal .entry with
  | some fault => .error (.keyring fault)
  | none =>
      match keyring.refusal .get with
      | some .noEntry => .ok none
      | some fault => .error (.keyring fault)
      | none => .ok (keyring.find? service slot.key)

def set (keyring : Keyring) (service : String) (slot : Slot) (value : String) :
    Except Fault Keyring :=
  match keyring.refuses .set with
  | some fault => .error (.keyring fault)
  | none => .ok (keyring.put service slot.key value)

def remove (keyring : Keyring) (service : String) (slot : Slot) : Except Fault Keyring :=
  match keyring.refusal .entry with
  | some fault => .error (.keyring fault)
  | none =>
      match keyring.refusal .remove with
      | some .noEntry => .ok keyring
      | some fault => .error (.keyring fault)
      | none => .ok (keyring.erase service slot.key)

end Keyring

/-- A keyring and the service under which a session is kept in it. -/
structure KeyringSession where
  keyring : Keyring
  service : String := Keyring.defaultService

namespace KeyringSession

def step (change : Keyring → Except Fault Keyring) : Action KeyringSession Unit := do
  match change (← get).keyring with
  | .ok keyring => modify fun s => { s with keyring := keyring }
  | .error fault => throw fault

end KeyringSession

instance : TokenStore KeyringSession where
  get slot := do
    let s ← get
    Action.ofExcept (s.keyring.get s.service slot)
  set slot value := do
    let s ← get
    KeyringSession.step fun keyring => keyring.set s.service slot value
  remove slot := do
    let s ← get
    KeyringSession.step fun keyring => keyring.remove s.service slot

end BillingAccess
