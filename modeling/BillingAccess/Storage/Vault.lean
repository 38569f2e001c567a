/-
The places where a session can be kept, on one machine.

A vault is the machine's disk and keyring, and the one place where the current
session is kept: in memory, in a file or in the keyring.
-/
import BillingAccess.Storage.Keyring
import BillingAccess.Storage.Memory
import BillingAccess.Storage.SessionFile

namespace BillingAccess

inductive Backend
  | memory (slots : Slots)
  | file (file : SessionFile)
  | keyring (service : String)

structure Vault where
  backend : Backend := .memory Slots.empty
  disk : Disk := {}
  keyring : Keyring := {}

namespace Vault

def get (vault : Vault) (slot : Slot) : Except Fault (Option String) :=
  match vault.backend with
  | .memory slots => .ok (slots slot)
  | .file file => .ok (file.get? slot)
  | .keyring service => vault.keyring.get service slot

/-- Takes over a changed file and a changed disk. -/
def withFile (vault : Vault) : Except Fault (SessionFile × Disk) → Except Fault Vault
  | .ok (file, disk) => .ok { vault with backend := .file file, disk := disk }
  | .error fault => .error fault

def withKeyring (vault : Vault) : Except Fault Keyring → Except Fault Vault
  | .ok keyring => .ok { vault with keyring := keyring }
  | .error fault => .error fault

def set (vault : Vault) (slot : Slot) (value : String) : Except Fault Vault :=
  match vault.backend with
  | .memory slots => .ok { vault with backend := .memory (slots.put slot (some value)) }
  | .file file => vault.withFile (file.set slot value vault.disk)
  | .keyring service => vault.withKeyring (vault.keyring.set service slot value)

def remove (vault : Vault) (slot : Slot) : Except Fault Vault :=
  match vault.backend with
  | .memory slots => .ok { vault with backend := .memory (slots.put slot none) }
  | .file file => vault.withFile (file.remove slot vault.disk)
  | .keyring service => vault.withKeyring (vault.keyring.remove service slot)

/-- A step to another vault; a failing one stays. -/
def step (change : Vault → Except Fault Vault) : Action Vault Unit := do
  match change (← MonadState.get) with
  | .ok vault => MonadState.set vault
  | .error fault => throw fault

end Vault

instance : TokenStore Vault where
  get slot := do Action.ofExcept ((← MonadState.get).get slot)
  set slot value := Vault.step fun vault => vault.set slot value
  remove slot := Vault.step fun vault => vault.remove slot

end BillingAccess
