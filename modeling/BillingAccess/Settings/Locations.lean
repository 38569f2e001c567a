/-
Where settings and sessions are looked for.

The user may name folders for settings and for data; a relative name does not
count.  Otherwise they lie in the home folder.
-/
import BillingAccess.Settings.Basic

namespace BillingAccess

/-- The values of the variables that the program was started with, and the home
folder of the account if no variable names one. -/
structure Environment where
  values : List (String × String) := []
  accountHome : Option String := none
deriving Repr, DecidableEq

namespace Environment

def get? (env : Environment) (name : String) : Option String :=
  env.values.lookup name

/-- A path inside a folder. -/
def inFolder (folder name : String) : String :=
  if folder.toList.getLast? = some '/' then folder ++ name else folder ++ "/" ++ name

def home? (env : Environment) : Option String :=
  ((env.get? "HOME").filter (· ≠ "")).or env.accountHome

/-- The folder that a variable names, or one in the home folder. -/
def folder? (env : Environment) (variable_ usual : String) : Option String :=
  ((env.get? variable_).filter fun path => path.toList.head? == some '/').or
    (env.home?.map fun home => inFolder home usual)

/-- The usual place of a file of the program. -/
def place? (env : Environment) (variable_ usual file : String) : Option String :=
  (env.folder? variable_ usual).map fun folder =>
    inFolder (inFolder folder "hanzo-commerce") file

def settingsPath? (env : Environment) : Option String :=
  env.place? "XDG_CONFIG_HOME" ".config" "config.yaml"

def sessionPath? (env : Environment) : Option String :=
  env.place? "XDG_DATA_HOME" ".local/share" "session.json"

end Environment

namespace StorageSettings

/-- The session file: the one that is set, or the usual one. -/
def filePath? (storage : StorageSettings) (env : Environment) : Option String :=
  storage.path.or env.sessionPath?

/-- Opens the place where sessions are kept. -/
def openIn (storage : StorageSettings) (env : Environment) (vault : Vault) : Except Fault Vault :=
  match storage.backend with
  | "memory" => .ok { vault with backend := .memory Slots.empty }
  | "file" =>
      match storage.filePath? env with
      | none => .error (.settings .noSessionFile)
      | some path => do
          let (file, disk) ← SessionFile.openAt ⟨path⟩ vault.disk
          return { vault with backend := .file file, disk := disk }
  | "keyring" => .ok { vault with backend := .keyring storage.keyringService }
  | other => .error (.settings (.unknownBackend other))

end StorageSettings

end BillingAccess
