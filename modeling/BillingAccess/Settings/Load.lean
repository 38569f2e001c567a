/-
Loading settings: the usual values, then the file, then the environment, then
the command line, each over those before it.
-/
import BillingAccess.Settings.Document
import BillingAccess.Settings.Locations
import BillingAccess.Text.Case

namespace BillingAccess

/-- What the command line sets. -/
structure Overrides where
  storage : Option String := none
  storagePath : Option String := none
  apiUrl : Option String := none
deriving Repr, DecidableEq

namespace Settings

/-- The settings in a file; a file that is not there says nothing. -/
def ofFile (path : Path) (disk : Disk) : Except SettingsFault Settings :=
  if disk.holds path then
    match disk.readText path with
    | .error _ => .error .fileUnreadable
    | .ok text =>
        match ofText? text with
        | some settings => .ok settings
        | none => .error .fileMalformed
  else .ok {}

/-- Replaces a value if there is another one. -/
def override {α : Type} (value : α) (other : Option α) : α :=
  other.getD value

/-- A timeout in a variable; any other text does not count. -/
def timeout? (text : String) : Option UInt64 :=
  (Decimal.readUnsigned? Decimal.greatest64 (Text.trim text).toList).map UInt64.ofNat

/-- The settings with what the environment says. -/
def withEnvironment (settings : Settings) (env : Environment) : Settings :=
  { identity := { settings.identity with
      serverUrl := override settings.identity.serverUrl (env.get? "HANZO_COMMERCE_IAM_URL")
      clientId := override settings.identity.clientId (env.get? "HANZO_COMMERCE_CLIENT_ID")
      redirectUri :=
        override settings.identity.redirectUri (env.get? "HANZO_COMMERCE_REDIRECT_URI") }
    commerce := {
      baseUrl := override settings.commerce.baseUrl (env.get? "HANZO_COMMERCE_API_URL")
      timeoutSeconds := override settings.commerce.timeoutSeconds
        ((env.get? "HANZO_COMMERCE_TIMEOUT_SECS").bind timeout?)
      token := ((env.get? "HANZO_COMMERCE_TOKEN").filter (· ≠ "")).or settings.commerce.token }
    storage := { settings.storage with
      backend := override settings.storage.backend
        ((env.get? "HANZO_COMMERCE_STORAGE").map Text.lower)
      path := (env.get? "HANZO_COMMERCE_STORAGE_PATH").or settings.storage.path } }

/-- The settings with what the command line says. -/
def withOverrides (settings : Settings) (overrides : Overrides) : Settings :=
  { settings with
    commerce := { settings.commerce with
      baseUrl := override settings.commerce.baseUrl overrides.apiUrl }
    storage := { settings.storage with
      backend := override settings.storage.backend (overrides.storage.map Text.lower)
      path := overrides.storagePath.or settings.storage.path } }

/-- Loads the settings. -/
def load (path : Path) (disk : Disk) (env : Environment) (overrides : Overrides) :
    Except Fault Settings :=
  match ofFile path disk with
  | .error fault => .error (.settings fault)
  | .ok settings => .ok ((settings.withEnvironment env).withOverrides overrides)

end Settings

end BillingAccess
