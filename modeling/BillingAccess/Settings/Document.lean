/-
Settings as a YAML document.

A section that is missing or empty has its usual values, and so has a setting
that is missing.  Other sections and settings are passed over; the same one
twice is refused.
-/
import BillingAccess.Settings.Basic
import BillingAccess.Yaml.Printer
import BillingAccess.Yaml.Reader

namespace BillingAccess.Settings

open BillingAccess.Yaml

/-- A named part of a section, and how it is read into it. -/
structure Entry (S : Type) where
  name : String
  read : Node → S → Option S

/-- Reads the members of a section; `seen` are the entries that were read
before. -/
def readMembers {S : Type} (entries : List (Entry S)) :
    List String → S → List (Node × Node) → Option S
  | _, s, [] => some s
  | seen, s, (key, value) :: rest => do
      let name ← key.text?
      match entries.find? (·.name == name) with
      | none => readMembers entries seen s rest
      | some entry =>
          if seen.contains name then none
          else
            let s ← entry.read value s
            readMembers entries (name :: seen) s rest

def readSection {S : Type} (entries : List (Entry S)) (usual : S) : Node → Option S
  | .map members => readMembers entries [] usual members
  | node => if node.isAbsent then some usual else none

def Entry.text {S : Type} (name : String) (set : String → S → S) : Entry S :=
  ⟨name, fun node s => node.text?.map (set · s)⟩

/-- A text that may also be null. -/
def Entry.option {S : Type} (name : String) (set : Option String → S → S) : Entry S :=
  ⟨name, fun node s => node.textOrNull?.map (set · s)⟩

def Entry.section {S T : Type} (name : String) (entries : List (Entry T)) (usual : T)
    (set : T → S → S) : Entry S :=
  ⟨name, fun node s => (readSection entries usual node).map (set · s)⟩

def identityEntries : List (Entry IdentitySettings) := [
  .text "server_url" fun x s => { s with serverUrl := x },
  .text "client_id" fun x s => { s with clientId := x },
  .text "redirect_uri" fun x s => { s with redirectUri := x },
  .text "scopes" fun x s => { s with scopes := x }]

def commerceEntries : List (Entry CommerceSettings) := [
  .text "base_url" fun x s => { s with baseUrl := x },
  ⟨"timeout_seconds", fun node s => node.seconds?.map fun n => { s with timeoutSeconds := n }⟩,
  .option "token" fun x s => { s with token := x }]

def storageEntries : List (Entry StorageSettings) := [
  .text "backend" fun x s => { s with backend := x },
  .option "path" fun x s => { s with path := x },
  .text "keyring_service" fun x s => { s with keyringService := x }]

def entries : List (Entry Settings) := [
  .section "iam" identityEntries {} fun x s => { s with identity := x },
  .section "commerce" commerceEntries {} fun x s => { s with commerce := x },
  .section "storage" storageEntries {} fun x s => { s with storage := x }]

/-- The settings in a document. -/
def ofText? (text : String) : Option Settings :=
  (Yaml.parse text).bind (readSection entries {})

/-- A section: its name, and its settings on lines of their own. -/
def sectionText (name : String) (members : List (String × String)) : String :=
  name ++ ":\n"
    ++ String.join (members.map fun (key, value) => "  " ++ key ++ ": " ++ value ++ "\n")

/-- Settings as a document, without their token. -/
def toText (settings : Settings) : String :=
  let identity := settings.identity
  let commerce := settings.commerce
  let storage := settings.storage
  sectionText "iam" [
      ("server_url", quoted identity.serverUrl),
      ("client_id", quoted identity.clientId),
      ("redirect_uri", quoted identity.redirectUri),
      ("scopes", quoted identity.scopes)]
    ++ sectionText "commerce" [
      ("base_url", quoted commerce.baseUrl),
      ("timeout_seconds", String.ofList (Decimal.writeNat commerce.timeoutSeconds.toNat))]
    ++ sectionText "storage" [
      ("backend", quoted storage.backend),
      ("path", (storage.path.map quoted).getD "null"),
      ("keyring_service", quoted storage.keyringService)]

end BillingAccess.Settings
