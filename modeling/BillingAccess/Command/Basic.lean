/-
The commands of the program, and what they have in common.
-/
import BillingAccess.Billing.Balance
import BillingAccess.Settings.Locations
import BillingAccess.Text.Styled

namespace BillingAccess

/-- What the program can be told to do. -/
inductive Command
  /-- Begins a sign-in; with `listen` it waits for the browser, for so many
  seconds. -/
  | login (noBrowser listen : Bool) (patience : UInt64)
  /-- Completes a sign-in with the address that the browser came back with. -/
  | callback (url : String)
  | whoami
  | status
  | logout
  | refresh
  | balance (user : Option String) (currency : String) (json : Bool)
  | plans (json : Bool)
  | subscriptions (user : Option String) (json : Bool)
  | transactions (user : Option String) (query : Billing.TransactionQuery) (json : Bool)
  | usage (user : Option String) (json : Bool)
  | invoices (user : Option String) (page : Billing.Page) (json : Bool)
deriving Repr, DecidableEq

/-- What a command is run with. -/
structure Setting where
  settings : Settings
  environment : Environment := {}
  /-- Whether texts are shown in colours. -/
  colors : Bool := false

namespace Command

/-- The way in which every command sees the world. -/
abbrev Step := Action (World Vault)

/-- Opens the place where the session is kept. -/
def openSession (setting : Setting) : Step Unit := do
  let w ← get
  let vault ← Action.ofExcept (setting.settings.storage.openIn setting.environment w.store)
  set { w with store := vault }

def printLine (text : String) : Step Unit :=
  Action.always (World.printLine text)

def printLines (lines : List String) : Step Unit :=
  lines.forM printLine

/-- The mark of success. -/
def done (setting : Setting) : String :=
  Text.styled setting.colors .green "✓"

end Command

end BillingAccess
