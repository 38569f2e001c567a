/-
The commands that show billing data.

Each opens the session, finds out for whom it acts, and makes one call.  The
answer is shown as a table, or as JSON if that is asked for.
-/
import BillingAccess.Client.Billing
import BillingAccess.Command.Report
import BillingAccess.SignIn.User

namespace BillingAccess.Command

open BillingAccess.Billing BillingAccess.Json

/-- Opens the session; gives the user and a client to ask with. -/
def openFor (setting : Setting) (user : Option String) : Step (String × Client) := do
  openSession setting
  let user ← SignIn.resolveUser user
  let client ← setting.settings.client
  return (user, client)

/-- Shows an answer, as JSON or in lines. -/
def present (json : Bool) (value : Value) (lines : List String) : Step Unit :=
  if json then printLine value.pretty else printLines lines

/-- Shows a list; an empty one is only named. -/
def presentList {α : Type} (json : Bool) (codec : Codec α) (items : List α) (none_ : String)
    (lines : List String) : Step Unit :=
  present json ((Codec.list codec).write items) (if items.isEmpty then [none_] else lines)

def runBalance (setting : Setting) (user : Option String) (currency : String) (json : Bool) :
    Step Unit := do
  let (user, client) ← openFor setting user
  let balance ← client.balance user currency
  present json (Balance.record.write balance) (showBalance setting user currency balance)

def runPlans (setting : Setting) (json : Bool) : Step Unit := do
  openSession setting
  let client ← setting.settings.client
  let plans ← client.plans
  presentList json Plan.record.codec plans "No plans available" (showPlans plans)

def runSubscriptions (setting : Setting) (user : Option String) (json : Bool) : Step Unit := do
  let (user, client) ← openFor setting user
  let subscriptions ← Action.always (client.userSubscriptions user)
  presentList json Subscription.record.codec subscriptions ("No subscriptions for " ++ user)
    (showSubscriptions setting subscriptions)

def runTransactions (setting : Setting) (user : Option String) (query : TransactionQuery)
    (json : Bool) : Step Unit := do
  let (user, client) ← openFor setting user
  let transactions ← client.transactions user query
  presentList json Transaction.record.codec transactions ("No transactions for " ++ user)
    (showTransactions transactions)

def runUsage (setting : Setting) (user : Option String) (json : Bool) : Step Unit := do
  let (user, client) ← openFor setting user
  let usage ← Action.always (client.usage user)
  present json (UsageSummary.record.write usage) (showUsage setting usage)

def runInvoices (setting : Setting) (user : Option String) (page : Page) (json : Bool) :
    Step Unit := do
  let (user, client) ← openFor setting user
  let invoices ← Action.always (client.invoices user page)
  presentList json Invoice.record.codec invoices ("No invoices for " ++ user)
    (showInvoices setting invoices)

end BillingAccess.Command
