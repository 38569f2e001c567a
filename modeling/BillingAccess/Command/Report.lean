/-
How billing data is shown: amounts, states, and tables.
-/
import BillingAccess.Billing.Invoice
import BillingAccess.Billing.Subscription
import BillingAccess.Billing.Usage
import BillingAccess.Command.Basic
import BillingAccess.Table
import BillingAccess.Text.Case

namespace BillingAccess.Command

open BillingAccess.Billing

/-- What is not there is shown as a hyphen. -/
def orAbsent (text : Option String) : String :=
  text.getD "-"

/-- An amount and its currency. -/
def priceText (amount : Option Float) (currency : Option String) : String :=
  match amount, currency with
  | some amount, some currency => Decimal.amount amount ++ " " ++ Text.upper currency
  | some amount, none => Decimal.amount amount
  | none, _ => "-"

/-- The states that are as they should be. -/
def goodStates : List String := ["active", "paid", "trialing"]

/-- The states that call for attention. -/
def badStates : List String := ["canceled", "cancelled", "void", "uncollectible", "past_due"]

def stateText (colors : Bool) (state : Option String) : String :=
  match state with
  | none => "-"
  | some state =>
      if goodStates.contains state then Text.styled colors .green state
      else if badStates.contains state then Text.styled colors .red state
      else state

/-- How often a plan is paid. -/
def intervalText (plan : Plan) : String :=
  match plan.interval, plan.intervalCount with
  | some interval, some count =>
      if 1 < count then Decimal.ofNat count.toNat ++ " " ++ interval ++ "s" else interval
  | some interval, none => interval
  | none, _ => "-"

def trialText (plan : Plan) : String :=
  orAbsent ((plan.trialPeriodDays.filter (0 < ·)).map fun days =>
    Decimal.ofNat days.toNat ++ " days")

def showTable (title : String) (table : Table) : List String :=
  ["\n" ++ title ++ ":\n"] ++ table.lines ++ [""]

def showBalance (setting : Setting) (user currency : String) (balance : Balance) : List String := [
  "\nBalance for " ++ user ++ " (" ++ Text.upper currency ++ ")\n",
  "Balance:    " ++ Decimal.amount balance.balance,
  "Holds:      " ++ Decimal.amount balance.holds,
  "Available:  " ++ Text.styled setting.colors .bold (Decimal.amount balance.available),
  ""]

def showPlans (plans : List Plan) : List String :=
  showTable "Available plans" ⟨["Plan", "Name", "Price", "Interval", "Trial"] ::
    plans.map fun plan => [
      orAbsent plan.slug,
      orAbsent plan.name,
      priceText plan.price plan.currency,
      intervalText plan,
      trialText plan]⟩

def showSubscriptions (setting : Setting) (subscriptions : List Subscription) : List String :=
  showTable "Subscriptions" ⟨["Subscription", "Plan", "Status", "Period Ends", "Discount"] ::
    subscriptions.map fun s => [
      orAbsent s.id,
      orAbsent s.planId,
      stateText setting.colors s.status,
      orAbsent s.periodEnd,
      orAbsent (s.discount.bind fun discount => discount.code.or discount.name)]⟩

def showTransactions (transactions : List Transaction) : List String :=
  showTable "Transactions" ⟨["Transaction", "Type", "Amount", "Currency", "Created"] ::
    transactions.map fun t => [
      orAbsent t.id,
      orAbsent t.kind,
      orAbsent (t.amount.map Decimal.amount),
      orAbsent t.currency,
      orAbsent t.createdAt]⟩

def useTable (records : List MeteredUse) : Table :=
  ⟨["Meter", "Current", "Limit", "Unit", "Cost"] ::
    records.map fun use => [
      orAbsent (use.label.or use.meterId),
      orAbsent (use.current.map Decimal.ofFloat),
      orAbsent (use.limit.map Decimal.ofFloat),
      orAbsent use.unit,
      orAbsent (use.cost.map Decimal.amount)]⟩

def showPeriod (period : Period) : List String :=
  match period.start, period.stop with
  | some start, some stop => ["Period:      " ++ start ++ " .. " ++ stop]
  | _, _ => []

def showUsage (setting : Setting) (usage : UsageSummary) : List String :=
  ["\nUsage\n",
    "Total cost:  " ++ Text.styled setting.colors .bold (Decimal.amount usage.totalCost) ++ " "
      ++ Text.upper usage.currency]
  ++ showPeriod usage.period
  ++ if usage.records.isEmpty then ["\nNo metered usage recorded\n"]
    else [""] ++ (useTable usage.records).lines ++ [""]

def showInvoices (setting : Setting) (invoices : List Invoice) : List String :=
  showTable "Invoices" ⟨["Invoice", "Status", "Total", "Created", "Due"] ::
    invoices.map fun invoice => [
      orAbsent (invoice.number.or invoice.id),
      stateText setting.colors invoice.status,
      priceText (invoice.total.or invoice.amount) invoice.currency,
      orAbsent invoice.createdAt,
      orAbsent invoice.dueAt]⟩

end BillingAccess.Command
