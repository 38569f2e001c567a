/-
The calls that the billing interface answers.
-/
import BillingAccess.Billing.Credit
import BillingAccess.Billing.Invoice
import BillingAccess.Billing.Meter
import BillingAccess.Billing.PaymentMethod
import BillingAccess.Billing.Portal
import BillingAccess.Client.Call

namespace BillingAccess

open BillingAccess.Billing

/-- What can be asked of the interface. -/
inductive Endpoint
  | balance (user currency : String)
  | deposit (deposit : Deposit)
  | starterCredit (user : String)
  | transactions (user : String) (query : TransactionQuery)
  | subscribe (order : SubscriptionOrder)
  | subscription (id : String)
  | userSubscriptions (user : String)
  | cancelSubscription (id : String)
  | changeSubscription (id : String) (change : PlanChange)
  | applyDiscount (id code : String)
  | plans
  | plan (id : String)
  | invoices (user : String) (page : Page)
  | paymentMethods (user : String)
  | addPaymentMethod (added : PaymentMethod)
  | removePaymentMethod (id : String)
  | defaultPaymentMethod (id : String)
  | usage (user : String)
  | spendAlerts (user : String)
  | addSpendAlert (order : SpendAlertOrder)
  | changeSpendAlert (id : String) (change : SpendAlertChange)
  | removeSpendAlert (id : String)
  | discountCode (code : String)
  | creditGrants (user : String)
  | creditBalance (user : String)
  | portal (customer : String)
  | meters
  | meterSummary (user : String)
deriving Repr

namespace Endpoint

def balancePath : String := "/api/v1/billing/balance"
def depositPath : String := "/api/v1/billing/deposit"
def creditPath : String := "/api/v1/billing/credit"
def transactionsPath : String := "/api/v1/billing/transactions"
def subscribePath : String := "/api/v1/subscribe"
def planPath : String := "/api/v1/plan"
def invoicesPath : String := "/api/v1/billing/invoices"
def paymentMethodsPath : String := "/api/v1/billing/payment-methods"
def usagePath : String := "/api/v1/billing/usage"
def spendAlertsPath : String := "/api/v1/billing/spend-alerts"
def discountPath : String := "/api/v1/billing/discount/validate"
def creditGrantsPath : String := "/api/v1/billing/credit-grants"
def creditBalancePath : String := "/api/v1/billing/credit-balance"
def portalPath : String := "/api/v1/billing/portal/overview"
def metersPath : String := "/api/v1/billing/meters"
def meterSummaryPath : String := "/api/v1/billing/meter-events/summary"

/-- The paths of the interface. -/
def paths : List String := [
  balancePath, depositPath, creditPath, transactionsPath, subscribePath, planPath, invoicesPath,
  paymentMethodsPath, usagePath, spendAlertsPath, discountPath, creditGrantsPath,
  creditBalancePath, portalPath, metersPath, meterSummaryPath]

/-- A limit or an offset of zero is not sent. -/
def countText? (count : Option UInt32) : Option String :=
  (count.filter (· ≠ 0)).map fun n => Decimal.ofNat n.toNat

/-- An empty text is not sent. -/
def nonEmpty? (text : Option String) : Option String :=
  text.filter (· ≠ "")

/-- The call of each endpoint. -/
def call : Endpoint → Call
  | balance user currency =>
      (Call.get balancePath).param "user" user |>.param "currency" currency
  | deposit order => (Call.post depositPath).json (Deposit.record.write order)
  | starterCredit user => (Call.post creditPath).json (.object [("user", .text user)])
  | transactions user query =>
      (Call.get transactionsPath).param "user" user
        |>.param? "limit" (countText? query.limit)
        |>.param? "offset" (countText? query.offset)
        |>.param? "currency" (nonEmpty? query.currency)
  | subscribe order => (Call.post subscribePath).json (SubscriptionOrder.record.write order)
  | subscription id => (Call.get subscribePath).segment id
  | userSubscriptions user => (Call.get subscribePath).param "userId" user
  | cancelSubscription id => (Call.delete subscribePath).segment id
  | changeSubscription id change =>
      (Call.patch subscribePath).segment id |>.json (PlanChange.record.write change)
  | applyDiscount id code =>
      (Call.post subscribePath).segment id |>.segment "promotion"
        |>.json (.object [("code", .text code)])
  | plans => Call.get planPath
  | plan id => (Call.get planPath).segment id
  | invoices user page =>
      (Call.get invoicesPath).param "user" user
        |>.param? "limit" (countText? page.limit)
        |>.param? "offset" (countText? page.offset)
  | paymentMethods user => (Call.get paymentMethodsPath).param "user" user
  | addPaymentMethod added =>
      (Call.post paymentMethodsPath).json (PaymentMethod.record.write added)
  | removePaymentMethod id => (Call.delete paymentMethodsPath).segment id
  | defaultPaymentMethod id => (Call.post paymentMethodsPath).segment id |>.segment "default"
  | usage user => (Call.get usagePath).param "user" user
  | spendAlerts user => (Call.get spendAlertsPath).param "user" user
  | addSpendAlert order => (Call.post spendAlertsPath).json (SpendAlertOrder.record.write order)
  | changeSpendAlert id change =>
      (Call.patch spendAlertsPath).segment id |>.json (SpendAlertChange.record.write change)
  | removeSpendAlert id => (Call.delete spendAlertsPath).segment id
  | discountCode code => (Call.get discountPath).param "code" code
  | creditGrants user => (Call.get creditGrantsPath).param "userId" user
  | creditBalance user => (Call.get creditBalancePath).param "userId" user
  | portal customer => (Call.get portalPath).param "customerId" customer
  | meters => Call.get metersPath
  | meterSummary user => (Call.get meterSummaryPath).param "userId" user

end Endpoint

end BillingAccess
