/-
The billing interface, one function for each thing that can be asked of it.

Changes and what has to exist fail as the call does.  A single subscription or
plan that cannot be had is none.  What fills a panel is empty if it cannot be
had.
-/
import BillingAccess.Client.Basic
import BillingAccess.Client.Endpoint

namespace BillingAccess.Client

open BillingAccess.Billing BillingAccess.Json

variable {σ : Type}

def balance (client : Client) (user currency : String) : Action (World σ) Balance :=
  client.fetch Balance.record.codec (Endpoint.balance user currency).call

def addDeposit (client : Client) (deposit : Deposit) : Action (World σ) Transaction :=
  client.fetch Transaction.record.codec (Endpoint.deposit deposit).call

def grantStarterCredit (client : Client) (user : String) : Action (World σ) Transaction :=
  client.fetch Transaction.record.codec (Endpoint.starterCredit user).call

def transactions (client : Client) (user : String) (query : TransactionQuery) :
    Action (World σ) (List Transaction) :=
  client.fetch (.list Transaction.record.codec) (Endpoint.transactions user query).call

def subscribe (client : Client) (order : SubscriptionOrder) : Action (World σ) Subscription :=
  client.fetch Subscription.record.codec (Endpoint.subscribe order).call

def changeSubscription (client : Client) (id : String) (change : PlanChange) :
    Action (World σ) Subscription :=
  client.fetch Subscription.record.codec (Endpoint.changeSubscription id change).call

def applyDiscount (client : Client) (id code : String) : Action (World σ) DiscountCode :=
  client.fetch DiscountCode.record.codec (Endpoint.applyDiscount id code).call

def plans (client : Client) : Action (World σ) (List Plan) :=
  client.fetch (.list Plan.record.codec) Endpoint.plans.call

def addPaymentMethod (client : Client) (added : PaymentMethod) :
    Action (World σ) PaymentMethod :=
  client.fetch PaymentMethod.record.codec (Endpoint.addPaymentMethod added).call

def addSpendAlert (client : Client) (order : SpendAlertOrder) : Action (World σ) SpendAlert :=
  client.fetch SpendAlert.record.codec (Endpoint.addSpendAlert order).call

def changeSpendAlert (client : Client) (id : String) (change : SpendAlertChange) :
    Action (World σ) SpendAlert :=
  client.fetch SpendAlert.record.codec (Endpoint.changeSpendAlert id change).call

def discountCode (client : Client) (code : String) : Action (World σ) DiscountCode :=
  client.fetch DiscountCode.record.codec (Endpoint.discountCode code).call

def portal (client : Client) (customer : String) : Action (World σ) PortalOverview :=
  client.fetch PortalOverview.record.codec (Endpoint.portal customer).call

def cancelSubscription (client : Client) (id : String) : Action (World σ) Unit :=
  client.perform (Endpoint.cancelSubscription id).call

def removePaymentMethod (client : Client) (id : String) : Action (World σ) Unit :=
  client.perform (Endpoint.removePaymentMethod id).call

def setDefaultPaymentMethod (client : Client) (id : String) : Action (World σ) Unit :=
  client.perform (Endpoint.defaultPaymentMethod id).call

def removeSpendAlert (client : Client) (id : String) : Action (World σ) Unit :=
  client.perform (Endpoint.removeSpendAlert id).call

def subscription? (client : Client) (id : String) : StateM (World σ) (Option Subscription) :=
  client.lookup? Subscription.record.codec (Endpoint.subscription id).call

def plan? (client : Client) (id : String) : StateM (World σ) (Option Plan) :=
  client.lookup? Plan.record.codec (Endpoint.plan id).call

def userSubscriptions (client : Client) (user : String) :
    StateM (World σ) (List Subscription) :=
  client.fetchOr (.list Subscription.record.codec) [] (Endpoint.userSubscriptions user).call

def invoices (client : Client) (user : String) (page : Page) : StateM (World σ) (List Invoice) :=
  client.fetchOr (.list Invoice.record.codec) [] (Endpoint.invoices user page).call

def paymentMethods (client : Client) (user : String) :
    StateM (World σ) (List PaymentMethod) :=
  client.fetchOr (.list PaymentMethod.record.codec) [] (Endpoint.paymentMethods user).call

def usage (client : Client) (user : String) : StateM (World σ) UsageSummary :=
  client.fetchOr UsageSummary.record.codec {} (Endpoint.usage user).call

def spendAlerts (client : Client) (user : String) : StateM (World σ) (List SpendAlert) :=
  client.fetchOr (.list SpendAlert.record.codec) [] (Endpoint.spendAlerts user).call

def creditGrants (client : Client) (user : String) : StateM (World σ) (List CreditGrant) :=
  client.fetchOr (.list CreditGrant.record.codec) [] (Endpoint.creditGrants user).call

/-- The empty balance still names the user. -/
def creditBalance (client : Client) (user : String) : StateM (World σ) CreditBalance :=
  client.fetchOr CreditBalance.record.codec (.emptyFor user) (Endpoint.creditBalance user).call

def meters (client : Client) : StateM (World σ) (List Meter) :=
  client.fetchOr (.list Meter.record.codec) [] Endpoint.meters.call

/-- The empty summary still names the user. -/
def meterSummary (client : Client) (user : String) : StateM (World σ) MeterSummary :=
  client.fetchOr MeterSummary.record.codec (.emptyFor user) (Endpoint.meterSummary user).call

end BillingAccess.Client
