/-
The front page of the billing portal.
-/
import BillingAccess.Billing.Subscription

namespace BillingAccess.Billing

open BillingAccess.Json

/-- What the portal shows first. -/
structure PortalOverview where
  customerId : Option String := none
  balance : Option Balance := none
  creditBalance : Option Float := none
  activeSubscription : Option Subscription := none
  pendingInvoices : Option UInt32 := none
  totalSpendThisPeriod : Option Float := none
  currency : Option String := none
deriving Repr

def PortalOverview.record : Record PortalOverview where
  empty := {}
  fields := [
    .of "customerId" (.option .text) (·.customerId) fun x r => { r with customerId := x },
    .of "balance" (.option Balance.record.codec) (·.balance) fun x r => { r with balance := x },
    .of "creditBalance" (.option .real) (·.creditBalance) fun x r => { r with creditBalance := x },
    .of "activeSubscription" (.option Subscription.record.codec) (·.activeSubscription)
      fun x r => { r with activeSubscription := x },
    .of "pendingInvoices" (.option .count) (·.pendingInvoices)
      fun x r => { r with pendingInvoices := x },
    .of "totalSpendThisPeriod" (.option .real) (·.totalSpendThisPeriod)
      fun x r => { r with totalSpendThisPeriod := x },
    .of "currency" (.option .text) (·.currency) fun x r => { r with currency := x }]
  required := []

end BillingAccess.Billing
