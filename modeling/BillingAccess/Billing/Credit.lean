/-
Promotional credit.
-/
import BillingAccess.Json.Record

namespace BillingAccess.Billing

open BillingAccess.Json

/-- Credit granted to a user. -/
structure CreditGrant where
  id : Option String := none
  userId : Option String := none
  name : Option String := none
  amountCents : Option Int64 := none
  remainingCents : Option Int64 := none
  currency : Option String := none
  expiresAt : Option String := none
  priority : Option Int32 := none
  eligibility : Option (List String) := none
  tags : Option String := none
  voided : Option Bool := none
  active : Option Bool := none
  createdAt : Option String := none
deriving Repr

def CreditGrant.record : Record CreditGrant where
  empty := {}
  fields := [
    .of "id" (.option .text) (·.id) fun x r => { r with id := x },
    .of "userId" (.option .text) (·.userId) fun x r => { r with userId := x },
    .of "name" (.option .text) (·.name) fun x r => { r with name := x },
    .of "amountCents" (.option .int64) (·.amountCents) fun x r => { r with amountCents := x },
    .of "remainingCents" (.option .int64) (·.remainingCents)
      fun x r => { r with remainingCents := x },
    .of "currency" (.option .text) (·.currency) fun x r => { r with currency := x },
    .of "expiresAt" (.option .text) (·.expiresAt) fun x r => { r with expiresAt := x },
    .of "priority" (.option .int32) (·.priority) fun x r => { r with priority := x },
    .of "eligibility" (.option (.list .text)) (·.eligibility)
      fun x r => { r with eligibility := x },
    .of "tags" (.option .text) (·.tags) fun x r => { r with tags := x },
    .of "voided" (.option .bool) (·.voided) fun x r => { r with voided := x },
    .of "active" (.option .bool) (·.active) fun x r => { r with active := x },
    .of "createdAt" (.option .text) (·.createdAt) fun x r => { r with createdAt := x }]
  required := []

/-- Credit available in one currency. -/
structure CurrencyCredit where
  currency : Option String := none
  available : Option Float := none
deriving Repr

def CurrencyCredit.record : Record CurrencyCredit where
  empty := {}
  fields := [
    .of "currency" (.option .text) (·.currency) fun x r => { r with currency := x },
    .of "available" (.option .real) (·.available) fun x r => { r with available := x }]
  required := []

/-- Credit available to a user. -/
structure CreditBalance where
  userId : Option String := none
  balances : List CurrencyCredit := []
deriving Repr

def CreditBalance.record : Record CreditBalance where
  empty := {}
  fields := [
    .of "userId" (.option .text) (·.userId) fun x r => { r with userId := x },
    .of "balances" (.list CurrencyCredit.record.codec) (·.balances)
      fun x r => { r with balances := x }]
  required := []

/-- No credit for that user. -/
def CreditBalance.emptyFor (userId : String) : CreditBalance :=
  { userId := some userId }

end BillingAccess.Billing
