/-
Plans, subscriptions to them, and discounts.
-/
import BillingAccess.Billing.Balance

namespace BillingAccess.Billing

open BillingAccess.Json

/-- A discount on a subscription: a percentage or an amount, for ever, once or for
some months. -/
structure SubscriptionDiscount where
  id : Option String := none
  code : Option String := none
  name : Option String := none
  kind : Option String := none
  value : Option Float := none
  currency : Option String := none
  duration : Option String := none
  durationInMonths : Option UInt32 := none
deriving Repr

def SubscriptionDiscount.record : Record SubscriptionDiscount where
  empty := {}
  fields := [
    .of "id" (.option .text) (·.id) fun x r => { r with id := x },
    .of "code" (.option .text) (·.code) fun x r => { r with code := x },
    .of "name" (.option .text) (·.name) fun x r => { r with name := x },
    .of "kind" (.option .text) (·.kind) fun x r => { r with kind := x },
    .of "value" (.option .real) (·.value) fun x r => { r with value := x },
    .of "currency" (.option .text) (·.currency) fun x r => { r with currency := x },
    .of "duration" (.option .text) (·.duration) fun x r => { r with duration := x },
    .of "durationInMonths" (.option .count) (·.durationInMonths)
      fun x r => { r with durationInMonths := x }]
  required := []

/-- A subscription of a user to a plan. -/
structure Subscription where
  id : Option String := none
  planId : Option String := none
  userId : Option String := none
  status : Option String := none
  billingType : Option String := none
  periodStart : Option String := none
  periodEnd : Option String := none
  trialStart : Option String := none
  trialEnd : Option String := none
  quantity : Option Float := none
  createdAt : Option String := none
  discount : Option SubscriptionDiscount := none
deriving Repr

def Subscription.record : Record Subscription where
  empty := {}
  fields := [
    .of "id" (.option .text) (·.id) fun x r => { r with id := x },
    .of "planId" (.option .text) (·.planId) fun x r => { r with planId := x },
    .of "userId" (.option .text) (·.userId) fun x r => { r with userId := x },
    .of "status" (.option .text) (·.status) fun x r => { r with status := x },
    .of "billingType" (.option .text) (·.billingType) fun x r => { r with billingType := x },
    .of "periodStart" (.option .text) (·.periodStart) fun x r => { r with periodStart := x },
    .of "periodEnd" (.option .text) (·.periodEnd) fun x r => { r with periodEnd := x },
    .of "trialStart" (.option .text) (·.trialStart) fun x r => { r with trialStart := x },
    .of "trialEnd" (.option .text) (·.trialEnd) fun x r => { r with trialEnd := x },
    .of "quantity" (.option .real) (·.quantity) fun x r => { r with quantity := x },
    .of "createdAt" (.option .text) (·.createdAt) fun x r => { r with createdAt := x },
    .of "discount" (.option SubscriptionDiscount.record.codec) (·.discount)
      fun x r => { r with discount := x }]
  required := []

/-- A subscription to be made. -/
structure SubscriptionOrder where
  planId : String
  userId : String
  paymentToken : Option String := none
deriving Repr

def SubscriptionOrder.record : Record SubscriptionOrder where
  empty := { planId := "", userId := "" }
  fields := [
    .of "planId" .text (·.planId) fun x r => { r with planId := x },
    .of "userId" .text (·.userId) fun x r => { r with userId := x },
    .omitted "paymentToken" .text (·.paymentToken) fun x r => { r with paymentToken := x }]
  required := []

/-- The plan that a subscription is moved to. -/
structure PlanChange where
  planId : String
deriving Repr

def PlanChange.record : Record PlanChange where
  empty := { planId := "" }
  fields := [
    .of "planId" .text (·.planId) fun x r => { r with planId := x }]
  required := []

/-- A plan that can be bought. -/
structure Plan where
  slug : Option String := none
  name : Option String := none
  description : Option String := none
  price : Option Float := none
  currency : Option String := none
  interval : Option String := none
  intervalCount : Option UInt32 := none
  trialPeriodDays : Option UInt32 := none
  metadata : Option Metadata := none
deriving Repr

def Plan.record : Record Plan where
  empty := {}
  fields := [
    .of "slug" (.option .text) (·.slug) fun x r => { r with slug := x },
    .of "name" (.option .text) (·.name) fun x r => { r with name := x },
    .of "description" (.option .text) (·.description) fun x r => { r with description := x },
    .of "price" (.option .real) (·.price) fun x r => { r with price := x },
    .of "currency" (.option .text) (·.currency) fun x r => { r with currency := x },
    .of "interval" (.option .text) (·.interval) fun x r => { r with interval := x },
    .of "intervalCount" (.option .count) (·.intervalCount) fun x r => { r with intervalCount := x },
    .of "trialPeriodDays" (.option .count) (·.trialPeriodDays)
      fun x r => { r with trialPeriodDays := x },
    .of "metadata" (.option (.dictionary .value)) (·.metadata) fun x r => { r with metadata := x }]
  required := []

/-- A promotion code. -/
structure DiscountCode where
  id : Option String := none
  code : Option String := none
  name : Option String := none
  kind : Option String := none
  value : Option Float := none
  currency : Option String := none
  duration : Option String := none
  durationInMonths : Option UInt32 := none
  valid : Option Bool := none
deriving Repr

def DiscountCode.record : Record DiscountCode where
  empty := {}
  fields := [
    .of "id" (.option .text) (·.id) fun x r => { r with id := x },
    .of "code" (.option .text) (·.code) fun x r => { r with code := x },
    .of "name" (.option .text) (·.name) fun x r => { r with name := x },
    .of "kind" (.option .text) (·.kind) fun x r => { r with kind := x },
    .of "value" (.option .real) (·.value) fun x r => { r with value := x },
    .of "currency" (.option .text) (·.currency) fun x r => { r with currency := x },
    .of "duration" (.option .text) (·.duration) fun x r => { r with duration := x },
    .of "durationInMonths" (.option .count) (·.durationInMonths)
      fun x r => { r with durationInMonths := x },
    .of "valid" (.option .bool) (·.valid) fun x r => { r with valid := x }]
  required := []

end BillingAccess.Billing
