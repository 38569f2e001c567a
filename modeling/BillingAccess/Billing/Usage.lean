/-
Metered use in a period, and alerts on spending.
-/
import BillingAccess.Json.Record

namespace BillingAccess.Billing

open BillingAccess.Json

/-- A period from one date to another; an empty one has neither. -/
structure Period where
  start : Option String := none
  stop : Option String := none
deriving Repr

def Period.record : Record Period where
  empty := {}
  fields := [
    .omitted "start" .text (·.start) fun x r => { r with start := x },
    .omitted "end" .text (·.stop) fun x r => { r with stop := x }]
  required := []

/-- The use of one metered resource. -/
structure MeteredUse where
  meterId : Option String := none
  label : Option String := none
  current : Option Float := none
  limit : Option Float := none
  unit : Option String := none
  cost : Option Float := none
  periodStart : Option String := none
  periodEnd : Option String := none
deriving Repr

def MeteredUse.record : Record MeteredUse where
  empty := {}
  fields := [
    .of "meterId" (.option .text) (·.meterId) fun x r => { r with meterId := x },
    .of "label" (.option .text) (·.label) fun x r => { r with label := x },
    .of "current" (.option .real) (·.current) fun x r => { r with current := x },
    .of "limit" (.option .real) (·.limit) fun x r => { r with limit := x },
    .of "unit" (.option .text) (·.unit) fun x r => { r with unit := x },
    .of "cost" (.option .real) (·.cost) fun x r => { r with cost := x },
    .of "periodStart" (.option .text) (·.periodStart) fun x r => { r with periodStart := x },
    .of "periodEnd" (.option .text) (·.periodEnd) fun x r => { r with periodEnd := x }]
  required := []

/-- The use in the current period. -/
structure UsageSummary where
  totalCost : Float := 0.0
  currency : String := "usd"
  period : Period := {}
  records : List MeteredUse := []
deriving Repr

def UsageSummary.record : Record UsageSummary where
  empty := {}
  fields := [
    .of "totalCost" .real (·.totalCost) fun x r => { r with totalCost := x },
    .of "currency" .text (·.currency) fun x r => { r with currency := x },
    .of "period" Period.record.codec (·.period) fun x r => { r with period := x },
    .of "records" (.list MeteredUse.record.codec) (·.records) fun x r => { r with records := x }]
  required := []

/-- A notice when spending passes a threshold. -/
structure SpendAlert where
  id : Option String := none
  userId : Option String := none
  title : Option String := none
  threshold : Option Float := none
  currency : Option String := none
  triggeredAt : Option String := none
  createdAt : Option String := none
  updatedAt : Option String := none
deriving Repr

def SpendAlert.record : Record SpendAlert where
  empty := {}
  fields := [
    .of "id" (.option .text) (·.id) fun x r => { r with id := x },
    .of "userId" (.option .text) (·.userId) fun x r => { r with userId := x },
    .of "title" (.option .text) (·.title) fun x r => { r with title := x },
    .of "threshold" (.option .real) (·.threshold) fun x r => { r with threshold := x },
    .of "currency" (.option .text) (·.currency) fun x r => { r with currency := x },
    .of "triggeredAt" (.option .text) (·.triggeredAt) fun x r => { r with triggeredAt := x },
    .of "createdAt" (.option .text) (·.createdAt) fun x r => { r with createdAt := x },
    .of "updatedAt" (.option .text) (·.updatedAt) fun x r => { r with updatedAt := x }]
  required := []

/-- A spend alert to be made. -/
structure SpendAlertOrder where
  userId : String
  title : String
  threshold : Float
  currency : Option String := none
deriving Repr

def SpendAlertOrder.record : Record SpendAlertOrder where
  empty := { userId := "", title := "", threshold := 0.0 }
  fields := [
    .of "userId" .text (·.userId) fun x r => { r with userId := x },
    .of "title" .text (·.title) fun x r => { r with title := x },
    .of "threshold" .real (·.threshold) fun x r => { r with threshold := x },
    .omitted "currency" .text (·.currency) fun x r => { r with currency := x }]
  required := []

/-- What is changed in a spend alert. -/
structure SpendAlertChange where
  title : Option String := none
  threshold : Option Float := none
deriving Repr

def SpendAlertChange.record : Record SpendAlertChange where
  empty := {}
  fields := [
    .omitted "title" .text (·.title) fun x r => { r with title := x },
    .omitted "threshold" .real (·.threshold) fun x r => { r with threshold := x }]
  required := []

end BillingAccess.Billing
