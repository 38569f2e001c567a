/-
Meters and what they have counted.
-/
import BillingAccess.Billing.Usage

namespace BillingAccess.Billing

open BillingAccess.Json

/-- What is metered. -/
structure Meter where
  id : Option String := none
  name : Option String := none
  description : Option String := none
  unit : Option String := none
  aggregation : Option String := none
  createdAt : Option String := none
deriving Repr

def Meter.record : Record Meter where
  empty := {}
  fields := [
    .of "id" (.option .text) (·.id) fun x r => { r with id := x },
    .of "name" (.option .text) (·.name) fun x r => { r with name := x },
    .of "description" (.option .text) (·.description) fun x r => { r with description := x },
    .of "unit" (.option .text) (·.unit) fun x r => { r with unit := x },
    .of "aggregation" (.option .text) (·.aggregation) fun x r => { r with aggregation := x },
    .of "createdAt" (.option .text) (·.createdAt) fun x r => { r with createdAt := x }]
  required := []

/-- What one meter has counted. -/
structure MeterTotal where
  meterId : Option String := none
  name : Option String := none
  total : Option Float := none
  unit : Option String := none
  dimensions : Option (List (String × Float)) := none
deriving Repr

def MeterTotal.record : Record MeterTotal where
  empty := {}
  fields := [
    .of "meterId" (.option .text) (·.meterId) fun x r => { r with meterId := x },
    .of "name" (.option .text) (·.name) fun x r => { r with name := x },
    .of "total" (.option .real) (·.total) fun x r => { r with total := x },
    .of "unit" (.option .text) (·.unit) fun x r => { r with unit := x },
    .of "dimensions" (.option (.dictionary .real)) (·.dimensions)
      fun x r => { r with dimensions := x }]
  required := []

/-- What the meters have counted for a user in a period. -/
structure MeterSummary where
  userId : Option String := none
  meters : List MeterTotal := []
  period : Period := {}
deriving Repr

def MeterSummary.record : Record MeterSummary where
  empty := {}
  fields := [
    .of "userId" (.option .text) (·.userId) fun x r => { r with userId := x },
    .of "meters" (.list MeterTotal.record.codec) (·.meters) fun x r => { r with meters := x },
    .of "period" Period.record.codec (·.period) fun x r => { r with period := x }]
  required := []

/-- Nothing counted for that user. -/
def MeterSummary.emptyFor (userId : String) : MeterSummary :=
  { userId := some userId }

end BillingAccess.Billing
