/-
Invoices and their lines.
-/
import BillingAccess.Json.Record

namespace BillingAccess.Billing

open BillingAccess.Json

/-- A line of an invoice. -/
structure InvoiceItem where
  id : Option String := none
  description : Option String := none
  quantity : Option Float := none
  unitPrice : Option Float := none
  total : Option Float := none
deriving Repr

def InvoiceItem.record : Record InvoiceItem where
  empty := {}
  fields := [
    .of "id" (.option .text) (·.id) fun x r => { r with id := x },
    .of "description" (.option .text) (·.description) fun x r => { r with description := x },
    .of "quantity" (.option .real) (·.quantity) fun x r => { r with quantity := x },
    .of "unitPrice" (.option .real) (·.unitPrice) fun x r => { r with unitPrice := x },
    .of "total" (.option .real) (·.total) fun x r => { r with total := x }]
  required := []

/-- An invoice. -/
structure Invoice where
  id : Option String := none
  number : Option String := none
  userId : Option String := none
  subscriptionId : Option String := none
  amount : Option Float := none
  tax : Option Float := none
  total : Option Float := none
  currency : Option String := none
  status : Option String := none
  pdfUrl : Option String := none
  createdAt : Option String := none
  dueAt : Option String := none
  items : Option (List InvoiceItem) := none
deriving Repr

def Invoice.record : Record Invoice where
  empty := {}
  fields := [
    .of "id" (.option .text) (·.id) fun x r => { r with id := x },
    .of "number" (.option .text) (·.number) fun x r => { r with number := x },
    .of "userId" (.option .text) (·.userId) fun x r => { r with userId := x },
    .of "subscriptionId" (.option .text) (·.subscriptionId)
      fun x r => { r with subscriptionId := x },
    .of "amount" (.option .real) (·.amount) fun x r => { r with amount := x },
    .of "tax" (.option .real) (·.tax) fun x r => { r with tax := x },
    .of "total" (.option .real) (·.total) fun x r => { r with total := x },
    .of "currency" (.option .text) (·.currency) fun x r => { r with currency := x },
    .of "status" (.option .text) (·.status) fun x r => { r with status := x },
    .of "pdfUrl" (.option .text) (·.pdfUrl) fun x r => { r with pdfUrl := x },
    .of "createdAt" (.option .text) (·.createdAt) fun x r => { r with createdAt := x },
    .of "dueAt" (.option .text) (·.dueAt) fun x r => { r with dueAt := x },
    .of "items" (.option (.list InvoiceItem.record.codec)) (·.items)
      fun x r => { r with items := x }]
  required := []

end BillingAccess.Billing
