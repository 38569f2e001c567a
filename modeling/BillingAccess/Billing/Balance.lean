/-
Money held for a user, and the ledger entries that move it.
-/
import BillingAccess.Json.Record

namespace BillingAccess.Billing

open BillingAccess.Json

/-- Values of any kind that the server attached, by name. -/
abbrev Metadata := List (String × Value)

/-- What a user holds in one currency; `available` is what is left of `balance`
after pending operations. -/
structure Balance where
  balance : Float := 0.0
  holds : Float := 0.0
  available : Float := 0.0
deriving Repr

def Balance.record : Record Balance where
  empty := {}
  fields := [
    .of "balance" .real (·.balance) fun x r => { r with balance := x },
    .of "holds" .real (·.holds) fun x r => { r with holds := x },
    .of "available" .real (·.available) fun x r => { r with available := x }]
  required := []

/-- A ledger entry.  `kind` is one of `hold`, `hold-removed`, `transfer`,
`deposit` and `withdraw`. -/
structure Transaction where
  id : Option String := none
  owner : Option String := none
  kind : Option String := none
  destinationId : Option String := none
  destinationKind : Option String := none
  sourceId : Option String := none
  sourceKind : Option String := none
  currency : Option String := none
  amount : Option Float := none
  tags : Option (List String) := none
  expiresAt : Option String := none
  metadata : Option Metadata := none
  createdAt : Option String := none
deriving Repr

def Transaction.record : Record Transaction where
  empty := {}
  fields := [
    .of "id" (.option .text) (·.id) fun x r => { r with id := x },
    .of "owner" (.option .text) (·.owner) fun x r => { r with owner := x },
    .of "type" (.option .text) (·.kind) fun x r => { r with kind := x },
    .of "destinationId" (.option .text) (·.destinationId) fun x r => { r with destinationId := x },
    .of "destinationKind" (.option .text) (·.destinationKind)
      fun x r => { r with destinationKind := x },
    .of "sourceId" (.option .text) (·.sourceId) fun x r => { r with sourceId := x },
    .of "sourceKind" (.option .text) (·.sourceKind) fun x r => { r with sourceKind := x },
    .of "currency" (.option .text) (·.currency) fun x r => { r with currency := x },
    .of "amount" (.option .real) (·.amount) fun x r => { r with amount := x },
    .of "tags" (.option (.list .text)) (·.tags) fun x r => { r with tags := x },
    .of "expiresAt" (.option .text) (·.expiresAt) fun x r => { r with expiresAt := x },
    .of "metadata" (.option (.dictionary .value)) (·.metadata) fun x r => { r with metadata := x },
    .of "createdAt" (.option .text) (·.createdAt) fun x r => { r with createdAt := x }]
  required := []

/-- Money to be credited to a user.  `expiresIn` is the life of the credit, such
as `30d`. -/
structure Deposit where
  user : String
  currency : Option String := none
  amount : Float
  notes : Option String := none
  tags : Option (List String) := none
  expiresIn : Option String := none
deriving Repr

def Deposit.record : Record Deposit where
  empty := { user := "", amount := 0.0 }
  fields := [
    .of "user" .text (·.user) fun x r => { r with user := x },
    .omitted "currency" .text (·.currency) fun x r => { r with currency := x },
    .of "amount" .real (·.amount) fun x r => { r with amount := x },
    .omitted "notes" .text (·.notes) fun x r => { r with notes := x },
    .omitted "tags" (.list .text) (·.tags) fun x r => { r with tags := x },
    .omitted "expiresIn" .text (·.expiresIn) fun x r => { r with expiresIn := x }]
  required := []

/-- Which ledger entries to list.  A zero stands for no bound. -/
structure TransactionQuery where
  limit : Option UInt32 := none
  offset : Option UInt32 := none
  currency : Option String := none
deriving Repr, DecidableEq

/-- Which page of a list to show.  A zero stands for no bound. -/
structure Page where
  limit : Option UInt32 := none
  offset : Option UInt32 := none
deriving Repr, DecidableEq

end BillingAccess.Billing
