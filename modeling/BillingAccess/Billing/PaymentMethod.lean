/-
How a user pays.  What a payment method does not have is left out when it is
written.
-/
import BillingAccess.Json.Record

namespace BillingAccess.Billing

open BillingAccess.Json

/-- A payment card. -/
structure CardDetails where
  brand : Option String := none
  last4 : Option String := none
  expMonth : Option UInt32 := none
  expYear : Option UInt32 := none
  funding : Option String := none
deriving Repr

def CardDetails.record : Record CardDetails where
  empty := {}
  fields := [
    .omitted "brand" .text (·.brand) fun x r => { r with brand := x },
    .omitted "last4" .text (·.last4) fun x r => { r with last4 := x },
    .omitted "expMonth" .count (·.expMonth) fun x r => { r with expMonth := x },
    .omitted "expYear" .count (·.expYear) fun x r => { r with expYear := x },
    .omitted "funding" .text (·.funding) fun x r => { r with funding := x }]
  required := []

/-- A wallet for a crypto currency. -/
structure CryptoWallet where
  network : Option String := none
  walletAddress : Option String := none
  label : Option String := none
deriving Repr

def CryptoWallet.record : Record CryptoWallet where
  empty := {}
  fields := [
    .omitted "network" .text (·.network) fun x r => { r with network := x },
    .omitted "walletAddress" .text (·.walletAddress) fun x r => { r with walletAddress := x },
    .omitted "label" .text (·.label) fun x r => { r with label := x }]
  required := []

/-- An account for wire transfers. -/
structure WireDetails where
  bankName : Option String := none
  accountHolder : Option String := none
  routingNumber : Option String := none
  accountLast4 : Option String := none
  swift : Option String := none
  iban : Option String := none
  country : Option String := none
deriving Repr

def WireDetails.record : Record WireDetails where
  empty := {}
  fields := [
    .omitted "bankName" .text (·.bankName) fun x r => { r with bankName := x },
    .omitted "accountHolder" .text (·.accountHolder) fun x r => { r with accountHolder := x },
    .omitted "routingNumber" .text (·.routingNumber) fun x r => { r with routingNumber := x },
    .omitted "accountLast4" .text (·.accountLast4) fun x r => { r with accountLast4 := x },
    .omitted "swift" .text (·.swift) fun x r => { r with swift := x },
    .omitted "iban" .text (·.iban) fun x r => { r with iban := x },
    .omitted "country" .text (·.country) fun x r => { r with country := x }]
  required := []

/-- An account named by its address. -/
structure PaypalAccount where
  email : Option String := none
deriving Repr

def PaypalAccount.record : Record PaypalAccount where
  empty := {}
  fields := [
    .omitted "email" .text (·.email) fun x r => { r with email := x }]
  required := []

/-- A bank account. -/
structure BankAccount where
  bankName : Option String := none
  last4 : Option String := none
  country : Option String := none
  currency : Option String := none
deriving Repr

def BankAccount.record : Record BankAccount where
  empty := {}
  fields := [
    .omitted "bankName" .text (·.bankName) fun x r => { r with bankName := x },
    .omitted "last4" .text (·.last4) fun x r => { r with last4 := x },
    .omitted "country" .text (·.country) fun x r => { r with country := x },
    .omitted "currency" .text (·.currency) fun x r => { r with currency := x }]
  required := []

/-- Whom to bill. -/
structure BillingDetails where
  name : Option String := none
  email : Option String := none
deriving Repr

def BillingDetails.record : Record BillingDetails where
  empty := {}
  fields := [
    .omitted "name" .text (·.name) fun x r => { r with name := x },
    .omitted "email" .text (·.email) fun x r => { r with email := x }]
  required := []

/-- A stored payment method, or one to be stored. -/
structure PaymentMethod where
  id : Option String := none
  userId : Option String := none
  kind : Option String := none
  isDefault : Option Bool := none
  card : Option CardDetails := none
  crypto : Option CryptoWallet := none
  wire : Option WireDetails := none
  paypal : Option PaypalAccount := none
  bankAccount : Option BankAccount := none
  billingDetails : Option BillingDetails := none
  createdAt : Option String := none
deriving Repr

def PaymentMethod.record : Record PaymentMethod where
  empty := {}
  fields := [
    .omitted "id" .text (·.id) fun x r => { r with id := x },
    .omitted "userId" .text (·.userId) fun x r => { r with userId := x },
    .omitted "type" .text (·.kind) fun x r => { r with kind := x },
    .omitted "isDefault" .bool (·.isDefault) fun x r => { r with isDefault := x },
    .omitted "card" CardDetails.record.codec (·.card) fun x r => { r with card := x },
    .omitted "crypto" CryptoWallet.record.codec (·.crypto) fun x r => { r with crypto := x },
    .omitted "wire" WireDetails.record.codec (·.wire) fun x r => { r with wire := x },
    .omitted "paypal" PaypalAccount.record.codec (·.paypal) fun x r => { r with paypal := x },
    .omitted "bankAccount" BankAccount.record.codec (·.bankAccount)
      fun x r => { r with bankAccount := x },
    .omitted "billingDetails" BillingDetails.record.codec (·.billingDetails)
      fun x r => { r with billingDetails := x },
    .omitted "createdAt" .text (·.createdAt) fun x r => { r with createdAt := x }]
  required := []

end BillingAccess.Billing
