/-
All records of the billing interface, by name.
-/
import BillingAccess.Billing.Balance
import BillingAccess.Billing.Credit
import BillingAccess.Billing.Invoice
import BillingAccess.Billing.Meter
import BillingAccess.Billing.PaymentMethod
import BillingAccess.Billing.Portal
import BillingAccess.Json.Reader

namespace BillingAccess.Billing

/-- A kind of record. -/
structure Kind where
  name : String
  Carrier : Type
  record : Json.Record Carrier

/-- What the interface answers with, and the parts of it. -/
def kinds : List Kind := [
  ⟨"Balance", _, Balance.record⟩,
  ⟨"Transaction", _, Transaction.record⟩,
  ⟨"SubscriptionDiscount", _, SubscriptionDiscount.record⟩,
  ⟨"Subscription", _, Subscription.record⟩,
  ⟨"Plan", _, Plan.record⟩,
  ⟨"DiscountCode", _, DiscountCode.record⟩,
  ⟨"InvoiceItem", _, InvoiceItem.record⟩,
  ⟨"Invoice", _, Invoice.record⟩,
  ⟨"CardDetails", _, CardDetails.record⟩,
  ⟨"CryptoWallet", _, CryptoWallet.record⟩,
  ⟨"WireDetails", _, WireDetails.record⟩,
  ⟨"PaypalAccount", _, PaypalAccount.record⟩,
  ⟨"BankAccount", _, BankAccount.record⟩,
  ⟨"BillingDetails", _, BillingDetails.record⟩,
  ⟨"PaymentMethod", _, PaymentMethod.record⟩,
  ⟨"Period", _, Period.record⟩,
  ⟨"MeteredUse", _, MeteredUse.record⟩,
  ⟨"UsageSummary", _, UsageSummary.record⟩,
  ⟨"SpendAlert", _, SpendAlert.record⟩,
  ⟨"CreditGrant", _, CreditGrant.record⟩,
  ⟨"CurrencyCredit", _, CurrencyCredit.record⟩,
  ⟨"CreditBalance", _, CreditBalance.record⟩,
  ⟨"Meter", _, Meter.record⟩,
  ⟨"MeterTotal", _, MeterTotal.record⟩,
  ⟨"MeterSummary", _, MeterSummary.record⟩,
  ⟨"PortalOverview", _, PortalOverview.record⟩]

def kind? (name : String) : Option Kind :=
  kinds.find? (·.name == name)

/-- A text read as a value of some form, and written again. -/
def normalized {α : Type} (codec : Json.Codec α) (text : String) : Except Json.Cause Json.Value :=
  (Json.decodeText codec.read text.toList).map codec.write

/-- A text as the record that it holds. -/
def Kind.normalize (kind : Kind) (text : String) : Except Json.Cause Json.Value :=
  normalized kind.record.codec text

/-- A text as the list of records that it holds. -/
def Kind.normalizeList (kind : Kind) (text : String) : Except Json.Cause Json.Value :=
  normalized (.list kind.record.codec) text

end BillingAccess.Billing
