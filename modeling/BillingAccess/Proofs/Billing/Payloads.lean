/-
Partial and newer payloads are still read.

Each record is made of the parts that its fields set.  So an answer may give
its members in any order and have members that are not known yet, and what it
leaves out is as in the default record.
-/
import BillingAccess.Billing.Catalogue
import BillingAccess.Proofs.Json.Parts
import Mathlib.Data.List.Permutation

namespace BillingAccess.Billing

open BillingAccess.Json

def Balance.parts : List (Record.Part Balance) := [
  ⟨"balance", fun d r => { r with balance := d.balance }⟩,
  ⟨"holds", fun d r => { r with holds := d.holds }⟩,
  ⟨"available", fun d r => { r with available := d.available }⟩]

theorem Balance.consists : record.Consists parts where
  sets := by simp [record, parts]
  apart := by simp [parts, Record.Part.Apart]
  settled := by simp [parts, Record.Part.settled_iff]
  thorough := by simp [record]

instance Balance.thorough : record.codec.Thorough :=
  Record.thorough Balance.consists.thorough

def Transaction.parts : List (Record.Part Transaction) := [
  ⟨"id", fun d r => { r with id := d.id }⟩,
  ⟨"owner", fun d r => { r with owner := d.owner }⟩,
  ⟨"type", fun d r => { r with kind := d.kind }⟩,
  ⟨"destinationId", fun d r => { r with destinationId := d.destinationId }⟩,
  ⟨"destinationKind", fun d r => { r with destinationKind := d.destinationKind }⟩,
  ⟨"sourceId", fun d r => { r with sourceId := d.sourceId }⟩,
  ⟨"sourceKind", fun d r => { r with sourceKind := d.sourceKind }⟩,
  ⟨"currency", fun d r => { r with currency := d.currency }⟩,
  ⟨"amount", fun d r => { r with amount := d.amount }⟩,
  ⟨"tags", fun d r => { r with tags := d.tags }⟩,
  ⟨"expiresAt", fun d r => { r with expiresAt := d.expiresAt }⟩,
  ⟨"metadata", fun d r => { r with metadata := d.metadata }⟩,
  ⟨"createdAt", fun d r => { r with createdAt := d.createdAt }⟩]

theorem Transaction.consists : record.Consists parts where
  sets := by simp [record, parts]
  apart := by simp [parts, Record.Part.Apart]
  settled := by simp [parts, Record.Part.settled_iff]
  thorough := by simp [record]

def SubscriptionDiscount.parts : List (Record.Part SubscriptionDiscount) := [
  ⟨"id", fun d r => { r with id := d.id }⟩,
  ⟨"code", fun d r => { r with code := d.code }⟩,
  ⟨"name", fun d r => { r with name := d.name }⟩,
  ⟨"kind", fun d r => { r with kind := d.kind }⟩,
  ⟨"value", fun d r => { r with value := d.value }⟩,
  ⟨"currency", fun d r => { r with currency := d.currency }⟩,
  ⟨"duration", fun d r => { r with duration := d.duration }⟩,
  ⟨"durationInMonths", fun d r => { r with durationInMonths := d.durationInMonths }⟩]

theorem SubscriptionDiscount.consists : record.Consists parts where
  sets := by simp [record, parts]
  apart := by simp [parts, Record.Part.Apart]
  settled := by simp [parts, Record.Part.settled_iff]
  thorough := by simp [record]

instance SubscriptionDiscount.thorough : record.codec.Thorough :=
  Record.thorough SubscriptionDiscount.consists.thorough

def Subscription.parts : List (Record.Part Subscription) := [
  ⟨"id", fun d r => { r with id := d.id }⟩,
  ⟨"planId", fun d r => { r with planId := d.planId }⟩,
  ⟨"userId", fun d r => { r with userId := d.userId }⟩,
  ⟨"status", fun d r => { r with status := d.status }⟩,
  ⟨"billingType", fun d r => { r with billingType := d.billingType }⟩,
  ⟨"periodStart", fun d r => { r with periodStart := d.periodStart }⟩,
  ⟨"periodEnd", fun d r => { r with periodEnd := d.periodEnd }⟩,
  ⟨"trialStart", fun d r => { r with trialStart := d.trialStart }⟩,
  ⟨"trialEnd", fun d r => { r with trialEnd := d.trialEnd }⟩,
  ⟨"quantity", fun d r => { r with quantity := d.quantity }⟩,
  ⟨"createdAt", fun d r => { r with createdAt := d.createdAt }⟩,
  ⟨"discount", fun d r => { r with discount := d.discount }⟩]

theorem Subscription.consists : record.Consists parts where
  sets := by simp [record, parts]
  apart := by simp [parts, Record.Part.Apart]
  settled := by simp [parts, Record.Part.settled_iff]
  thorough := by simp [record]

instance Subscription.thorough : record.codec.Thorough :=
  Record.thorough Subscription.consists.thorough

def Plan.parts : List (Record.Part Plan) := [
  ⟨"slug", fun d r => { r with slug := d.slug }⟩,
  ⟨"name", fun d r => { r with name := d.name }⟩,
  ⟨"description", fun d r => { r with description := d.description }⟩,
  ⟨"price", fun d r => { r with price := d.price }⟩,
  ⟨"currency", fun d r => { r with currency := d.currency }⟩,
  ⟨"interval", fun d r => { r with interval := d.interval }⟩,
  ⟨"intervalCount", fun d r => { r with intervalCount := d.intervalCount }⟩,
  ⟨"trialPeriodDays", fun d r => { r with trialPeriodDays := d.trialPeriodDays }⟩,
  ⟨"metadata", fun d r => { r with metadata := d.metadata }⟩]

theorem Plan.consists : record.Consists parts where
  sets := by simp [record, parts]
  apart := by simp [parts, Record.Part.Apart]
  settled := by simp [parts, Record.Part.settled_iff]
  thorough := by simp [record]

def DiscountCode.parts : List (Record.Part DiscountCode) := [
  ⟨"id", fun d r => { r with id := d.id }⟩,
  ⟨"code", fun d r => { r with code := d.code }⟩,
  ⟨"name", fun d r => { r with name := d.name }⟩,
  ⟨"kind", fun d r => { r with kind := d.kind }⟩,
  ⟨"value", fun d r => { r with value := d.value }⟩,
  ⟨"currency", fun d r => { r with currency := d.currency }⟩,
  ⟨"duration", fun d r => { r with duration := d.duration }⟩,
  ⟨"durationInMonths", fun d r => { r with durationInMonths := d.durationInMonths }⟩,
  ⟨"valid", fun d r => { r with valid := d.valid }⟩]

theorem DiscountCode.consists : record.Consists parts where
  sets := by simp [record, parts]
  apart := by simp [parts, Record.Part.Apart]
  settled := by simp [parts, Record.Part.settled_iff]
  thorough := by simp [record]

def InvoiceItem.parts : List (Record.Part InvoiceItem) := [
  ⟨"id", fun d r => { r with id := d.id }⟩,
  ⟨"description", fun d r => { r with description := d.description }⟩,
  ⟨"quantity", fun d r => { r with quantity := d.quantity }⟩,
  ⟨"unitPrice", fun d r => { r with unitPrice := d.unitPrice }⟩,
  ⟨"total", fun d r => { r with total := d.total }⟩]

theorem InvoiceItem.consists : record.Consists parts where
  sets := by simp [record, parts]
  apart := by simp [parts, Record.Part.Apart]
  settled := by simp [parts, Record.Part.settled_iff]
  thorough := by simp [record]

instance InvoiceItem.thorough : record.codec.Thorough :=
  Record.thorough InvoiceItem.consists.thorough

def Invoice.parts : List (Record.Part Invoice) := [
  ⟨"id", fun d r => { r with id := d.id }⟩,
  ⟨"number", fun d r => { r with number := d.number }⟩,
  ⟨"userId", fun d r => { r with userId := d.userId }⟩,
  ⟨"subscriptionId", fun d r => { r with subscriptionId := d.subscriptionId }⟩,
  ⟨"amount", fun d r => { r with amount := d.amount }⟩,
  ⟨"tax", fun d r => { r with tax := d.tax }⟩,
  ⟨"total", fun d r => { r with total := d.total }⟩,
  ⟨"currency", fun d r => { r with currency := d.currency }⟩,
  ⟨"status", fun d r => { r with status := d.status }⟩,
  ⟨"pdfUrl", fun d r => { r with pdfUrl := d.pdfUrl }⟩,
  ⟨"createdAt", fun d r => { r with createdAt := d.createdAt }⟩,
  ⟨"dueAt", fun d r => { r with dueAt := d.dueAt }⟩,
  ⟨"items", fun d r => { r with items := d.items }⟩]

theorem Invoice.consists : record.Consists parts where
  sets := by simp [record, parts]
  apart := by simp [parts, Record.Part.Apart]
  settled := by simp [parts, Record.Part.settled_iff]
  thorough := by simp [record]

def CardDetails.parts : List (Record.Part CardDetails) := [
  ⟨"brand", fun d r => { r with brand := d.brand }⟩,
  ⟨"last4", fun d r => { r with last4 := d.last4 }⟩,
  ⟨"expMonth", fun d r => { r with expMonth := d.expMonth }⟩,
  ⟨"expYear", fun d r => { r with expYear := d.expYear }⟩,
  ⟨"funding", fun d r => { r with funding := d.funding }⟩]

theorem CardDetails.consists : record.Consists parts where
  sets := by simp [record, parts]
  apart := by simp [parts, Record.Part.Apart]
  settled := by simp [parts, Record.Part.settled_iff]
  thorough := by simp [record]

instance CardDetails.thorough : record.codec.Thorough :=
  Record.thorough CardDetails.consists.thorough

def CryptoWallet.parts : List (Record.Part CryptoWallet) := [
  ⟨"network", fun d r => { r with network := d.network }⟩,
  ⟨"walletAddress", fun d r => { r with walletAddress := d.walletAddress }⟩,
  ⟨"label", fun d r => { r with label := d.label }⟩]

theorem CryptoWallet.consists : record.Consists parts where
  sets := by simp [record, parts]
  apart := by simp [parts, Record.Part.Apart]
  settled := by simp [parts, Record.Part.settled_iff]
  thorough := by simp [record]

instance CryptoWallet.thorough : record.codec.Thorough :=
  Record.thorough CryptoWallet.consists.thorough

def WireDetails.parts : List (Record.Part WireDetails) := [
  ⟨"bankName", fun d r => { r with bankName := d.bankName }⟩,
  ⟨"accountHolder", fun d r => { r with accountHolder := d.accountHolder }⟩,
  ⟨"routingNumber", fun d r => { r with routingNumber := d.routingNumber }⟩,
  ⟨"accountLast4", fun d r => { r with accountLast4 := d.accountLast4 }⟩,
  ⟨"swift", fun d r => { r with swift := d.swift }⟩,
  ⟨"iban", fun d r => { r with iban := d.iban }⟩,
  ⟨"country", fun d r => { r with country := d.country }⟩]

theorem WireDetails.consists : record.Consists parts where
  sets := by simp [record, parts]
  apart := by simp [parts, Record.Part.Apart]
  settled := by simp [parts, Record.Part.settled_iff]
  thorough := by simp [record]

instance WireDetails.thorough : record.codec.Thorough :=
  Record.thorough WireDetails.consists.thorough

def PaypalAccount.parts : List (Record.Part PaypalAccount) := [
  ⟨"email", fun d r => { r with email := d.email }⟩]

theorem PaypalAccount.consists : record.Consists parts where
  sets := by simp [record, parts]
  apart := by simp [parts, Record.Part.Apart]
  settled := by simp [parts, Record.Part.settled_iff]
  thorough := by simp [record]

instance PaypalAccount.thorough : record.codec.Thorough :=
  Record.thorough PaypalAccount.consists.thorough

def BankAccount.parts : List (Record.Part BankAccount) := [
  ⟨"bankName", fun d r => { r with bankName := d.bankName }⟩,
  ⟨"last4", fun d r => { r with last4 := d.last4 }⟩,
  ⟨"country", fun d r => { r with country := d.country }⟩,
  ⟨"currency", fun d r => { r with currency := d.currency }⟩]

theorem BankAccount.consists : record.Consists parts where
  sets := by simp [record, parts]
  apart := by simp [parts, Record.Part.Apart]
  settled := by simp [parts, Record.Part.settled_iff]
  thorough := by simp [record]

instance BankAccount.thorough : record.codec.Thorough :=
  Record.thorough BankAccount.consists.thorough

def BillingDetails.parts : List (Record.Part BillingDetails) := [
  ⟨"name", fun d r => { r with name := d.name }⟩,
  ⟨"email", fun d r => { r with email := d.email }⟩]

theorem BillingDetails.consists : record.Consists parts where
  sets := by simp [record, parts]
  apart := by simp [parts, Record.Part.Apart]
  settled := by simp [parts, Record.Part.settled_iff]
  thorough := by simp [record]

instance BillingDetails.thorough : record.codec.Thorough :=
  Record.thorough BillingDetails.consists.thorough

def PaymentMethod.parts : List (Record.Part PaymentMethod) := [
  ⟨"id", fun d r => { r with id := d.id }⟩,
  ⟨"userId", fun d r => { r with userId := d.userId }⟩,
  ⟨"type", fun d r => { r with kind := d.kind }⟩,
  ⟨"isDefault", fun d r => { r with isDefault := d.isDefault }⟩,
  ⟨"card", fun d r => { r with card := d.card }⟩,
  ⟨"crypto", fun d r => { r with crypto := d.crypto }⟩,
  ⟨"wire", fun d r => { r with wire := d.wire }⟩,
  ⟨"paypal", fun d r => { r with paypal := d.paypal }⟩,
  ⟨"bankAccount", fun d r => { r with bankAccount := d.bankAccount }⟩,
  ⟨"billingDetails", fun d r => { r with billingDetails := d.billingDetails }⟩,
  ⟨"createdAt", fun d r => { r with createdAt := d.createdAt }⟩]

theorem PaymentMethod.consists : record.Consists parts where
  sets := by simp [record, parts]
  apart := by simp [parts, Record.Part.Apart]
  settled := by simp [parts, Record.Part.settled_iff]
  thorough := by simp [record]

def Period.parts : List (Record.Part Period) := [
  ⟨"start", fun d r => { r with start := d.start }⟩,
  ⟨"end", fun d r => { r with stop := d.stop }⟩]

theorem Period.consists : record.Consists parts where
  sets := by simp [record, parts]
  apart := by simp [parts, Record.Part.Apart]
  settled := by simp [parts, Record.Part.settled_iff]
  thorough := by simp [record]

instance Period.thorough : record.codec.Thorough :=
  Record.thorough Period.consists.thorough

def MeteredUse.parts : List (Record.Part MeteredUse) := [
  ⟨"meterId", fun d r => { r with meterId := d.meterId }⟩,
  ⟨"label", fun d r => { r with label := d.label }⟩,
  ⟨"current", fun d r => { r with current := d.current }⟩,
  ⟨"limit", fun d r => { r with limit := d.limit }⟩,
  ⟨"unit", fun d r => { r with unit := d.unit }⟩,
  ⟨"cost", fun d r => { r with cost := d.cost }⟩,
  ⟨"periodStart", fun d r => { r with periodStart := d.periodStart }⟩,
  ⟨"periodEnd", fun d r => { r with periodEnd := d.periodEnd }⟩]

theorem MeteredUse.consists : record.Consists parts where
  sets := by simp [record, parts]
  apart := by simp [parts, Record.Part.Apart]
  settled := by simp [parts, Record.Part.settled_iff]
  thorough := by simp [record]

instance MeteredUse.thorough : record.codec.Thorough :=
  Record.thorough MeteredUse.consists.thorough

def UsageSummary.parts : List (Record.Part UsageSummary) := [
  ⟨"totalCost", fun d r => { r with totalCost := d.totalCost }⟩,
  ⟨"currency", fun d r => { r with currency := d.currency }⟩,
  ⟨"period", fun d r => { r with period := d.period }⟩,
  ⟨"records", fun d r => { r with records := d.records }⟩]

theorem UsageSummary.consists : record.Consists parts where
  sets := by simp [record, parts]
  apart := by simp [parts, Record.Part.Apart]
  settled := by simp [parts, Record.Part.settled_iff]
  thorough := by simp [record]

def SpendAlert.parts : List (Record.Part SpendAlert) := [
  ⟨"id", fun d r => { r with id := d.id }⟩,
  ⟨"userId", fun d r => { r with userId := d.userId }⟩,
  ⟨"title", fun d r => { r with title := d.title }⟩,
  ⟨"threshold", fun d r => { r with threshold := d.threshold }⟩,
  ⟨"currency", fun d r => { r with currency := d.currency }⟩,
  ⟨"triggeredAt", fun d r => { r with triggeredAt := d.triggeredAt }⟩,
  ⟨"createdAt", fun d r => { r with createdAt := d.createdAt }⟩,
  ⟨"updatedAt", fun d r => { r with updatedAt := d.updatedAt }⟩]

theorem SpendAlert.consists : record.Consists parts where
  sets := by simp [record, parts]
  apart := by simp [parts, Record.Part.Apart]
  settled := by simp [parts, Record.Part.settled_iff]
  thorough := by simp [record]

def CreditGrant.parts : List (Record.Part CreditGrant) := [
  ⟨"id", fun d r => { r with id := d.id }⟩,
  ⟨"userId", fun d r => { r with userId := d.userId }⟩,
  ⟨"name", fun d r => { r with name := d.name }⟩,
  ⟨"amountCents", fun d r => { r with amountCents := d.amountCents }⟩,
  ⟨"remainingCents", fun d r => { r with remainingCents := d.remainingCents }⟩,
  ⟨"currency", fun d r => { r with currency := d.currency }⟩,
  ⟨"expiresAt", fun d r => { r with expiresAt := d.expiresAt }⟩,
  ⟨"priority", fun d r => { r with priority := d.priority }⟩,
  ⟨"eligibility", fun d r => { r with eligibility := d.eligibility }⟩,
  ⟨"tags", fun d r => { r with tags := d.tags }⟩,
  ⟨"voided", fun d r => { r with voided := d.voided }⟩,
  ⟨"active", fun d r => { r with active := d.active }⟩,
  ⟨"createdAt", fun d r => { r with createdAt := d.createdAt }⟩]

theorem CreditGrant.consists : record.Consists parts where
  sets := by simp [record, parts]
  apart := by simp [parts, Record.Part.Apart]
  settled := by simp [parts, Record.Part.settled_iff]
  thorough := by simp [record]

def CurrencyCredit.parts : List (Record.Part CurrencyCredit) := [
  ⟨"currency", fun d r => { r with currency := d.currency }⟩,
  ⟨"available", fun d r => { r with available := d.available }⟩]

theorem CurrencyCredit.consists : record.Consists parts where
  sets := by simp [record, parts]
  apart := by simp [parts, Record.Part.Apart]
  settled := by simp [parts, Record.Part.settled_iff]
  thorough := by simp [record]

instance CurrencyCredit.thorough : record.codec.Thorough :=
  Record.thorough CurrencyCredit.consists.thorough

def CreditBalance.parts : List (Record.Part CreditBalance) := [
  ⟨"userId", fun d r => { r with userId := d.userId }⟩,
  ⟨"balances", fun d r => { r with balances := d.balances }⟩]

theorem CreditBalance.consists : record.Consists parts where
  sets := by simp [record, parts]
  apart := by simp [parts, Record.Part.Apart]
  settled := by simp [parts, Record.Part.settled_iff]
  thorough := by simp [record]

def Meter.parts : List (Record.Part Meter) := [
  ⟨"id", fun d r => { r with id := d.id }⟩,
  ⟨"name", fun d r => { r with name := d.name }⟩,
  ⟨"description", fun d r => { r with description := d.description }⟩,
  ⟨"unit", fun d r => { r with unit := d.unit }⟩,
  ⟨"aggregation", fun d r => { r with aggregation := d.aggregation }⟩,
  ⟨"createdAt", fun d r => { r with createdAt := d.createdAt }⟩]

theorem Meter.consists : record.Consists parts where
  sets := by simp [record, parts]
  apart := by simp [parts, Record.Part.Apart]
  settled := by simp [parts, Record.Part.settled_iff]
  thorough := by simp [record]

def MeterTotal.parts : List (Record.Part MeterTotal) := [
  ⟨"meterId", fun d r => { r with meterId := d.meterId }⟩,
  ⟨"name", fun d r => { r with name := d.name }⟩,
  ⟨"total", fun d r => { r with total := d.total }⟩,
  ⟨"unit", fun d r => { r with unit := d.unit }⟩,
  ⟨"dimensions", fun d r => { r with dimensions := d.dimensions }⟩]

theorem MeterTotal.consists : record.Consists parts where
  sets := by simp [record, parts]
  apart := by simp [parts, Record.Part.Apart]
  settled := by simp [parts, Record.Part.settled_iff]
  thorough := by simp [record]

instance MeterTotal.thorough : record.codec.Thorough :=
  Record.thorough MeterTotal.consists.thorough

def MeterSummary.parts : List (Record.Part MeterSummary) := [
  ⟨"userId", fun d r => { r with userId := d.userId }⟩,
  ⟨"meters", fun d r => { r with meters := d.meters }⟩,
  ⟨"period", fun d r => { r with period := d.period }⟩]

theorem MeterSummary.consists : record.Consists parts where
  sets := by simp [record, parts]
  apart := by simp [parts, Record.Part.Apart]
  settled := by simp [parts, Record.Part.settled_iff]
  thorough := by simp [record]

def PortalOverview.parts : List (Record.Part PortalOverview) := [
  ⟨"customerId", fun d r => { r with customerId := d.customerId }⟩,
  ⟨"balance", fun d r => { r with balance := d.balance }⟩,
  ⟨"creditBalance", fun d r => { r with creditBalance := d.creditBalance }⟩,
  ⟨"activeSubscription", fun d r => { r with activeSubscription := d.activeSubscription }⟩,
  ⟨"pendingInvoices", fun d r => { r with pendingInvoices := d.pendingInvoices }⟩,
  ⟨"totalSpendThisPeriod", fun d r => { r with totalSpendThisPeriod := d.totalSpendThisPeriod }⟩,
  ⟨"currency", fun d r => { r with currency := d.currency }⟩]

theorem PortalOverview.consists : record.Consists parts where
  sets := by simp [record, parts]
  apart := by simp [parts, Record.Part.Apart]
  settled := by simp [parts, Record.Part.settled_iff]
  thorough := by simp [record]

/-! ### All records -/

/-- A kind of record with the parts that it is made of. -/
structure Shape where
  kind : Kind
  parts : List (Record.Part kind.Carrier)

/-- All kinds. -/
def shapes : List Shape := [
  ⟨⟨"Balance", _, Balance.record⟩, Balance.parts⟩,
  ⟨⟨"Transaction", _, Transaction.record⟩, Transaction.parts⟩,
  ⟨⟨"SubscriptionDiscount", _, SubscriptionDiscount.record⟩, SubscriptionDiscount.parts⟩,
  ⟨⟨"Subscription", _, Subscription.record⟩, Subscription.parts⟩,
  ⟨⟨"Plan", _, Plan.record⟩, Plan.parts⟩,
  ⟨⟨"DiscountCode", _, DiscountCode.record⟩, DiscountCode.parts⟩,
  ⟨⟨"InvoiceItem", _, InvoiceItem.record⟩, InvoiceItem.parts⟩,
  ⟨⟨"Invoice", _, Invoice.record⟩, Invoice.parts⟩,
  ⟨⟨"CardDetails", _, CardDetails.record⟩, CardDetails.parts⟩,
  ⟨⟨"CryptoWallet", _, CryptoWallet.record⟩, CryptoWallet.parts⟩,
  ⟨⟨"WireDetails", _, WireDetails.record⟩, WireDetails.parts⟩,
  ⟨⟨"PaypalAccount", _, PaypalAccount.record⟩, PaypalAccount.parts⟩,
  ⟨⟨"BankAccount", _, BankAccount.record⟩, BankAccount.parts⟩,
  ⟨⟨"BillingDetails", _, BillingDetails.record⟩, BillingDetails.parts⟩,
  ⟨⟨"PaymentMethod", _, PaymentMethod.record⟩, PaymentMethod.parts⟩,
  ⟨⟨"Period", _, Period.record⟩, Period.parts⟩,
  ⟨⟨"MeteredUse", _, MeteredUse.record⟩, MeteredUse.parts⟩,
  ⟨⟨"UsageSummary", _, UsageSummary.record⟩, UsageSummary.parts⟩,
  ⟨⟨"SpendAlert", _, SpendAlert.record⟩, SpendAlert.parts⟩,
  ⟨⟨"CreditGrant", _, CreditGrant.record⟩, CreditGrant.parts⟩,
  ⟨⟨"CurrencyCredit", _, CurrencyCredit.record⟩, CurrencyCredit.parts⟩,
  ⟨⟨"CreditBalance", _, CreditBalance.record⟩, CreditBalance.parts⟩,
  ⟨⟨"Meter", _, Meter.record⟩, Meter.parts⟩,
  ⟨⟨"MeterTotal", _, MeterTotal.record⟩, MeterTotal.parts⟩,
  ⟨⟨"MeterSummary", _, MeterSummary.record⟩, MeterSummary.parts⟩,
  ⟨⟨"PortalOverview", _, PortalOverview.record⟩, PortalOverview.parts⟩]

theorem shapes_consist : ∀ shape ∈ shapes, shape.kind.record.Consists shape.parts := by
  simp only [shapes, List.forall_mem_cons]
  exact ⟨Balance.consists, Transaction.consists, SubscriptionDiscount.consists,
    Subscription.consists, Plan.consists, DiscountCode.consists, InvoiceItem.consists,
    Invoice.consists, CardDetails.consists, CryptoWallet.consists, WireDetails.consists,
    PaypalAccount.consists, BankAccount.consists, BillingDetails.consists, PaymentMethod.consists,
    Period.consists, MeteredUse.consists, UsageSummary.consists, SpendAlert.consists,
    CreditGrant.consists, CurrencyCredit.consists, CreditBalance.consists, Meter.consists,
    MeterTotal.consists, MeterSummary.consists, PortalOverview.consists, nofun⟩

/-- Every kind of record is read from its members in any order, with unknown
members among them; a missing member leaves the default of its field. -/
theorem payloads_tolerant :
    shapes.map Shape.kind = kinds ∧
      (∀ shape ∈ shapes, shape.kind.record.Tolerant shape.parts) ∧
      UsageSummary.record.empty.currency = "usd" :=
  ⟨rfl, fun shape hshape => (shapes_consist shape hshape).tolerant, rfl⟩

/-! ### One answer -/

/-- No blanks but those of the members. -/
def dense : Layout :=
  ⟨[], [], [], nofun⟩

def currencyEntry : Entry :=
  ⟨"currency", "\"currency\"".toList, " \"eur\"".toList⟩

def recordsEntry : Entry :=
  ⟨"records", " \"records\"".toList, "[]".toList⟩

/-- A member of no field. -/
def planEntry : Entry :=
  ⟨"plan", " \"plan\" ".toList, "[\x7b\"tier\": 1\x7d, null]".toList⟩

theorem currencyEntry_accepted : currencyEntry.Accepted :=
  ⟨by cbv, .text "eur", by cbv⟩

theorem recordsEntry_accepted : recordsEntry.Accepted :=
  ⟨by cbv, .list [], by cbv⟩

theorem planEntry_accepted : planEntry.Accepted :=
  ⟨by cbv, .list [.object [("tier", .number (.whole 1))], .null], by cbv⟩

theorem euroSummary_spelled : ∀ m ∈ [currencyEntry, recordsEntry], m.Spelled := by
  simp only [List.forall_mem_cons]
  exact ⟨currencyEntry_accepted.spelled, recordsEntry_accepted.spelled, nofun⟩

theorem decodeText_euroSummary :
    decodeText UsageSummary.record.read (objectText dense [currencyEntry, recordsEntry]) =
      .ok { currency := "eur" } := by
  have hcurrency : currencyEntry.member = (.ok "currency", .text "eur") := by cbv
  have hrecords : recordsEntry.member = (.ok "records", .list [] none) := by cbv
  rw [decodeText_objectText dense euroSummary_spelled, List.map_cons, List.map_cons, hcurrency,
    hrecords]
  rfl

/-- The currency is read behind the records and an unknown plan too, and is the
default one without its member. -/
theorem euroSummary_tolerant :
    decodeText UsageSummary.record.read
        (objectText dense [recordsEntry, planEntry, currencyEntry]) = .ok { currency := "eur" } ∧
      decodeText UsageSummary.record.read (objectText dense [recordsEntry]) =
        .ok { currency := "usd" } := by
  have hshape : ⟨⟨"UsageSummary", _, UsageSummary.record⟩, UsageSummary.parts⟩ ∈ shapes :=
    List.getElem_mem (show 17 < shapes.length by decide)
  have htolerant := payloads_tolerant.2.1 _ hshape
  have hunknown : ∀ m ∈ [planEntry], m.Accepted ∧
      m.name ∉ UsageSummary.record.fields.map Field.name := by
    simp only [List.forall_mem_singleton]
    exact ⟨planEntry_accepted, by decide⟩
  have hperm : ([currencyEntry, recordsEntry] ++ [planEntry]).Perm
      ([recordsEntry, planEntry] ++ [currencyEntry]) :=
    @List.perm_append_comm _ [currencyEntry] [recordsEntry, planEntry]
  have hpart : ⟨"currency", fun d r => { r with currency := d.currency }⟩ ∈ UsageSummary.parts :=
    List.getElem_mem (show 1 < UsageSummary.parts.length by decide)
  have hspelled : ∀ m ∈ [] ++ currencyEntry :: [recordsEntry], m.Spelled := euroSummary_spelled
  exact ⟨htolerant.extended dense dense euroSummary_spelled decodeText_euroSummary hunknown hperm,
    htolerant.missing dense dense hspelled decodeText_euroSummary hpart rfl⟩

end BillingAccess.Billing
