/-
Billing records are read back as they were written.

A record is read back from its value if its doubles are finite; dictionaries
are kept in the order of their names, and so are the objects in free-form
values.  A record that has neither doubles nor free-form values is read back
from its text on one line too.
-/
import BillingAccess.Billing.Catalogue
import BillingAccess.Proofs.Json.Record

namespace BillingAccess.Billing

open BillingAccess.Json BillingAccess.Json.Codec

structure Balance.WellFormed (b : Balance) : Prop where
  balance : b.balance.isFinite = true
  holds : b.holds.isFinite = true
  available : b.available.isFinite = true

theorem Balance.restores {b : Balance} (h : b.WellFormed) : record.codec.Restores b := by
  have hbalance := (real_restores_iff _).mpr h.balance
  have hholds := (real_restores_iff _).mpr h.holds
  have havailable := (real_restores_iff _).mpr h.available
  refine Record.restores (by decide) rfl ?_
  simp [record, copyFields_of, hbalance, hholds, havailable]

/-- By name, and in order down to the innermost object. -/
structure Metadata.WellFormed (entries : Metadata) : Prop where
  sorted : Sorted entries
  ordered : ∀ entry ∈ entries, entry.2.Ordered

theorem Metadata.keeps {entries : Metadata} (h : entries.WellFormed) :
    (dictionary value).Keeps entries :=
  dictionary_keeps ⟨h.sorted, fun entry hentry => value_restores (h.ordered entry hentry)⟩

theorem Metadata.option_restores {m : Option Metadata}
    (h : ∀ entries ∈ m, Metadata.WellFormed entries) : (dictionary value).option.Restores m :=
  (option_restores_iff m).mpr fun entries hentries => Metadata.keeps (h entries hentries)

structure Transaction.WellFormed (t : Transaction) : Prop where
  amount : ∀ x ∈ t.amount, x.isFinite = true
  metadata : ∀ entries ∈ t.metadata, Metadata.WellFormed entries

theorem Transaction.restores {t : Transaction} (h : t.WellFormed) : record.codec.Restores t := by
  have hamount := option_real_restores h.amount
  have hmetadata := Metadata.option_restores h.metadata
  refine Record.restores (by decide) rfl ?_
  simp [record, copyFields_of, hamount, hmetadata]

structure SubscriptionDiscount.WellFormed (d : SubscriptionDiscount) : Prop where
  value : ∀ x ∈ d.value, x.isFinite = true

theorem SubscriptionDiscount.restores {d : SubscriptionDiscount} (h : d.WellFormed) :
    record.codec.Restores d := by
  have hvalue := option_real_restores h.value
  refine Record.restores (by decide) rfl ?_
  simp [record, copyFields_of, hvalue]

structure Subscription.WellFormed (s : Subscription) : Prop where
  quantity : ∀ x ∈ s.quantity, x.isFinite = true
  discount : ∀ d ∈ s.discount, d.WellFormed

theorem Subscription.restores {s : Subscription} (h : s.WellFormed) :
    record.codec.Restores s := by
  have hquantity := option_real_restores h.quantity
  have hdiscount := Record.option_restores fun d hd =>
    SubscriptionDiscount.restores (h.discount d hd)
  refine Record.restores (by decide) rfl ?_
  simp [record, copyFields_of, hquantity, hdiscount]

structure Plan.WellFormed (p : Plan) : Prop where
  price : ∀ x ∈ p.price, x.isFinite = true
  metadata : ∀ entries ∈ p.metadata, Metadata.WellFormed entries

theorem Plan.restores {p : Plan} (h : p.WellFormed) : record.codec.Restores p := by
  have hprice := option_real_restores h.price
  have hmetadata := Metadata.option_restores h.metadata
  refine Record.restores (by decide) rfl ?_
  simp [record, copyFields_of, hprice, hmetadata]

structure DiscountCode.WellFormed (d : DiscountCode) : Prop where
  value : ∀ x ∈ d.value, x.isFinite = true

theorem DiscountCode.restores {d : DiscountCode} (h : d.WellFormed) :
    record.codec.Restores d := by
  have hvalue := option_real_restores h.value
  refine Record.restores (by decide) rfl ?_
  simp [record, copyFields_of, hvalue]

structure InvoiceItem.WellFormed (i : InvoiceItem) : Prop where
  quantity : ∀ x ∈ i.quantity, x.isFinite = true
  unitPrice : ∀ x ∈ i.unitPrice, x.isFinite = true
  total : ∀ x ∈ i.total, x.isFinite = true

theorem InvoiceItem.restores {i : InvoiceItem} (h : i.WellFormed) : record.codec.Restores i := by
  have hquantity := option_real_restores h.quantity
  have hunitPrice := option_real_restores h.unitPrice
  have htotal := option_real_restores h.total
  refine Record.restores (by decide) rfl ?_
  simp [record, copyFields_of, hquantity, hunitPrice, htotal]

structure Invoice.WellFormed (i : Invoice) : Prop where
  amount : ∀ x ∈ i.amount, x.isFinite = true
  tax : ∀ x ∈ i.tax, x.isFinite = true
  total : ∀ x ∈ i.total, x.isFinite = true
  items : ∀ items ∈ i.items, ∀ item ∈ items, item.WellFormed

theorem Invoice.restores {i : Invoice} (h : i.WellFormed) : record.codec.Restores i := by
  have hamount := option_real_restores h.amount
  have htax := option_real_restores h.tax
  have htotal := option_real_restores h.total
  have hitems : (list InvoiceItem.record.codec).option.Restores i.items :=
    (option_restores_iff _).mpr fun items hitems =>
      (list_keeps_iff items).mpr fun item hitem =>
        InvoiceItem.restores (h.items items hitems item hitem)
  refine Record.restores (by decide) rfl ?_
  simp [record, copyFields_of, hamount, htax, htotal, hitems]

section

variable {depth : Nat}

theorem CardDetails.restores (d : CardDetails) : record.codec.Restores d := by
  refine Record.restores (by decide) rfl ?_
  simp [record, copyFields_omitted]

theorem CardDetails.lossless : record.codec.Lossless (depth + 1) :=
  Record.lossless (by simp [record])

theorem CryptoWallet.restores (w : CryptoWallet) : record.codec.Restores w := by
  refine Record.restores (by decide) rfl ?_
  simp [record, copyFields_omitted]

theorem CryptoWallet.lossless : record.codec.Lossless (depth + 1) :=
  Record.lossless (by simp [record])

theorem WireDetails.restores (d : WireDetails) : record.codec.Restores d := by
  refine Record.restores (by decide) rfl ?_
  simp [record, copyFields_omitted]

theorem WireDetails.lossless : record.codec.Lossless (depth + 1) :=
  Record.lossless (by simp [record])

theorem PaypalAccount.restores (a : PaypalAccount) : record.codec.Restores a := by
  refine Record.restores (by decide) rfl ?_
  simp [record, copyFields_omitted]

theorem PaypalAccount.lossless : record.codec.Lossless (depth + 1) :=
  Record.lossless (by simp [record])

theorem BankAccount.restores (a : BankAccount) : record.codec.Restores a := by
  refine Record.restores (by decide) rfl ?_
  simp [record, copyFields_omitted]

theorem BankAccount.lossless : record.codec.Lossless (depth + 1) :=
  Record.lossless (by simp [record])

theorem BillingDetails.restores (d : BillingDetails) : record.codec.Restores d := by
  refine Record.restores (by decide) rfl ?_
  simp [record, copyFields_omitted]

theorem BillingDetails.lossless : record.codec.Lossless (depth + 1) :=
  Record.lossless (by simp [record])

theorem PaymentMethod.restores (m : PaymentMethod) : record.codec.Restores m := by
  refine Record.restores (by decide) rfl ?_
  simp [record, copyFields_omitted, CardDetails.restores, CryptoWallet.restores,
    WireDetails.restores, PaypalAccount.restores, BankAccount.restores, BillingDetails.restores]

theorem PaymentMethod.lossless : record.codec.Lossless (depth + 2) :=
  Record.lossless (by simp [record, CardDetails.lossless, CryptoWallet.lossless,
    WireDetails.lossless, PaypalAccount.lossless, BankAccount.lossless, BillingDetails.lossless])

end

theorem Period.restores (p : Period) : record.codec.Restores p := by
  refine Record.restores (by decide) rfl ?_
  simp [record, copyFields_omitted]

theorem Period.lossless {depth : Nat} : record.codec.Lossless (depth + 1) :=
  Record.lossless (by simp [record])

structure MeteredUse.WellFormed (u : MeteredUse) : Prop where
  current : ∀ x ∈ u.current, x.isFinite = true
  limit : ∀ x ∈ u.limit, x.isFinite = true
  cost : ∀ x ∈ u.cost, x.isFinite = true

theorem MeteredUse.restores {u : MeteredUse} (h : u.WellFormed) : record.codec.Restores u := by
  have hcurrent := option_real_restores h.current
  have hlimit := option_real_restores h.limit
  have hcost := option_real_restores h.cost
  refine Record.restores (by decide) rfl ?_
  simp [record, copyFields_of, hcurrent, hlimit, hcost]

structure UsageSummary.WellFormed (s : UsageSummary) : Prop where
  totalCost : s.totalCost.isFinite = true
  records : ∀ use ∈ s.records, use.WellFormed

theorem UsageSummary.restores {s : UsageSummary} (h : s.WellFormed) :
    record.codec.Restores s := by
  have htotalCost := (real_restores_iff _).mpr h.totalCost
  have hrecords := (list_restores_iff s.records).mpr fun use huse =>
    MeteredUse.restores (h.records use huse)
  refine Record.restores (by decide) rfl ?_
  simp [record, copyFields_of, htotalCost, Period.restores, hrecords]

structure SpendAlert.WellFormed (a : SpendAlert) : Prop where
  threshold : ∀ x ∈ a.threshold, x.isFinite = true

theorem SpendAlert.restores {a : SpendAlert} (h : a.WellFormed) : record.codec.Restores a := by
  have hthreshold := option_real_restores h.threshold
  refine Record.restores (by decide) rfl ?_
  simp [record, copyFields_of, hthreshold]

theorem CreditGrant.restores (g : CreditGrant) : record.codec.Restores g := by
  refine Record.restores (by decide) rfl ?_
  simp [record, copyFields_of]

theorem CreditGrant.lossless {depth : Nat} : record.codec.Lossless (depth + 2) := by
  have heligibility : (list text).Lossless (depth + 1) := list_lossless text_lossless
  exact Record.lossless (by simp [record, heligibility])

structure CurrencyCredit.WellFormed (c : CurrencyCredit) : Prop where
  available : ∀ x ∈ c.available, x.isFinite = true

theorem CurrencyCredit.restores {c : CurrencyCredit} (h : c.WellFormed) :
    record.codec.Restores c := by
  have havailable := option_real_restores h.available
  refine Record.restores (by decide) rfl ?_
  simp [record, copyFields_of, havailable]

structure CreditBalance.WellFormed (b : CreditBalance) : Prop where
  balances : ∀ credit ∈ b.balances, credit.WellFormed

theorem CreditBalance.restores {b : CreditBalance} (h : b.WellFormed) :
    record.codec.Restores b := by
  have hbalances := (list_restores_iff b.balances).mpr fun credit hcredit =>
    CurrencyCredit.restores (h.balances credit hcredit)
  refine Record.restores (by decide) rfl ?_
  simp [record, copyFields_of, hbalances]

theorem Meter.restores (m : Meter) : record.codec.Restores m := by
  refine Record.restores (by decide) rfl ?_
  simp [record, copyFields_of]

theorem Meter.lossless {depth : Nat} : record.codec.Lossless (depth + 1) :=
  Record.lossless (by simp [record])

structure MeterTotal.WellFormed (t : MeterTotal) : Prop where
  total : ∀ x ∈ t.total, x.isFinite = true
  sorted : ∀ entries ∈ t.dimensions, Sorted entries
  dimensions : ∀ entries ∈ t.dimensions, ∀ entry ∈ entries, entry.2.isFinite = true

theorem MeterTotal.restores {t : MeterTotal} (h : t.WellFormed) : record.codec.Restores t := by
  have htotal := option_real_restores h.total
  have hdimensions : (dictionary real).option.Restores t.dimensions :=
    (option_restores_iff _).mpr fun entries hentries =>
      dictionary_keeps ⟨h.sorted entries hentries, fun entry hentry =>
        (real_restores_iff _).mpr (h.dimensions entries hentries entry hentry)⟩
  refine Record.restores (by decide) rfl ?_
  simp [record, copyFields_of, htotal, hdimensions]

structure MeterSummary.WellFormed (s : MeterSummary) : Prop where
  meters : ∀ total ∈ s.meters, total.WellFormed

theorem MeterSummary.restores {s : MeterSummary} (h : s.WellFormed) :
    record.codec.Restores s := by
  have hmeters := (list_restores_iff s.meters).mpr fun total htotal =>
    MeterTotal.restores (h.meters total htotal)
  refine Record.restores (by decide) rfl ?_
  simp [record, copyFields_of, hmeters, Period.restores]

structure PortalOverview.WellFormed (o : PortalOverview) : Prop where
  balance : ∀ b ∈ o.balance, b.WellFormed
  creditBalance : ∀ x ∈ o.creditBalance, x.isFinite = true
  activeSubscription : ∀ s ∈ o.activeSubscription, s.WellFormed
  totalSpendThisPeriod : ∀ x ∈ o.totalSpendThisPeriod, x.isFinite = true

theorem PortalOverview.restores {o : PortalOverview} (h : o.WellFormed) :
    record.codec.Restores o := by
  have hbalance := Record.option_restores fun b hb => Balance.restores (h.balance b hb)
  have hcreditBalance := option_real_restores h.creditBalance
  have hactiveSubscription := Record.option_restores fun s hs =>
    Subscription.restores (h.activeSubscription s hs)
  have htotalSpend := option_real_restores h.totalSpendThisPeriod
  refine Record.restores (by decide) rfl ?_
  simp [record, copyFields_of, hbalance, hcreditBalance, hactiveSubscription, htotalSpend]

/-- The value written for a record is read as that record. -/
structure RestoredFromValues : Prop where
  balance (b : Balance) (h : b.WellFormed) : Balance.record.codec.Restores b
  transaction (t : Transaction) (h : t.WellFormed) : Transaction.record.codec.Restores t
  subscriptionDiscount (d : SubscriptionDiscount) (h : d.WellFormed) :
    SubscriptionDiscount.record.codec.Restores d
  subscription (s : Subscription) (h : s.WellFormed) : Subscription.record.codec.Restores s
  plan (p : Plan) (h : p.WellFormed) : Plan.record.codec.Restores p
  discountCode (d : DiscountCode) (h : d.WellFormed) : DiscountCode.record.codec.Restores d
  invoiceItem (i : InvoiceItem) (h : i.WellFormed) : InvoiceItem.record.codec.Restores i
  invoice (i : Invoice) (h : i.WellFormed) : Invoice.record.codec.Restores i
  cardDetails (d : CardDetails) : CardDetails.record.codec.Restores d
  cryptoWallet (w : CryptoWallet) : CryptoWallet.record.codec.Restores w
  wireDetails (d : WireDetails) : WireDetails.record.codec.Restores d
  paypalAccount (a : PaypalAccount) : PaypalAccount.record.codec.Restores a
  bankAccount (a : BankAccount) : BankAccount.record.codec.Restores a
  billingDetails (d : BillingDetails) : BillingDetails.record.codec.Restores d
  paymentMethod (m : PaymentMethod) : PaymentMethod.record.codec.Restores m
  period (p : Period) : Period.record.codec.Restores p
  meteredUse (u : MeteredUse) (h : u.WellFormed) : MeteredUse.record.codec.Restores u
  usageSummary (s : UsageSummary) (h : s.WellFormed) : UsageSummary.record.codec.Restores s
  spendAlert (a : SpendAlert) (h : a.WellFormed) : SpendAlert.record.codec.Restores a
  creditGrant (g : CreditGrant) : CreditGrant.record.codec.Restores g
  currencyCredit (c : CurrencyCredit) (h : c.WellFormed) : CurrencyCredit.record.codec.Restores c
  creditBalance (b : CreditBalance) (h : b.WellFormed) : CreditBalance.record.codec.Restores b
  meter (m : Meter) : Meter.record.codec.Restores m
  meterTotal (t : MeterTotal) (h : t.WellFormed) : MeterTotal.record.codec.Restores t
  meterSummary (s : MeterSummary) (h : s.WellFormed) : MeterSummary.record.codec.Restores s
  portalOverview (o : PortalOverview) (h : o.WellFormed) : PortalOverview.record.codec.Restores o

/-- The text written for a record is read as that record. -/
structure RestoredFromTexts : Prop where
  cardDetails (d : CardDetails) : CardDetails.record.RestoresText d
  cryptoWallet (w : CryptoWallet) : CryptoWallet.record.RestoresText w
  wireDetails (d : WireDetails) : WireDetails.record.RestoresText d
  paypalAccount (a : PaypalAccount) : PaypalAccount.record.RestoresText a
  bankAccount (a : BankAccount) : BankAccount.record.RestoresText a
  billingDetails (d : BillingDetails) : BillingDetails.record.RestoresText d
  paymentMethod (m : PaymentMethod) : PaymentMethod.record.RestoresText m
  period (p : Period) : Period.record.RestoresText p
  creditGrant (g : CreditGrant) : CreditGrant.record.RestoresText g
  meter (m : Meter) : Meter.record.RestoresText m

theorem restoredFromValues : RestoredFromValues where
  balance _ := Balance.restores
  transaction _ := Transaction.restores
  subscriptionDiscount _ := SubscriptionDiscount.restores
  subscription _ := Subscription.restores
  plan _ := Plan.restores
  discountCode _ := DiscountCode.restores
  invoiceItem _ := InvoiceItem.restores
  invoice _ := Invoice.restores
  cardDetails := CardDetails.restores
  cryptoWallet := CryptoWallet.restores
  wireDetails := WireDetails.restores
  paypalAccount := PaypalAccount.restores
  bankAccount := BankAccount.restores
  billingDetails := BillingDetails.restores
  paymentMethod := PaymentMethod.restores
  period := Period.restores
  meteredUse _ := MeteredUse.restores
  usageSummary _ := UsageSummary.restores
  spendAlert _ := SpendAlert.restores
  creditGrant := CreditGrant.restores
  currencyCredit _ := CurrencyCredit.restores
  creditBalance _ := CreditBalance.restores
  meter := Meter.restores
  meterTotal _ := MeterTotal.restores
  meterSummary _ := MeterSummary.restores
  portalOverview _ := PortalOverview.restores

theorem restoredFromTexts : RestoredFromTexts := by
  have hone : 1 ≤ greatestDepth := by decide
  have htwo : 2 ≤ greatestDepth := by decide
  constructor
  case cardDetails => exact fun d => Record.restoresText CardDetails.lossless hone d.restores
  case cryptoWallet => exact fun w => Record.restoresText CryptoWallet.lossless hone w.restores
  case wireDetails => exact fun d => Record.restoresText WireDetails.lossless hone d.restores
  case paypalAccount => exact fun a => Record.restoresText PaypalAccount.lossless hone a.restores
  case bankAccount => exact fun a => Record.restoresText BankAccount.lossless hone a.restores
  case billingDetails => exact fun d => Record.restoresText BillingDetails.lossless hone d.restores
  case paymentMethod => exact fun m => Record.restoresText PaymentMethod.lossless htwo m.restores
  case period => exact fun p => Record.restoresText Period.lossless hone p.restores
  case creditGrant => exact fun g => Record.restoresText CreditGrant.lossless htwo g.restores
  case meter => exact fun m => Record.restoresText Meter.lossless hone m.restores

/-- Each record is read back from its value, and from its text where it has
neither doubles nor free-form values. -/
theorem records_restored : RestoredFromValues ∧ RestoredFromTexts :=
  ⟨restoredFromValues, restoredFromTexts⟩

/-- A deposit that the server attached notes to, one of them nested. -/
def notedDeposit : Transaction where
  kind := some "deposit"
  amount := some 12.5
  tags := some []
  metadata := some [
    ("note", .list [.null, .object [("lang", .text "en"), ("text", .text "gift")]]),
    ("source", .text "wire")]

theorem notedDeposit_wellFormed : notedDeposit.WellFormed where
  amount := by
    rintro x ⟨⟩
    decide
  metadata := by
    rintro entries ⟨⟩
    refine ⟨by decide, ?_⟩
    simp only [List.forall_mem_cons, List.not_mem_nil]
    refine ⟨.list ?_, .text _, nofun⟩
    simp only [List.forall_mem_cons, List.not_mem_nil]
    refine ⟨.null, .object (by decide) ?_, nofun⟩
    simp only [List.forall_mem_cons, List.not_mem_nil]
    exact ⟨.text _, .text _, nofun⟩

theorem notedDeposit_restored :
    notedDeposit.WellFormed ∧ Transaction.record.codec.Restores notedDeposit :=
  ⟨notedDeposit_wellFormed, records_restored.1.transaction _ notedDeposit_wellFormed⟩

end BillingAccess.Billing
