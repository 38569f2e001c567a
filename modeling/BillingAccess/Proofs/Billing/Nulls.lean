/-
What `null` means in an answer.

Most fields may hold nothing, and there `null` is as good as no member.  Ten
fields always hold something: the amounts of a balance, the parts of a summary
of use, and the lists and the period of the other summaries.  A member may be
missing there, but `null` is of the wrong kind.
-/
import BillingAccess.Proofs.Billing.Payloads
import BillingAccess.Proofs.Client.FailurePolicy
import BillingAccess.Proofs.Json.Nulls

namespace BillingAccess.Billing

open BillingAccess.Json

/-- The fields that always hold something, by the kind of record. -/
def plainFields : String → List String
  | "Balance" => ["balance", "holds", "available"]
  | "UsageSummary" => ["totalCost", "currency", "period", "records"]
  | "CreditBalance" => ["balances"]
  | "MeterSummary" => ["meters", "period"]
  | _ => []

theorem shapes_nulls : ∀ shape ∈ shapes,
    shape.kind.record.NullsBut (plainFields shape.kind.name) := by
  simp only [shapes, List.forall_mem_cons]
  and_intros
  all_goals
    simp [Record.NullsBut, plainFields, Balance.record, Transaction.record,
      SubscriptionDiscount.record, Subscription.record, Plan.record, DiscountCode.record,
      InvoiceItem.record, Invoice.record, CardDetails.record, CryptoWallet.record,
      WireDetails.record, PaypalAccount.record, BankAccount.record, BillingDetails.record,
      PaymentMethod.record, Period.record, MeteredUse.record, UsageSummary.record,
      SpendAlert.record, CreditGrant.record, CurrencyCredit.record, CreditBalance.record,
      Meter.record, MeterTotal.record, MeterSummary.record, PortalOverview.record]

theorem kinds_takeNulls : ∀ kind ∈ kinds, kind.record.TakesNulls (plainFields kind.name) := by
  intro kind hkind
  rw [← show shapes.map Shape.kind = kinds from rfl] at hkind
  obtain ⟨shape, hshape, rfl⟩ := List.mem_map.mp hkind
  exact (shapes_consist shape hshape).takesNulls (shapes_nulls shape hshape)

/-- What is asked for with something empty at hand is what is read in the body,
and empty if the body is refused. -/
theorem run_fetchOr_of_body {α σ : Type} {client : Client} {call : Call} {w : World σ}
    {body : String} (hbody : client.bodyOver call w.network = .ok body) (codec : Codec α)
    (empty : α) :
    ((client.fetchOr codec empty call).run w).1 =
      (decodeText codec.read body.toList).toOption.getD empty := by
  rw [Client.run_fetchOr, Client.resultOver, hbody]
  change ((decodeText codec.read body.toList).mapError Fault.json).toOption.getD empty = _
  cases decodeText codec.read body.toList <;> rfl

/-- In every kind of record `null` is as good as no member, but for the fields
that always hold something.  There the record is refused for it, and a panel
that the record was to fill is empty. -/
theorem null_means_absent {σ : Type} :
    (∀ kind ∈ kinds, kind.record.TakesNulls (plainFields kind.name)) ∧
      ∀ kind ∈ kinds, ∀ (client : Client) (call : Call) (empty : kind.Carrier) (w : World σ)
        (body : String), client.bodyOver call w.network = .ok body →
          ((client.fetchOr kind.record.codec empty call).run w).1 =
            (decodeText kind.record.read body.toList).toOption.getD empty := by
  refine ⟨kinds_takeNulls, ?_⟩
  intro kind _ client call empty w body hbody
  exact run_fetchOr_of_body hbody kind.record.codec empty

def availableNull : Entry :=
  ⟨"available", "\"available\"".toList, " null".toList⟩

def periodNull : Entry :=
  ⟨"period", "\"period\"".toList, "null".toList⟩

theorem availableNull_null : availableNull.Null :=
  ⟨by cbv, by cbv⟩

theorem periodNull_null : periodNull.Null :=
  ⟨by cbv, by cbv⟩

theorem euros_spelled : ∀ m ∈ [currencyEntry], m.Spelled := by
  rw [List.forall_mem_singleton]
  exact currencyEntry_accepted.spelled

theorem decodeText_euros :
    decodeText CurrencyCredit.record.read (objectText dense [currencyEntry]) =
      .ok { currency := some "eur" } := by
  have hcurrency : currencyEntry.member = (.ok "currency", .text "eur") := by cbv
  rw [decodeText_objectText dense euros_spelled, List.map_cons, hcurrency]
  rfl

/-- The amount of a credit is left out by `null`.  A summary of use is refused for a period
that is `null`. -/
theorem null_amount_read_null_period_refused :
    decodeText CurrencyCredit.record.read (objectText dense [availableNull, currencyEntry]) =
        .ok { currency := some "eur" } ∧
      decodeText UsageSummary.record.read
        (objectText dense [currencyEntry, periodNull, recordsEntry]) = .error .mismatched := by
  have hcredit : ⟨"CurrencyCredit", _, CurrencyCredit.record⟩ ∈ kinds :=
    List.getElem_mem (show 20 < kinds.length by decide)
  have husage : ⟨"UsageSummary", _, UsageSummary.record⟩ ∈ kinds :=
    List.getElem_mem (show 17 < kinds.length by decide)
  have hamount : "available" ∉ plainFields "CurrencyCredit" := by decide
  have hperiod : "period" ∈ plainFields "UsageSummary" := by decide
  have hkinds := (null_means_absent (σ := Unit)).1
  constructor
  · have hnull := (hkinds _ hcredit).null dense dense [] [currencyEntry] euros_spelled
      decodeText_euros availableNull_null (by decide) (by decide)
    exact hnull.trans (if_neg hamount)
  · have hnull := (hkinds _ husage).null dense dense [currencyEntry] [recordsEntry]
      euroSummary_spelled decodeText_euroSummary periodNull_null (by decide) (by decide)
    exact hnull.trans (if_pos hperiod)

/-- An object with one member, which is `null`. -/
def nullObject (name : String) : String :=
  "\x7b\"" ++ name ++ "\":null\x7d"

/-- The record is read from an object without members, but not from one where
this member is `null`. -/
def TripsOver {R : Type} (record : Record R) (name : String) : Prop :=
  decodeText record.read "\x7b\x7d".toList = .ok record.empty ∧
    decodeText record.read (nullObject name).toList = .error .mismatched

def nullEntry (name : String) : Entry :=
  ⟨name, '"' :: name.toList ++ ['"'], "null".toList⟩

theorem tripsOver_of_takesNulls {R : Type} {record : Record R} {plain : List String}
    (h : record.TakesNulls plain) (hread : record.read (.object [] none) = .ok record.empty)
    {name : String} (hfield : name ∈ record.fields.map Field.name) (hplain : name ∈ plain)
    (hkey : decodeText Draft.value (nullEntry name).key = .ok (.text name)) :
    TripsOver record name := by
  have hempty : decodeText record.read (objectText dense []) = .ok record.empty := by
    rw [decodeText_objectText dense (List.forall_mem_nil _)]
    exact hread
  have htext : (nullObject name).toList = objectText dense [nullEntry name] := by
    simp [nullObject, objectText, dense, nullEntry, Entry.text]
  have hvalue : decodeText Draft.value "null".toList = .ok .null := by cbv
  refine ⟨hempty, ?_⟩
  have hnull := h.null dense dense [] [] (List.forall_mem_nil _) hempty (m := nullEntry name)
    ⟨hkey, hvalue⟩ hfield List.not_mem_nil
  rw [htext]
  exact hnull.trans (if_pos hplain)

theorem null_refused_in_plain_fields :
    TripsOver Balance.record "balance" ∧ TripsOver Balance.record "holds" ∧
      TripsOver Balance.record "available" ∧ TripsOver UsageSummary.record "totalCost" ∧
      TripsOver UsageSummary.record "currency" ∧ TripsOver UsageSummary.record "period" ∧
      TripsOver UsageSummary.record "records" ∧ TripsOver CreditBalance.record "balances" ∧
      TripsOver MeterSummary.record "meters" ∧ TripsOver MeterSummary.record "period" := by
  have hbalance := kinds_takeNulls ⟨"Balance", _, Balance.record⟩
    (List.getElem_mem (show 0 < kinds.length by decide))
  have husage := kinds_takeNulls ⟨"UsageSummary", _, UsageSummary.record⟩
    (List.getElem_mem (show 17 < kinds.length by decide))
  have hcredit := kinds_takeNulls ⟨"CreditBalance", _, CreditBalance.record⟩
    (List.getElem_mem (show 21 < kinds.length by decide))
  have hmeters := kinds_takeNulls ⟨"MeterSummary", _, MeterSummary.record⟩
    (List.getElem_mem (show 24 < kinds.length by decide))
  exact ⟨tripsOver_of_takesNulls hbalance rfl (by decide) (by decide) (by cbv),
    tripsOver_of_takesNulls hbalance rfl (by decide) (by decide) (by cbv),
    tripsOver_of_takesNulls hbalance rfl (by decide) (by decide) (by cbv),
    tripsOver_of_takesNulls husage rfl (by decide) (by decide) (by cbv),
    tripsOver_of_takesNulls husage rfl (by decide) (by decide) (by cbv),
    tripsOver_of_takesNulls husage rfl (by decide) (by decide) (by cbv),
    tripsOver_of_takesNulls husage rfl (by decide) (by decide) (by cbv),
    tripsOver_of_takesNulls hcredit rfl (by decide) (by decide) (by cbv),
    tripsOver_of_takesNulls hmeters rfl (by decide) (by decide) (by cbv),
    tripsOver_of_takesNulls hmeters rfl (by decide) (by decide) (by cbv)⟩

end BillingAccess.Billing
