/-
How the functions of the interface fail.

Each makes one call, and there are four ways to take what the call comes to:
as it is, as it is but without looking at the body, as nothing if it is a
fault, and as something empty if it is a fault.
-/
import BillingAccess.Proofs.Client.Exchange
import BillingAccess.Proofs.Client.Resolve
import BillingAccess.Proofs.Network.Body

namespace BillingAccess.Client

open BillingAccess.Billing BillingAccess.Json

variable {α β σ : Type}

/-- The step makes one call, and gives what `result` makes of the net. -/
structure Gives (client : Client) (call : Call) (result : Network → β)
    (step : StateM (World σ) β) : Prop where
  asked : ∀ w, AskedOnce client call w (step.run w).2
  result : ∀ w, (step.run w).1 = result w.network

variable (client : Client) (call : Call)

/-- What the call comes to, fault or not. -/
def Propagates (codec : Codec α) (action : Action (World σ) α) : Prop :=
  Gives client call (client.resultOver call codec) action.run

/-- The fault that the call comes to, if it is one; the body does not matter. -/
def IgnoresBody (action : Action (World σ) Unit) : Prop :=
  Gives client call
    (fun network =>
      match client.bodyOver call network with
      | .ok _ => .ok ()
      | .error fault => .error fault)
    action.run

/-- What the call comes to, unless that is a fault. -/
def NoneOnFault (codec : Codec α) (step : StateM (World σ) (Option α)) : Prop :=
  Gives client call
    (fun network =>
      match client.resultOver call codec network with
      | .ok a => some a
      | .error _ => none)
    step

/-- What the call comes to, and `empty` for a fault. -/
def EmptyOnFault (codec : Codec α) (empty : α) (step : StateM (World σ) α) : Prop :=
  Gives client call
    (fun network =>
      match client.resultOver call codec network with
      | .ok a => a
      | .error _ => empty)
    step

theorem runFrom_fetch (codec : Codec α) (w : World σ) :
    (client.fetch codec call).runFrom w =
      (client.resultOver call codec w.network, ((client.execute call).runFrom w).2) := by
  have hbody := (runFrom_execute client call w).1
  rw [fetch, Action.runFrom_bind, resultOver, ← hbody]
  rcases (client.execute call).runFrom w with ⟨_ | _, _⟩ <;> rfl

theorem fetch_propagates (codec : Codec α) :
    Propagates (σ := σ) client call codec (client.fetch codec call) where
  asked w := by
    change AskedOnce client call w ((client.fetch codec call).runFrom w).2
    rw [runFrom_fetch]
    exact (runFrom_execute client call w).2
  result w := congrArg Prod.fst (runFrom_fetch client call codec w)

theorem runFrom_perform (w : World σ) :
    (client.perform call).runFrom w =
      (match client.bodyOver call w.network with
        | .ok _ => .ok ()
        | .error fault => .error fault, ((client.execute call).runFrom w).2) := by
  rw [perform, Action.runFrom_bind, ← (runFrom_execute client call w).1]
  rcases (client.execute call).runFrom w with ⟨_ | _, _⟩ <;> rfl

theorem perform_ignoresBody : IgnoresBody (σ := σ) client call (client.perform call) where
  asked w := by
    change AskedOnce client call w ((client.perform call).runFrom w).2
    rw [runFrom_perform]
    exact (runFrom_execute client call w).2
  result w := congrArg Prod.fst (runFrom_perform client call w)

theorem run_lookup? (codec : Codec α) (w : World σ) :
    (client.lookup? codec call).run w =
      ((client.resultOver call codec w.network).toOption,
        ((client.execute call).runFrom w).2) := by
  have hfetch := runFrom_fetch client call codec w
  rw [Action.runFrom] at hfetch
  rw [lookup?, Action.run_bind, hfetch]
  rfl

theorem lookup?_noneOnFault (codec : Codec α) :
    NoneOnFault (σ := σ) client call codec (client.lookup? codec call) where
  asked w := by
    rw [run_lookup?]
    exact (runFrom_execute client call w).2
  result w := by
    rw [run_lookup?]
    cases client.resultOver call codec w.network <;> rfl

theorem run_fetchOr (codec : Codec α) (empty : α) (w : World σ) :
    (client.fetchOr codec empty call).run w =
      ((client.resultOver call codec w.network).toOption.getD empty,
        ((client.execute call).runFrom w).2) := by
  have hfetch := runFrom_fetch client call codec w
  rw [Action.runFrom] at hfetch
  rw [fetchOr, Action.run_bind, hfetch]
  rfl

theorem fetchOr_emptyOnFault (codec : Codec α) (empty : α) :
    EmptyOnFault (σ := σ) client call codec empty (client.fetchOr codec empty call) where
  asked w := by
    rw [run_fetchOr]
    exact (runFrom_execute client call w).2
  result w := by
    rw [run_fetchOr]
    cases client.resultOver call codec w.network <;> rfl

/-- Changes, and what has to exist. -/
structure Strict (σ : Type) (client : Client) : Prop where
  balance (user currency : String) :
    Propagates (σ := σ) client (Endpoint.balance user currency).call Balance.record.codec
      (client.balance user currency)
  addDeposit (deposit : Deposit) :
    Propagates (σ := σ) client (Endpoint.deposit deposit).call Transaction.record.codec
      (client.addDeposit deposit)
  grantStarterCredit (user : String) :
    Propagates (σ := σ) client (Endpoint.starterCredit user).call Transaction.record.codec
      (client.grantStarterCredit user)
  transactions (user : String) (query : TransactionQuery) :
    Propagates (σ := σ) client (Endpoint.transactions user query).call
      (.list Transaction.record.codec) (client.transactions user query)
  subscribe (order : SubscriptionOrder) :
    Propagates (σ := σ) client (Endpoint.subscribe order).call Subscription.record.codec
      (client.subscribe order)
  changeSubscription (id : String) (change : PlanChange) :
    Propagates (σ := σ) client (Endpoint.changeSubscription id change).call
      Subscription.record.codec (client.changeSubscription id change)
  applyDiscount (id code : String) :
    Propagates (σ := σ) client (Endpoint.applyDiscount id code).call DiscountCode.record.codec
      (client.applyDiscount id code)
  plans :
    Propagates (σ := σ) client Endpoint.plans.call (.list Plan.record.codec) client.plans
  addPaymentMethod (added : PaymentMethod) :
    Propagates (σ := σ) client (Endpoint.addPaymentMethod added).call PaymentMethod.record.codec
      (client.addPaymentMethod added)
  addSpendAlert (order : SpendAlertOrder) :
    Propagates (σ := σ) client (Endpoint.addSpendAlert order).call SpendAlert.record.codec
      (client.addSpendAlert order)
  changeSpendAlert (id : String) (change : SpendAlertChange) :
    Propagates (σ := σ) client (Endpoint.changeSpendAlert id change).call SpendAlert.record.codec
      (client.changeSpendAlert id change)
  discountCode (code : String) :
    Propagates (σ := σ) client (Endpoint.discountCode code).call DiscountCode.record.codec
      (client.discountCode code)
  portal (customer : String) :
    Propagates (σ := σ) client (Endpoint.portal customer).call PortalOverview.record.codec
      (client.portal customer)

theorem strict (client : Client) : Strict σ client where
  balance _ _ := fetch_propagates client _ _
  addDeposit _ := fetch_propagates client _ _
  grantStarterCredit _ := fetch_propagates client _ _
  transactions _ _ := fetch_propagates client _ _
  subscribe _ := fetch_propagates client _ _
  changeSubscription _ _ := fetch_propagates client _ _
  applyDiscount _ _ := fetch_propagates client _ _
  plans := fetch_propagates client _ _
  addPaymentMethod _ := fetch_propagates client _ _
  addSpendAlert _ := fetch_propagates client _ _
  changeSpendAlert _ _ := fetch_propagates client _ _
  discountCode _ := fetch_propagates client _ _
  portal _ := fetch_propagates client _ _

/-- Changes of which nothing more is said. -/
structure Wordless (σ : Type) (client : Client) : Prop where
  cancelSubscription (id : String) :
    IgnoresBody (σ := σ) client (Endpoint.cancelSubscription id).call
      (client.cancelSubscription id)
  removePaymentMethod (id : String) :
    IgnoresBody (σ := σ) client (Endpoint.removePaymentMethod id).call
      (client.removePaymentMethod id)
  setDefaultPaymentMethod (id : String) :
    IgnoresBody (σ := σ) client (Endpoint.defaultPaymentMethod id).call
      (client.setDefaultPaymentMethod id)
  removeSpendAlert (id : String) :
    IgnoresBody (σ := σ) client (Endpoint.removeSpendAlert id).call (client.removeSpendAlert id)

theorem wordless (client : Client) : Wordless σ client where
  cancelSubscription _ := perform_ignoresBody client _
  removePaymentMethod _ := perform_ignoresBody client _
  setDefaultPaymentMethod _ := perform_ignoresBody client _
  removeSpendAlert _ := perform_ignoresBody client _

/-- What may not exist. -/
structure Optional (σ : Type) (client : Client) : Prop where
  subscription? (id : String) :
    NoneOnFault (σ := σ) client (Endpoint.subscription id).call Subscription.record.codec
      (client.subscription? id)
  plan? (id : String) :
    NoneOnFault (σ := σ) client (Endpoint.plan id).call Plan.record.codec (client.plan? id)

theorem optional (client : Client) : Optional σ client where
  subscription? _ := lookup?_noneOnFault client _ _
  plan? _ := lookup?_noneOnFault client _ _

/-- What fills a panel.  Two of the empty values still name the user. -/
structure Lenient (σ : Type) (client : Client) : Prop where
  userSubscriptions (user : String) :
    EmptyOnFault (σ := σ) client (Endpoint.userSubscriptions user).call
      (.list Subscription.record.codec) [] (client.userSubscriptions user)
  invoices (user : String) (page : Page) :
    EmptyOnFault (σ := σ) client (Endpoint.invoices user page).call (.list Invoice.record.codec) []
      (client.invoices user page)
  paymentMethods (user : String) :
    EmptyOnFault (σ := σ) client (Endpoint.paymentMethods user).call
      (.list PaymentMethod.record.codec) [] (client.paymentMethods user)
  usage (user : String) :
    EmptyOnFault (σ := σ) client (Endpoint.usage user).call UsageSummary.record.codec
      { totalCost := 0.0, currency := "usd", period := { start := none, stop := none },
        records := [] }
      (client.usage user)
  spendAlerts (user : String) :
    EmptyOnFault (σ := σ) client (Endpoint.spendAlerts user).call (.list SpendAlert.record.codec)
      [] (client.spendAlerts user)
  creditGrants (user : String) :
    EmptyOnFault (σ := σ) client (Endpoint.creditGrants user).call
      (.list CreditGrant.record.codec) [] (client.creditGrants user)
  creditBalance (user : String) :
    EmptyOnFault (σ := σ) client (Endpoint.creditBalance user).call CreditBalance.record.codec
      { userId := some user, balances := [] } (client.creditBalance user)
  meters :
    EmptyOnFault (σ := σ) client Endpoint.meters.call (.list Meter.record.codec) []
      client.meters
  meterSummary (user : String) :
    EmptyOnFault (σ := σ) client (Endpoint.meterSummary user).call MeterSummary.record.codec
      { userId := some user, meters := [], period := { start := none, stop := none } }
      (client.meterSummary user)

theorem lenient (client : Client) : Lenient σ client where
  userSubscriptions _ := fetchOr_emptyOnFault client _ _ _
  invoices _ _ := fetchOr_emptyOnFault client _ _ _
  paymentMethods _ := fetchOr_emptyOnFault client _ _ _
  usage _ := fetchOr_emptyOnFault client _ _ _
  spendAlerts _ := fetchOr_emptyOnFault client _ _ _
  creditGrants _ := fetchOr_emptyOnFault client _ _ _
  creditBalance _ := fetchOr_emptyOnFault client _ _ _
  meters := fetchOr_emptyOnFault client _ _ _
  meterSummary _ := fetchOr_emptyOnFault client _ _ _

/-- What the text of a body is: the one that was written there, in the encoding
that a mark names or else in UTF-8. -/
structure ReadsBodies : Prop where
  marked (encoding : Encoding) (text : String) : bodyText (encoding.write text.toList) = text
  unmarked (text : String) (h : text.toList.head? ≠ some orderMark) :
    bodyText (Utf8.ofString text) = text

theorem readsBodies : ReadsBodies where
  marked := bodyText_write
  unmarked _ h := bodyText_ofString h

/-- Which way each function of the interface goes. -/
structure FailurePolicy (σ : Type) (client : Client) : Prop extends
  Strict σ client, Wordless σ client, Optional σ client, Lenient σ client, ReadsBodies

/-- Thirteen functions fail as the call does, and four more that give nothing
else; two give none, and nine something empty.  What the call comes to is read
in the text of the body, however that is written. -/
theorem failure_policy (client : Client) : FailurePolicy σ client :=
  ⟨strict client, wordless client, optional client, lenient client, readsBodies⟩

/-- A world whose peer is always too busy. -/
def busyWorld : World Unit where
  store := ()
  now := 0
  random := { byte := fun _ => 0 }
  network := { reply := fun _ => .answer 503 (some (Utf8.ofString "later")) }

/-- A world whose peer answers in UTF-16. -/
def wideWorld : World Unit where
  store := ()
  now := 0
  random := { byte := fun _ => 0 }
  network := { reply := fun _ => .answer 200 (some ((Encoding.utf16 .little).write "[]".toList)) }

theorem busy_peer :
    ((testClient.balance "u1" "usd").run.run busyWorld).1 =
        .error (.refused 503 "Service Unavailable: later") ∧
      ((testClient.subscription? "s1").run busyWorld).1 = none ∧
      ((testClient.invoices "u1" {}).run busyWorld).1 = [] ∧
      (testClient.plans.run.run wideWorld).1 = .ok [] := by
  have hpolicy := failure_policy (σ := Unit) testClient
  refine ⟨?_, ?_, ?_, ?_⟩
  · have hbody : testClient.bodyOver (Endpoint.balance "u1" "usd").call busyWorld.network =
        .error (.refused 503 "Service Unavailable: later") := by
      decide +kernel
    rw [(hpolicy.balance "u1" "usd").result busyWorld, resultOver, hbody]
  · rw [(hpolicy.subscription? "s1").result busyWorld]
    rfl
  · rw [(hpolicy.invoices "u1" {}).result busyWorld]
    rfl
  · have hbody : testClient.bodyOver Endpoint.plans.call wideWorld.network = .ok "[]" :=
      congrArg Except.ok (hpolicy.marked (.utf16 .little) "[]")
    have hempty : (decodeText (Codec.list Plan.record.codec).read "[]".toList).toOption.map
        List.isEmpty = some true := by
      decide +kernel
    rw [hpolicy.plans.result wideWorld, resultOver, hbody]
    dsimp only
    cases hread : decodeText (Codec.list Plan.record.codec).read "[]".toList with
    | error fault =>
        rw [hread] at hempty
        cases hempty
    | ok plans =>
        rw [hread] at hempty
        obtain rfl := List.isEmpty_iff.mp (Option.some.inj hempty)
        rfl

end BillingAccess.Client
