/-
Where the requests of a client go.

Whatever is asked of the interface, the request goes to the scheme, the host
and the port of the base URL, and with the token of the client.  No argument
has a say in that: arguments become segments, parameters and bodies.
-/
import BillingAccess.Proofs.Client.FailurePolicy
import BillingAccess.Proofs.Client.Resolve

namespace BillingAccess

open BillingAccess.Billing BillingAccess.Url

variable {σ : Type}

namespace Call

variable (call : Call) (name text : String) (body : Json.Value)

@[simp] theorem segment_path : (call.segment text).path = call.path :=
  rfl

@[simp] theorem segment_token : (call.segment text).token = call.token :=
  rfl

@[simp] theorem param_path : (call.param name text).path = call.path :=
  rfl

@[simp] theorem param_token : (call.param name text).token = call.token :=
  rfl

@[simp] theorem param_method : (call.param name text).method = call.method :=
  rfl

@[simp] theorem param?_path (value : Option String) :
    (call.param? name value).path = call.path := by
  cases value <;> rfl

@[simp] theorem param?_token (value : Option String) :
    (call.param? name value).token = call.token := by
  cases value <;> rfl

@[simp] theorem param?_method (value : Option String) :
    (call.param? name value).method = call.method := by
  cases value <;> rfl

@[simp] theorem json_path : (call.json body).path = call.path :=
  rfl

@[simp] theorem json_token : (call.json body).token = call.token :=
  rfl

end Call

theorem Endpoint.call_path_mem (endpoint : Endpoint) : endpoint.call.path ∈ Endpoint.paths := by
  cases endpoint <;>
    simp [Endpoint.call, Endpoint.paths, Call.get, Call.post, Call.patch, Call.delete]

/-- No call of the interface brings a token of its own. -/
theorem Endpoint.call_token (endpoint : Endpoint) : endpoint.call.token = none := by
  cases endpoint <;> simp [Endpoint.call, Call.get, Call.post, Call.patch, Call.delete]

namespace Client

/-- The world after the function of an endpoint has been called. -/
def worldAfter (client : Client) (w : World σ) : Endpoint → World σ
  | .balance user currency => ((client.balance user currency).run.run w).2
  | .deposit deposit => ((client.addDeposit deposit).run.run w).2
  | .starterCredit user => ((client.grantStarterCredit user).run.run w).2
  | .transactions user query => ((client.transactions user query).run.run w).2
  | .subscribe order => ((client.subscribe order).run.run w).2
  | .subscription id => ((client.subscription? id).run w).2
  | .userSubscriptions user => ((client.userSubscriptions user).run w).2
  | .cancelSubscription id => ((client.cancelSubscription id).run.run w).2
  | .changeSubscription id change => ((client.changeSubscription id change).run.run w).2
  | .applyDiscount id code => ((client.applyDiscount id code).run.run w).2
  | .plans => (client.plans.run.run w).2
  | .plan id => ((client.plan? id).run w).2
  | .invoices user page => ((client.invoices user page).run w).2
  | .paymentMethods user => ((client.paymentMethods user).run w).2
  | .addPaymentMethod added => ((client.addPaymentMethod added).run.run w).2
  | .removePaymentMethod id => ((client.removePaymentMethod id).run.run w).2
  | .defaultPaymentMethod id => ((client.setDefaultPaymentMethod id).run.run w).2
  | .usage user => ((client.usage user).run w).2
  | .spendAlerts user => ((client.spendAlerts user).run w).2
  | .addSpendAlert order => ((client.addSpendAlert order).run.run w).2
  | .changeSpendAlert id change => ((client.changeSpendAlert id change).run.run w).2
  | .removeSpendAlert id => ((client.removeSpendAlert id).run.run w).2
  | .discountCode code => ((client.discountCode code).run.run w).2
  | .creditGrants user => ((client.creditGrants user).run w).2
  | .creditBalance user => ((client.creditBalance user).run w).2
  | .portal customer => ((client.portal customer).run.run w).2
  | .meters => (client.meters.run w).2
  | .meterSummary user => ((client.meterSummary user).run w).2

/-- Each function makes the call of its endpoint. -/
theorem worldAfter_askedOnce (client : Client) (endpoint : Endpoint) (w : World σ) :
    AskedOnce client endpoint.call w (client.worldAfter w endpoint) := by
  cases endpoint with
  | balance user currency => exact ((strict client).balance user currency).asked w
  | deposit deposit => exact ((strict client).addDeposit deposit).asked w
  | starterCredit user => exact ((strict client).grantStarterCredit user).asked w
  | transactions user query => exact ((strict client).transactions user query).asked w
  | subscribe order => exact ((strict client).subscribe order).asked w
  | subscription id => exact ((optional client).subscription? id).asked w
  | userSubscriptions user => exact ((lenient client).userSubscriptions user).asked w
  | cancelSubscription id => exact ((wordless client).cancelSubscription id).asked w
  | changeSubscription id change => exact ((strict client).changeSubscription id change).asked w
  | applyDiscount id code => exact ((strict client).applyDiscount id code).asked w
  | plans => exact (strict client).plans.asked w
  | plan id => exact ((optional client).plan? id).asked w
  | invoices user page => exact ((lenient client).invoices user page).asked w
  | paymentMethods user => exact ((lenient client).paymentMethods user).asked w
  | addPaymentMethod added => exact ((strict client).addPaymentMethod added).asked w
  | removePaymentMethod id => exact ((wordless client).removePaymentMethod id).asked w
  | defaultPaymentMethod id => exact ((wordless client).setDefaultPaymentMethod id).asked w
  | usage user => exact ((lenient client).usage user).asked w
  | spendAlerts user => exact ((lenient client).spendAlerts user).asked w
  | addSpendAlert order => exact ((strict client).addSpendAlert order).asked w
  | changeSpendAlert id change => exact ((strict client).changeSpendAlert id change).asked w
  | removeSpendAlert id => exact ((wordless client).removeSpendAlert id).asked w
  | discountCode code => exact ((strict client).discountCode code).asked w
  | creditGrants user => exact ((lenient client).creditGrants user).asked w
  | creditBalance user => exact ((lenient client).creditBalance user).asked w
  | portal customer => exact ((strict client).portal customer).asked w
  | meters => exact (lenient client).meters.asked w
  | meterSummary user => exact ((lenient client).meterSummary user).asked w

/-- The token of the client is all that is shown, and nobody else sees it. -/
structure KeepsToOrigin (client : Client) (request : Request) : Prop where
  bearer : request.bearer = client.token
  authority : ∀ url, request.destination = .ok url → SameAuthority url client.baseUrl

theorem scheme_of_destination {request : Request} {url : Url} (h : request.destination = .ok url) :
    request.address = .ok url ∧ url.scheme ≠ "file" := by
  rw [Request.destination] at h
  split at h
  case h_1 => contradiction
  case h_2 address haddress =>
    split at h
    · contradiction
    · split at h
      case isFalse => contradiction
      case isTrue hscheme =>
        injection h with h
        subst h
        refine ⟨haddress, ?_⟩
        rcases hscheme with hscheme | hscheme <;> rw [hscheme] <;> decide

theorem requestOf_keepsToOrigin {client : Client} {endpoint : Endpoint} {url : Url}
    (h : client.resolve endpoint.call = .ok url) :
    KeepsToOrigin client (client.requestOf endpoint.call url) := by
  have hlink := Endpoint.fromRoot_of_mem_paths _ endpoint.call_path_mem
  constructor
  · rw [requestOf, endpoint.call_token]
    rfl
  · intro url' hdestination
    obtain ⟨haddress, hfile⟩ := scheme_of_destination hdestination
    obtain rfl : url = url' := Except.ok.inj haddress
    cases hbase : client.baseUrl.path with
    | whole text =>
        rw [resolve_of_whole hlink hbase] at h
        contradiction
    | parts path =>
        obtain ⟨resolved, hresolve, -, hscheme, hsame⟩ := exists_resolve hlink hbase
        obtain rfl : resolved = url := Except.ok.inj (hresolve.symm.trans h)
        exact hsame (hscheme ▸ hfile)

/-- Whatever is asked, one request is made, unless the base URL has no segments.
It keeps to the origin of the base URL and shows the token of the client. -/
theorem requests_keep_to_origin (client : Client) (endpoint : Endpoint) (w : World σ) :
    ∃ made, (client.worldAfter w endpoint).attempts = w.attempts ++ made ∧ made.length ≤ 1 ∧
      (made = [] ↔ ∃ text, client.baseUrl.path = .whole text) ∧
      ∀ attempt ∈ made, KeepsToOrigin client attempt.request := by
  have hasked := worldAfter_askedOnce client endpoint w
  have hlink := Endpoint.fromRoot_of_mem_paths _ endpoint.call_path_mem
  cases hbase : client.baseUrl.path with
  | whole text =>
      have hunsent := hasked.unsent _ (resolve_of_whole hlink hbase)
      refine ⟨[], by rw [hunsent, List.append_nil], Nat.zero_le 1, ?_, fun _ h => ?_⟩
      · exact iff_of_true rfl ⟨text, rfl⟩
      · exact absurd h List.not_mem_nil
  | parts path =>
      obtain ⟨url, hresolve, -⟩ := exists_resolve hlink hbase
      obtain ⟨attempt, hattempts, hrequest⟩ := hasked.sent url hresolve
      refine ⟨[attempt], hattempts, Nat.le_refl 1, ?_, fun other hother => ?_⟩
      · refine iff_of_false (List.cons_ne_nil _ _) ?_
        rintro ⟨text, hwhole⟩
        cases hwhole
      · rw [List.mem_singleton.mp hother, hrequest]
        exact requestOf_keepsToOrigin hresolve

end Client

end BillingAccess
