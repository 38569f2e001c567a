/-
Amounts and thresholds in the bodies of requests.

A deposit has an amount, a new alert has a threshold, and a change of an alert
may have one.  A double that is finite goes out as that number.  There is no
JSON number for the others, and nothing refuses them: they go out as `null`.
-/
import BillingAccess.Proofs.Client.Origin
import BillingAccess.Proofs.Json.Record

namespace BillingAccess

open BillingAccess.Billing BillingAccess.Json

variable {α σ : Type}

/-- The body of the call has a member for the double: its number, or `null` if
there is none.  Without a double there is no such member. -/
def Call.Carries (call : Call) (name : String) (x : Option Float) : Prop :=
  ∃ body, call.body = some body ∧
    body.member? name = x.map fun y => if y.isFinite then .number (.real y) else .null

namespace Endpoint

theorem deposit_carries (order : Deposit) :
    (deposit order).call.Carries "amount" (some order.amount) := by
  let field : Json.Field Deposit := .of "amount" .real (·.amount) fun x r => { r with amount := x }
  have hfield : field ∈ Deposit.record.fields :=
    List.mem_cons_of_mem _ (List.mem_cons_of_mem _ List.mem_cons_self)
  exact ⟨_, rfl, Record.member?_write (by decide) hfield order⟩

theorem addSpendAlert_carries (order : SpendAlertOrder) :
    (addSpendAlert order).call.Carries "threshold" (some order.threshold) := by
  let field : Json.Field SpendAlertOrder :=
    .of "threshold" .real (·.threshold) fun x r => { r with threshold := x }
  have hfield : field ∈ SpendAlertOrder.record.fields :=
    List.mem_cons_of_mem _ (List.mem_cons_of_mem _ List.mem_cons_self)
  exact ⟨_, rfl, Record.member?_write (by decide) hfield order⟩

theorem changeSpendAlert_carries (id : String) (change : SpendAlertChange) :
    (changeSpendAlert id change).call.Carries "threshold" change.threshold := by
  let field : Json.Field SpendAlertChange :=
    .omitted "threshold" .real (·.threshold) fun x r => { r with threshold := x }
  have hfield : field ∈ SpendAlertChange.record.fields :=
    List.mem_cons_of_mem _ List.mem_cons_self
  exact ⟨_, rfl, Record.member?_write (by decide) hfield change⟩

end Endpoint

namespace Client

/-- One request has been made, and its body has such a member. -/
def SentWith (name : String) (member : Option Value) (w w' : World σ) : Prop :=
  ∃ attempt body, w'.attempts = w.attempts ++ [attempt] ∧
    attempt.request.payload = .json body ∧ body.member? name = member

/-- Either the double goes out as a number, or the step fails because there is
no JSON for it and no request is made. -/
def KeptOrRefused (name : String) (x : Option Float) (action : Action (World σ) α)
    (w : World σ) : Prop :=
  SentWith name (x.map fun y => .number (.real y)) w (action.runFrom w).2 ∨
    (∃ cause, (action.runFrom w).1 = .error (.json cause)) ∧
      (action.runFrom w).2.attempts = w.attempts

/-- What becomes of a double that a step is given. -/
structure SendsAmount (client : Client) (name : String) (x : Option Float)
    (action : Action (World σ) α) (w : World σ) : Prop where
  /-- It goes out, as `null` if it is not finite. -/
  sent : ∀ path, client.baseUrl.path = .parts path →
    SentWith name (x.map fun y => if y.isFinite then .number (.real y) else .null) w
      (action.runFrom w).2
  /-- Nothing goes out if there is nowhere to go. -/
  unsent : ∀ text, client.baseUrl.path = .whole text →
    (action.runFrom w).1 = .error (.url .baseWithoutParts) ∧
      (action.runFrom w).2.attempts = w.attempts
  kept_iff : KeptOrRefused name x action w ↔
    (∀ y ∈ x, y.isFinite = true) ∧ ∃ path, client.baseUrl.path = .parts path

theorem map_ite_eq_map_number_iff (x : Option Float) :
    (x.map fun y => if y.isFinite then Value.number (.real y) else .null) =
        x.map (fun y => .number (.real y)) ↔ ∀ y ∈ x, y.isFinite = true := by
  cases x with
  | none => simp
  | some y => by_cases hy : y.isFinite <;> simp [hy]

variable {client : Client} {call : Call} {name : String} {x : Option Float}

theorem AskedOnce.sentWith {path : List String} (hcall : call.path ∈ Endpoint.paths)
    (hbase : client.baseUrl.path = .parts path) (hcarries : call.Carries name x) {w w' : World σ}
    (h : AskedOnce client call w w') :
    SentWith name (x.map fun y => if y.isFinite then .number (.real y) else .null) w w' := by
  obtain ⟨body, hbody, hmember⟩ := hcarries
  obtain ⟨url, hresolve, -⟩ := exists_resolve (Endpoint.fromRoot_of_mem_paths _ hcall) hbase
  obtain ⟨attempt, hattempts, hrequest⟩ := h.sent url hresolve
  refine ⟨attempt, body, hattempts, ?_, hmember⟩
  rw [hrequest, requestOf, hbody]

theorem SentWith.member_eq {member other : Option Value} {w w' : World σ}
    (h : SentWith name member w w') (hother : SentWith name other w w') : member = other := by
  obtain ⟨attempt, body, hattempts, hpayload, rfl⟩ := h
  obtain ⟨attempt', body', hattempts', hpayload', rfl⟩ := hother
  rw [hattempts, List.append_cancel_left_eq, List.singleton_inj] at hattempts'
  rw [hattempts', hpayload', Payload.json.injEq] at hpayload
  rw [hpayload]

theorem SentWith.attempts_ne {member : Option Value} {w w' : World σ}
    (h : SentWith name member w w') : w'.attempts ≠ w.attempts := by
  obtain ⟨attempt, body, hattempts, -⟩ := h
  rw [hattempts, Ne, List.append_right_eq_self]
  exact List.cons_ne_nil _ _

theorem Propagates.sendsAmount {codec : Codec α} {action : Action (World σ) α}
    (h : Propagates client call codec action) (hcall : call.path ∈ Endpoint.paths)
    (hcarries : call.Carries name x) (w : World σ) : SendsAmount client name x action w := by
  have hasked : AskedOnce client call w (action.runFrom w).2 := h.asked w
  cases hbase : client.baseUrl.path with
  | parts path =>
      have hsent := hasked.sentWith hcall hbase hcarries
      refine ⟨fun _ _ => hsent, fun _ hwhole => ?_, fun hkept => ⟨?_, path, hbase⟩,
        fun hfinite => ?_⟩
      · rw [hbase] at hwhole
        cases hwhole
      · rcases hkept with hnumber | ⟨-, hunsent⟩
        · exact (map_ite_eq_map_number_iff x).mp (hsent.member_eq hnumber)
        · exact absurd hunsent hsent.attempts_ne
      · rw [(map_ite_eq_map_number_iff x).mpr hfinite.1] at hsent
        exact .inl hsent
  | whole text =>
      have hresolve := resolve_of_whole (Endpoint.fromRoot_of_mem_paths _ hcall) hbase
      have hunsent := hasked.unsent _ hresolve
      have hresult : (action.runFrom w).1 = .error (.url .baseWithoutParts) := by
        refine (h.result w).trans ?_
        rw [resultOver, bodyOver, hresolve]
      refine ⟨fun _ hparts => ?_, fun _ _ => ⟨hresult, hunsent⟩, fun hkept => ?_, fun hparts => ?_⟩
      · rw [hbase] at hparts
        cases hparts
      · rcases hkept with hnumber | ⟨⟨cause, hcause⟩, -⟩
        · exact absurd hunsent hnumber.attempts_ne
        · rw [hresult] at hcause
          cases hcause
      · obtain ⟨-, path, hpath⟩ := hparts
        rw [hbase] at hpath
        cases hpath

/-- The amount of a deposit and the threshold of an alert go out as they are
exactly if they are finite; nothing is refused for the others. -/
theorem amounts_sent_iff_finite (client : Client) (order : Deposit) (alert : SpendAlertOrder)
    (id : String) (change : SpendAlertChange) (w : World σ) :
    SendsAmount client "amount" (some order.amount) (client.addDeposit order) w ∧
      SendsAmount client "threshold" (some alert.threshold) (client.addSpendAlert alert) w ∧
      SendsAmount client "threshold" change.threshold (client.changeSpendAlert id change) w := by
  refine ⟨?_, ?_, ?_⟩
  · exact ((strict client).addDeposit order).sendsAmount
      (Endpoint.call_path_mem _) (Endpoint.deposit_carries order) w
  · exact ((strict client).addSpendAlert alert).sendsAmount
      (Endpoint.call_path_mem _) (Endpoint.addSpendAlert_carries alert) w
  · exact ((strict client).changeSpendAlert id change).sendsAmount
      (Endpoint.call_path_mem _) (Endpoint.changeSpendAlert_carries id change) w

/-- A deposit of an undefined amount goes out, and its body says `null`. -/
theorem undefined_deposit_blanked :
    let order : Deposit := { user := "alice", amount := 0.0 / 0.0 }
    SentWith "amount" (some .null) busyWorld
        ((testClient.addDeposit order).runFrom busyWorld).2 ∧
      ¬KeptOrRefused "amount" (some order.amount) (testClient.addDeposit order) busyWorld := by
  intro order
  have hundefined : ¬order.amount.isFinite = true := by decide +kernel
  have hsends : SendsAmount testClient "amount" (some order.amount) (testClient.addDeposit order)
      busyWorld :=
    ((strict testClient).addDeposit order).sendsAmount
      (Endpoint.call_path_mem _) (Endpoint.deposit_carries order) busyWorld
  have hsent := hsends.sent [""] rfl
  rw [Option.map_some, if_neg hundefined] at hsent
  exact ⟨hsent, fun hkept => hundefined ((hsends.kept_iff.mp hkept).1 _ rfl)⟩

end Client

end BillingAccess
