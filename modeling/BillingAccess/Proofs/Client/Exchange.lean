/-
What a call comes to.

A call that leads somewhere makes one request, and others make none.  What it
gives is settled by where it goes and by what comes back: the body of an answer
of success, or the fault that stands for everything else.
-/
import BillingAccess.Client.Billing
import BillingAccess.Proofs.Action

namespace BillingAccess

open BillingAccess.Json

variable {α σ : Type}

/-- What a reply to a request comes to: the body of an answer of success.  The
body of another answer is part of what is said about it; one that breaks off
says nothing. -/
def Reply.body (limit : Duration) (url : Url) : Reply → Except Fault String
  | .answer status body =>
      if 200 ≤ status ∧ status < 300 then
        match body with
        | some bytes => .ok (bodyText bytes)
        | none => .error (.transport .brokenBody)
      else
        let said := match body with
          | some bytes => bodyText bytes
          | none => ""
        .error (.refused status (Text.trim (statusReason status ++ ": " ++ said)))
  | .hangUp => .error (.transport (.closed (Request.publicUrl url).text))
  | .silence => .error (.timedOut limit)

namespace Client

variable (client : Client) (call : Call)

/-- What a call comes to: the body of the answer. -/
def bodyOver (network : Network) : Except Fault String :=
  match client.resolve call with
  | .error fault => .error fault
  | .ok url =>
      match (client.requestOf call url).destination with
      | .error fault => .error (.transport fault)
      | .ok url =>
          if network.delivers url then (network.reply network.used).body client.limit url
          else .error (.transport (.unreachable (Request.publicUrl url).text))

/-- What a call comes to: what is read in the body of the answer. -/
def resultOver (codec : Codec α) (network : Network) : Except Fault α :=
  match client.bodyOver call network with
  | .error fault => .error fault
  | .ok body => (decodeText codec.read body.toList).mapError Fault.json

/-- One request was made on the way, the one of the call, and at most one reply
was used.  A call that leads nowhere makes no request. -/
structure AskedOnce (w w' : World σ) : Prop where
  sent : ∀ url, client.resolve call = .ok url →
    ∃ attempt, w'.attempts = w.attempts ++ [attempt] ∧
      attempt.request = client.requestOf call url
  unsent : ∀ fault, client.resolve call = .error fault → w'.attempts = w.attempts
  used : w'.network.used ≤ w.network.used + 1

variable {client call}

theorem AskedOnce.of_error {fault : Fault} (h : client.resolve call = .error fault)
    (w : World σ) : AskedOnce client call w w where
  sent url hurl := by
    rw [h] at hurl
    contradiction
  unsent _ _ := rfl
  used := Nat.le_add_right _ 1

theorem AskedOnce.of_attempt {url : Url} (h : client.resolve call = .ok url) {w w' : World σ}
    {attempt : Attempt σ} (hrequest : attempt.request = client.requestOf call url)
    (hattempts : w'.attempts = w.attempts ++ [attempt])
    (hused : w'.network.used ≤ w.network.used + 1) : AskedOnce client call w w' where
  sent url' hurl := by
    obtain rfl : url = url' := Except.ok.inj (h.symm.trans hurl)
    exact ⟨attempt, hattempts, hrequest⟩
  unsent fault hfault := by
    rw [h] at hfault
    contradiction
  used := hused

/-- All that was added is the request of the call, if it leads somewhere. -/
theorem AskedOnce.exists_made {w w' : World σ} (h : AskedOnce client call w w') :
    ∃ made, w'.attempts = w.attempts ++ made ∧ made.length ≤ 1 ∧
      ∀ attempt ∈ made, ∃ url, client.resolve call = .ok url ∧
        attempt.request = client.requestOf call url := by
  cases hresolve : client.resolve call with
  | error fault =>
      refine ⟨[], ?_, Nat.zero_le 1, fun _ hmem => absurd hmem List.not_mem_nil⟩
      rw [h.unsent fault hresolve, List.append_nil]
  | ok url =>
      obtain ⟨attempt, hattempts, hrequest⟩ := h.sent url hresolve
      refine ⟨[attempt], hattempts, Nat.le_refl 1, ?_⟩
      intro other hother
      rw [List.mem_singleton.mp hother]
      exact ⟨url, rfl, hrequest⟩

theorem exchange_used_le (network : Network) (url : Url) :
    (network.exchange url).2.used ≤ network.used + 1 := by
  rw [Network.exchange]
  split
  · exact Nat.le_refl _
  · exact Nat.le_add_right _ 1

theorem send_askedOnce {url : Url} (h : client.resolve call = .ok url) (w : World σ) :
    AskedOnce client call w ((World.send (client.requestOf call url)).run w).2 := by
  cases hdestination : (client.requestOf call url).destination with
  | error fault =>
      rw [World.run_send_of_error hdestination]
      exact .of_attempt h rfl rfl (Nat.le_add_right _ 1)
  | ok url =>
      rw [World.run_send_of_ok hdestination]
      exact .of_attempt h rfl rfl (exchange_used_le w.network url)

/-- What is read in an outcome is what the reply comes to. -/
theorem readOutcome_exchange (limit : Duration) (network : Network) (url : Url) :
    readOutcome limit (network.exchange url).1 =
      if network.delivers url then (network.reply network.used).body limit url
      else .error (.transport (.unreachable (Request.publicUrl url).text)) := by
  rw [Network.exchange]
  split
  case isFalse => rfl
  case isTrue =>
    cases network.reply network.used with
    | hangUp => rfl
    | silence => rfl
    | answer status body =>
        have hsuccess : isSuccess status = decide (200 ≤ status ∧ status < 300) := by
          rw [isSuccess, Bool.decide_and]
        simp only [readOutcome, Reply.body, hsuccess, decide_eq_true_eq]
        cases body <;> rfl

theorem runFrom_execute (client : Client) (call : Call) (w : World σ) :
    ((client.execute call).runFrom w).1 = client.bodyOver call w.network ∧
      AskedOnce client call w ((client.execute call).runFrom w).2 := by
  rw [bodyOver, execute, Action.runFrom_bind]
  cases h : client.resolve call with
  | error fault => exact ⟨rfl, .of_error h w⟩
  | ok url =>
      have hasked := send_askedOnce h w
      refine ⟨?_, hasked⟩
      change readOutcome client.limit ((World.send (client.requestOf call url)).run w).1 = _
      cases hdestination : (client.requestOf call url).destination with
      | error fault =>
          rw [World.run_send_of_error hdestination]
          simp only [hdestination]
          rfl
      | ok url' =>
          rw [World.run_send_of_ok hdestination]
          simp only [hdestination]
          exact readOutcome_exchange client.limit w.network url'

end Client

end BillingAccess
