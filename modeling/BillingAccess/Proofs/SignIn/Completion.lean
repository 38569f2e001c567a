/-
Completing a sign-in, wherever its secrets are kept.

A place that serves every call does what slots do that never fail, so a callback
that brings the state of the sign-in exchanges its code there as well.
-/
import BillingAccess.Proofs.SignIn.Exchange
import BillingAccess.Proofs.SignIn.Restart
import BillingAccess.Proofs.SignIn.Secluded
import BillingAccess.Proofs.Storage.Backends

namespace BillingAccess.SignIn

open BillingAccess.Action Session

/-- A code is exchanged by one request, and the token that is granted for it is
kept. -/
structure Completes {α : Type} (app : Application) (code verifier : String) (w : World Vault)
    (result : Except Fault α) (w' : World Vault) : Prop where
  asks : ∃ attempt, w'.attempts = w.attempts ++ [attempt] ∧
    AsksFor app code verifier attempt.request
  granted : ∀ grant,
    Yields (w.network.outcome (tokenRequest app (codeForm app code verifier))) (.ok grant) →
    result.isOk ∧ w'.store.held .accessToken = some grant.accessToken

/-- Requests that are seen alike ask for the same. -/
theorem exists_of_map_seen {σ τ : Type} {made : List (Attempt σ)} {attempt : Attempt τ}
    (h : made.map seen = [seen attempt]) :
    ∃ own, made = [own] ∧ own.request = attempt.request := by
  obtain ⟨own, hown, hsame⟩ := List.map_eq_singleton_iff.mp h
  exact ⟨own, hown, congrArg Prod.fst hsame⟩

variable {app : Application} {url : Url} {w : World Vault} {code verifier : String}

theorem handleCallback_completes (hserves : w.store.Serves)
    (herror : (Callback.ofUrl url).error = none)
    (hfits : Fits (Callback.ofUrl url) w.store.held code verifier) :
    Completes app code verifier w ((handleCallback app url).runFrom w).1
      ((handleCallback app url).runFrom w).2 := by
  let v : World Unreliable := handOver w ⟨w.store.held, fun _ _ => none, 0⟩
  have hnever : v.store.NeverFails := fun _ _ => rfl
  have houtside : SameOutside w v := ⟨rfl, rfl, rfl, rfl⟩
  obtain ⟨hresult, hafter⟩ := handleCallback_alike Vault.interchangeable_sameSlots app url w v
    (houtside.likeWorlds ⟨hserves, hnever, rfl⟩)
  let pending : World Unreliable := { v with stage := .callbackPending }
  have hexchanged : Exchanged app code verifier v ((handleCallback app url).runFrom v).2 := by
    rw [runFrom_handleCallback]
    exact (processCallback_exchanged app (w := pending) hnever herror hfits).handled
  have hsettles : Settles boundedExpiry
      (w.network.outcome (tokenRequest app (codeForm app code verifier))) w.now w.store.held
      ((handleCallback app url).runFrom v).1 ((handleCallback app url).runFrom v).2.store.slots := by
    rw [runFrom_handleCallback]
    exact (processCallback_settles app (w := pending) hnever herror hfits).handled
  constructor
  case asks =>
    obtain ⟨attempt, hattempts, hasks⟩ := hexchanged
    obtain ⟨made, hmade⟩ := (handleCallback_secluded app url w).attempts
    have hseen := hafter.attempts
    rw [← hmade, List.drop_left, hattempts] at hseen
    obtain ⟨own, rfl, hsame⟩ := exists_of_map_seen hseen
    refine ⟨own, hmade.symm, ?_⟩
    rwa [hsame]
  case granted =>
    intro grant hyields
    obtain ⟨hok, hholds⟩ := hsettles.granted grant hyields
    rw [hresult, hafter.store.held]
    exact ⟨hok, hholds.accessToken⟩

end BillingAccess.SignIn
