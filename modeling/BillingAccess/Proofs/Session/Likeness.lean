/-
A session does the same on stores that do the same.
-/
import BillingAccess.Proofs.Likeness
import BillingAccess.Proofs.Session.Steps

namespace BillingAccess.Session

open BillingAccess.Action

variable {σ τ : Type} [TokenStore σ] [TokenStore τ] {R : σ → τ → Prop}

/-- Stores whose operations do the same. -/
structure Interchangeable (R : σ → τ → Prop) : Prop where
  get : ∀ slot, Alike R (TokenStore.get slot) (TokenStore.get slot)
  set : ∀ slot value, Alike R (TokenStore.set slot value) (TokenStore.set slot value)
  remove : ∀ slot, Alike R (TokenStore.remove slot) (TokenStore.remove slot)

namespace Interchangeable

variable (h : Interchangeable R)

include h

theorem read (slot : Slot) : Alike R (always (read slot)) (always (read slot)) := by
  intro s t hst
  obtain ⟨hresult, hstate⟩ := h.get slot s t hst
  rw [runFrom_always, runFrom_always, run_read, run_read, hresult]
  exact ⟨rfl, hstate⟩

theorem isLoggedIn (now : Int64) :
    Alike R (always (isLoggedIn now)) (always (isLoggedIn now)) := by
  rw [Session.isLoggedIn, always_bind, Session.isLoggedIn, always_bind]
  refine Alike.bind (h.read .accessToken) fun held => ?_
  cases held with
  | none => exact Alike.pure false
  | some token =>
      rw [always_bind, always_bind]
      refine Alike.bind (h.read .expiresAt) fun expiry => ?_
      cases expiry with
      | none => exact Alike.pure true
      | some time => exact Alike.pure _

theorem accessToken (now : Int64) :
    Alike R (always (accessToken now)) (always (accessToken now)) := by
  rw [Session.accessToken, always_bind, Session.accessToken, always_bind]
  refine Alike.bind (h.isLoggedIn now) fun signedIn => ?_
  cases signedIn with
  | false => exact Alike.pure none
  | true => exact h.read .accessToken

theorem setPending (state verifier : String) :
    Alike R (setPending state verifier) (setPending state verifier) :=
  Alike.bind (h.set .state state) fun _ => h.set .codeVerifier verifier

theorem writeTokens (now : Int64) (access : String) (refresh : Option String)
    (lifetime : Option UInt64) :
    Alike R (writeTokens now access refresh lifetime)
      (writeTokens now access refresh lifetime) := by
  refine Alike.bind (h.set .expiresAt _) fun _ => ?_
  cases refresh with
  | none => exact h.set .accessToken access
  | some refresh =>
      exact Alike.bind (h.set .refreshToken refresh) fun _ => h.set .accessToken access

theorem storeTokens (now : Int64) (access : String) (refresh : Option String)
    (lifetime : Option UInt64) :
    Alike R (storeTokens now access refresh lifetime)
      (storeTokens now access refresh lifetime) := by
  intro s t hst
  rcases (h.writeTokens now access refresh lifetime).cases hst with
    ⟨_, s', t', hfirst, hsecond, hstate⟩ | ⟨fault, s', t', hfirst, hsecond, hstate⟩
  · rw [runFrom_storeTokens_of_ok hfirst, runFrom_storeTokens_of_ok hsecond]
    exact ⟨rfl, hstate⟩
  · rw [runFrom_storeTokens_of_error hfirst, runFrom_storeTokens_of_error hsecond]
    exact ⟨rfl, (h.remove .accessToken s' t' hstate).2⟩

theorem removeAll (slots : List Slot) : Alike R (removeAll slots) (removeAll slots) := by
  induction slots with
  | nil => exact Alike.pure ()
  | cons slot rest ih =>
      intro s t hst
      rcases (h.remove slot).cases hst with ⟨_, s', t', hfirst, hsecond, hstate⟩ |
        ⟨fault, s', t', hfirst, hsecond, hstate⟩
      · rw [runFrom_removeAll_of_ok hfirst, runFrom_removeAll_of_ok hsecond]
        exact ih s' t' hstate
      · rw [runFrom_removeAll_of_error hfirst, runFrom_removeAll_of_error hsecond]
        exact ⟨rfl, (ih s' t' hstate).2⟩

end Interchangeable

end BillingAccess.Session
