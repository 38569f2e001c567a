/-
The secrets of a sign-in are used once, whatever is asked for and in whatever
order, and whichever calls of the store fail.
-/
import BillingAccess.Proofs.SignIn.Secrets

namespace BillingAccess.SignIn

open BillingAccess.Action Unreliable Session

/-- The secrets that a start draws. -/
def Event.drawn {σ : Type} (event : Event σ) : Pkce :=
  (Pkce.generate event.before.random).1

theorem LatestStart.append {σ : Type} {events : List (Event σ)} {start event : Event σ}
    (h : LatestStart events start) (hevent : event.operation ≠ .start) :
    LatestStart (events ++ [event]) start := by
  obtain ⟨before, between, rfl, hstart, hbetween⟩ := h
  refine ⟨before, between ++ [event], by simp, hstart, ?_⟩
  exact List.forall_mem_append.mpr ⟨hbetween, List.forall_mem_singleton.mpr hevent⟩

end BillingAccess.SignIn
