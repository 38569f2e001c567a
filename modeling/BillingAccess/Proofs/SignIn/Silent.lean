/-
Steps of a sign-in that send nothing and hear nothing.

What such a step does to the store is all that it does, so a relation between
stores that its parts keep is kept by the step.
-/
import BillingAccess.Proofs.Session.Steps
import BillingAccess.Proofs.SignIn.Course

namespace BillingAccess.SignIn

open BillingAccess.Action Session

variable {σ α : Type} {R : σ → σ → Prop}

/-- Nothing is sent and nothing is heard, and the stores are related. -/
structure Silent (R : σ → σ → Prop) (w w' : World σ) : Prop where
  attempts : w'.attempts = w.attempts
  network : w'.network = w.network
  store : R w.store w'.store

instance [Std.Refl R] : Std.Refl (Silent R) :=
  ⟨fun w => ⟨rfl, rfl, refl_of R w.store⟩⟩

instance [IsTrans σ R] : IsTrans (World σ) (Silent R) :=
  ⟨fun _ _ _ h h' => ⟨h'.attempts.trans h.attempts, h'.network.trans h.network,
    trans_of R h.store h'.store⟩⟩

theorem Silent.no_attempts (event : Event σ) (h : Silent R event.before event.after) :
    event.attempts = [] := by
  apply Event.attempts_of_append
  rw [h.attempts, List.append_nil]

theorem onStore_silent {action : Action σ α} (h : Keeps R action) :
    Keeps (Silent R) (World.onStore action) :=
  h.onStore fun _ _ hstore => ⟨rfl, rfl, hstore⟩

theorem readStore_silent {reading : StateM σ α} (h : Keeps R (always reading)) :
    Keeps (Silent R) (always (World.readStore reading)) := by
  rw [always_readStore]
  exact onStore_silent h

variable [Std.Refl R]

theorem setStage_silent (stage : Stage) : Keeps (Silent R) (always (World.setStage stage)) :=
  fun w => ⟨rfl, rfl, refl_of R w.store⟩

theorem drawPkce_silent : Keeps (Silent R) (always drawPkce) :=
  fun w => ⟨rfl, rfl, refl_of R w.store⟩

theorem readClock_silent : Keeps (Silent R) (always World.readClock) := by
  intro w
  rw [runFrom_always, World.run_readClock]
  exact ⟨rfl, rfl, refl_of R w.store⟩

variable [IsTrans σ R] [TokenStore σ]

theorem start_silent (hset : ∀ state verifier, Keeps R (setPending state verifier))
    (app : Application) : Keeps (Silent R) (start app) := by
  refine Keeps.bind drawPkce_silent fun pkce => ?_
  refine Keeps.bind (onStore_silent (hset pkce.state pkce.verifier)) fun _ => ?_
  refine Keeps.bind (Keeps.ofExcept _) fun url => ?_
  exact Keeps.bind (setStage_silent _) fun _ => Keeps.pure _

theorem storeGrant_silent (grant : Grant)
    (hstore : ∀ now access refresh lifetime, Keeps R (storeTokens now access refresh lifetime)) :
    Keeps (Silent R) (storeGrant grant) :=
  Keeps.bind readClock_silent fun now => onStore_silent (hstore now _ _ _)

theorem logout_silent (hclear : Keeps R clear) : Keeps (Silent R) logout :=
  Keeps.bind (onStore_silent hclear) fun _ => setStage_silent _

theorem settle_silent (hclear : Keeps R clearPending) (result : Except Fault (Option Identity)) :
    Keeps (Silent R) (settle result) := by
  cases result with
  | ok user => exact Keeps.bind (setStage_silent _) fun _ => Keeps.pure user
  | error fault =>
      apply Keeps.bind (onStore_silent hclear).outcome
      intro _
      exact Keeps.bind (setStage_silent _) fun _ => Keeps.throw fault

variable (hread : ∀ slot, Keeps R (always (read slot)))

include hread

theorem accessToken_silent : Keeps (Silent R) (always SignIn.accessToken) := by
  rw [SignIn.accessToken, always_bind]
  apply Keeps.bind readClock_silent
  intro now
  exact readStore_silent (accessToken_keeps hread now)

theorem currentUser_silent : Keeps (Silent R) (always currentUser) := by
  rw [currentUser, always_bind]
  exact Keeps.bind (accessToken_silent hread) fun _ => Keeps.pure _

theorem acceptToken_silent {token : String} {lifetime : Option UInt64}
    (hstore : ∀ now, Keeps R (storeTokens now token none lifetime))
    (hclear : Keeps R clearPending) : Keeps (Silent R) (acceptToken token lifetime) := by
  apply Keeps.bind readClock_silent
  intro now
  apply Keeps.bind (onStore_silent (hstore now))
  intro _
  exact Keeps.bind (onStore_silent hclear) fun _ => currentUser_silent hread

end BillingAccess.SignIn
