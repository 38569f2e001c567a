/-
A sign-in receives nobody and prints nothing.

Visitors are received and lines are printed by the commands around it.  Its own
steps leave both alone, and no request that was made is taken back.
-/
import BillingAccess.Proofs.SignIn.Course

namespace BillingAccess.SignIn

open BillingAccess.Action Session

variable {σ α : Type}

/-- No visitor is received, no line is printed, and the requests that were made
stay. -/
structure Secluded (w w' : World σ) : Prop where
  visitors : w'.visitors = w.visitors
  replies : w'.replies = w.replies
  printed : w'.printed = w.printed
  attempts : w.attempts <+: w'.attempts

instance : Std.Refl (Secluded (σ := σ)) :=
  ⟨fun w => ⟨rfl, rfl, rfl, w.attempts.prefix_refl⟩⟩

instance : IsTrans (World σ) Secluded :=
  ⟨fun _ _ _ h h' => ⟨h'.visitors.trans h.visitors, h'.replies.trans h.replies,
    h'.printed.trans h.printed, h.attempts.trans h'.attempts⟩⟩

theorem onStore_secluded (action : Action σ α) : Keeps Secluded (World.onStore action) :=
  fun w => ⟨rfl, rfl, rfl, w.attempts.prefix_refl⟩

theorem readStore_secluded (reading : StateM σ α) :
    Keeps Secluded (always (World.readStore reading)) := by
  rw [always_readStore]
  exact onStore_secluded _

theorem setStage_secluded (stage : Stage) :
    Keeps Secluded (always (World.setStage (σ := σ) stage)) :=
  fun w => ⟨rfl, rfl, rfl, w.attempts.prefix_refl⟩

theorem readClock_secluded : Keeps Secluded (always (World.readClock (σ := σ))) := by
  intro w
  rw [runFrom_always, World.run_readClock]
  exact ⟨rfl, rfl, rfl, w.attempts.prefix_refl⟩

theorem send_secluded (request : Request) :
    Keeps Secluded (always (World.send (σ := σ) request)) := by
  intro w
  rw [runFrom_always]
  cases hdestination : request.destination with
  | ok url =>
      rw [World.run_send_of_ok hdestination]
      exact ⟨rfl, rfl, rfl, List.prefix_append _ _⟩
  | error fault =>
      rw [World.run_send_of_error hdestination]
      exact ⟨rfl, rfl, rfl, List.prefix_append _ _⟩

theorem requestGrant_secluded (app : Application) (form : List (String × String)) :
    Keeps Secluded (requestGrant (σ := σ) app form) :=
  Keeps.bind (send_secluded _) fun _ => Keeps.ofExcept _

variable [TokenStore σ]

theorem storeGrant_secluded (grant : Grant) : Keeps Secluded (storeGrant (σ := σ) grant) :=
  Keeps.bind readClock_secluded fun _ => onStore_secluded _

theorem currentUser_secluded : Keeps Secluded (always (currentUser (σ := σ))) := by
  rw [currentUser, SignIn.accessToken, bind_assoc, always_bind]
  refine Keeps.bind readClock_secluded fun now => ?_
  rw [always_bind]
  exact Keeps.bind (readStore_secluded _) fun _ => Keeps.pure _

theorem acceptToken_secluded (token : String) (lifetime : Option UInt64) :
    Keeps Secluded (acceptToken (σ := σ) token lifetime) :=
  Keeps.bind readClock_secluded fun _ =>
    Keeps.bind (onStore_secluded _) fun _ =>
      Keeps.bind (onStore_secluded _) fun _ => currentUser_secluded

theorem exchangeCode_secluded (app : Application) (code verifier : String) :
    Keeps Secluded (exchangeCode (σ := σ) app code verifier) :=
  Keeps.bind (onStore_secluded _) fun _ =>
    Keeps.bind (requestGrant_secluded app _) fun grant =>
      Keeps.bind (storeGrant_secluded grant) fun _ => currentUser_secluded

theorem exchangeChecked_secluded (app : Application) (callback : Callback) (code : String) :
    Keeps Secluded (exchangeChecked (σ := σ) app callback code) := by
  refine Keeps.bind (readStore_secluded _) fun kept => ?_
  split
  · exact Keeps.throw _
  · refine Keeps.bind (readStore_secluded _) fun held => ?_
    cases held with
    | none => exact Keeps.throw _
    | some verifier => exact exchangeCode_secluded app code verifier

theorem processCallback_secluded (app : Application) (callback : Callback) :
    Keeps Secluded (processCallback (σ := σ) app callback) := by
  obtain ⟨code, state, error, description, token, lifetime⟩ := callback
  cases error with
  | some error => exact Keeps.throw _
  | none =>
      cases code with
      | some code => exact exchangeChecked_secluded app _ code
      | none =>
          cases token with
          | none => exact Keeps.throw _
          | some token => exact acceptToken_secluded token _

theorem settle_secluded (result : Except Fault (Option Identity)) :
    Keeps Secluded (settle (σ := σ) result) := by
  cases result with
  | ok user => exact Keeps.bind (setStage_secluded _) fun _ => Keeps.pure user
  | error fault =>
      refine Keeps.bind (onStore_secluded _).outcome fun _ => ?_
      exact Keeps.bind (setStage_secluded _) fun _ => Keeps.throw fault

theorem handleCallback_secluded (app : Application) (url : Url) :
    Keeps Secluded (handleCallback (σ := σ) app url) :=
  Keeps.bind (setStage_secluded _) fun _ =>
    Keeps.bind (processCallback_secluded app _).outcome settle_secluded

/-- A start that succeeds has kept its secrets, and has done nothing else than
draw them. -/
theorem exists_of_runFrom_start {app : Application} {w started : World σ}
    {request : AuthorizationRequest} (h : (start app).runFrom w = (.ok request, started)) :
    ∃ store random,
      (setPending request.pkce.state request.pkce.verifier).runFrom w.store = (.ok (), store) ∧
      started = { w with store := store, random := random, stage := .authorizing } := by
  obtain ⟨pkce, drawn, hdrawn, h⟩ := exists_of_runFrom_bind h
  obtain ⟨_, kept, hkept, h⟩ := exists_of_runFrom_bind h
  obtain ⟨url, parsed, hparsed, h⟩ := exists_of_runFrom_bind h
  obtain ⟨hurl, rfl⟩ := Prod.mk.inj hparsed
  obtain ⟨hrequest, rfl⟩ := Prod.mk.inj h
  obtain rfl := Except.ok.inj hrequest
  obtain ⟨-, rfl⟩ := Prod.mk.inj hdrawn
  rw [runFrom_onStore] at hkept
  obtain ⟨hresult, rfl⟩ := Prod.mk.inj hkept
  exact ⟨_, _, Prod.ext hresult rfl, rfl⟩

end BillingAccess.SignIn
