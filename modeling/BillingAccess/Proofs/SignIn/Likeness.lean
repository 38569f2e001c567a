/-
A sign-in does the same in worlds whose stores do the same, wherever it stood
before.

The worlds have to show the same time, draw the same bytes and hear the same
replies; of the requests only those count that were made since some moment.
-/
import BillingAccess.Proofs.Session.Likeness
import BillingAccess.Proofs.SignIn.Course

namespace BillingAccess.SignIn

open BillingAccess.Action Session

variable {σ τ α : Type} {R : σ → τ → Prop} {n m : Nat}

/-- What is seen of a request from outside. -/
def seen (attempt : Attempt σ) : Request × Bool :=
  (attempt.request, attempt.delivered)

/-- Worlds alike, with the same requests after the first `n` and `m`.  The
stages do not matter. -/
structure LikeWorlds (R : σ → τ → Prop) (n m : Nat) (w : World σ) (v : World τ) : Prop where
  store : R w.store v.store
  now : w.now = v.now
  later : w.later = v.later
  random : w.random = v.random
  network : w.network = v.network
  enough : n ≤ w.attempts.length ∧ m ≤ v.attempts.length
  attempts : (w.attempts.drop n).map seen = (v.attempts.drop m).map seen

theorem setStage_alike (stage stage' : Stage) :
    Alike (LikeWorlds R n m) (always (World.setStage stage)) (always (World.setStage stage')) :=
  fun _ _ h => ⟨rfl, ⟨h.store, h.now, h.later, h.random, h.network, h.enough, h.attempts⟩⟩

theorem onStore_alike {first : Action σ α} {second : Action τ α} (h : Alike R first second) :
    Alike (LikeWorlds R n m) (World.onStore first) (World.onStore second) := by
  intro w v hlike
  obtain ⟨hresult, hstore⟩ := h w.store v.store hlike.store
  rw [runFrom_onStore, runFrom_onStore]
  exact ⟨hresult, ⟨hstore, hlike.now, hlike.later, hlike.random, hlike.network, hlike.enough,
    hlike.attempts⟩⟩

theorem readStore_alike {first : StateM σ α} {second : StateM τ α}
    (h : Alike R (always first) (always second)) :
    Alike (LikeWorlds R n m) (always (World.readStore first))
      (always (World.readStore second)) := by
  rw [always_readStore, always_readStore]
  exact onStore_alike h

theorem readClock_alike :
    Alike (LikeWorlds R n m) (always World.readClock) (always World.readClock) := by
  intro w v h
  obtain ⟨store, now, later, random, network, stage, attempts, visitors, replies, printed⟩ := w
  obtain ⟨store', now', later', random', network', stage', attempts', visitors', replies',
    printed'⟩ := v
  obtain ⟨hstore, rfl, rfl, hrandom, hnetwork, henough, hattempts⟩ := h
  cases later with
  | nil => exact ⟨rfl, ⟨hstore, rfl, rfl, hrandom, hnetwork, henough, hattempts⟩⟩
  | cons time later => exact ⟨rfl, ⟨hstore, rfl, rfl, hrandom, hnetwork, henough, hattempts⟩⟩

theorem drawPkce_alike : Alike (LikeWorlds R n m) (always drawPkce) (always drawPkce) := by
  intro w v h
  have hdraw (σ : Type) (w : World σ) : drawPkce.run w = ((Pkce.generate w.random).1,
      { w with random := (Pkce.generate w.random).2 }) := rfl
  rw [runFrom_always, runFrom_always, hdraw, hdraw, h.random]
  exact ⟨rfl, ⟨h.store, h.now, h.later, rfl, h.network, h.enough, h.attempts⟩⟩

theorem LikeWorlds.add {w : World σ} {v : World τ} (h : LikeWorlds R n m w v)
    (first : Attempt σ) (second : Attempt τ) (hseen : seen first = seen second) :
    (n ≤ (w.attempts ++ [first]).length ∧ m ≤ (v.attempts ++ [second]).length) ∧
      ((w.attempts ++ [first]).drop n).map seen =
        ((v.attempts ++ [second]).drop m).map seen := by
  obtain ⟨hn, hm⟩ := h.enough
  refine ⟨?_, ?_⟩
  · rw [List.length_append, List.length_append]
    omega
  · rw [List.drop_append_of_le_length hn, List.drop_append_of_le_length hm, List.map_append,
      List.map_append, h.attempts, List.map_singleton, List.map_singleton, hseen]

theorem send_alike (request : Request) :
    Alike (LikeWorlds R n m) (always (World.send request)) (always (World.send request)) := by
  intro w v h
  rw [runFrom_always, runFrom_always]
  cases hdestination : request.destination with
  | error fault =>
      obtain ⟨henough, hattempts⟩ := h.add ⟨request, false, w.store⟩
        ⟨request, false, v.store⟩ rfl
      rw [World.run_send_of_error hdestination, World.run_send_of_error hdestination]
      exact ⟨rfl, ⟨h.store, h.now, h.later, h.random, h.network, henough, hattempts⟩⟩
  | ok url =>
      obtain ⟨henough, hattempts⟩ := h.add ⟨request, w.network.delivers url, w.store⟩
        ⟨request, w.network.delivers url, v.store⟩ rfl
      rw [World.run_send_of_ok hdestination, World.run_send_of_ok hdestination, ← h.network]
      exact ⟨rfl, ⟨h.store, h.now, h.later, h.random, rfl, henough, hattempts⟩⟩

theorem requestGrant_alike (app : Application) (form : List (String × String)) :
    Alike (LikeWorlds R n m) (requestGrant app form) (requestGrant app form) :=
  Alike.bind (send_alike _) fun _ => Alike.ofExcept _

variable [TokenStore σ] [TokenStore τ] (h : Interchangeable R)

include h

theorem accessToken_alike :
    Alike (LikeWorlds R n m) (always SignIn.accessToken) (always SignIn.accessToken) := by
  rw [SignIn.accessToken, always_bind, SignIn.accessToken, always_bind]
  exact Alike.bind readClock_alike fun now => readStore_alike (h.accessToken now)

theorem currentUser_alike :
    Alike (LikeWorlds R n m) (always currentUser) (always currentUser) := by
  rw [currentUser, always_bind, currentUser, always_bind]
  exact Alike.bind (accessToken_alike h) fun _ => Alike.pure _

theorem storeGrant_alike (grant : Grant) :
    Alike (LikeWorlds R n m) (storeGrant grant) (storeGrant grant) :=
  Alike.bind readClock_alike fun now => onStore_alike (h.storeTokens now _ _ _)

theorem acceptToken_alike (token : String) (lifetime : Option UInt64) :
    Alike (LikeWorlds R n m) (acceptToken token lifetime) (acceptToken token lifetime) :=
  Alike.bind readClock_alike fun now =>
    Alike.bind (onStore_alike (h.storeTokens now token none lifetime)) fun _ =>
      Alike.bind (onStore_alike (h.removeAll _)) fun _ => currentUser_alike h

theorem start_alike (app : Application) :
    Alike (LikeWorlds R n m) (start app) (start app) :=
  Alike.bind drawPkce_alike fun pkce =>
    Alike.bind (onStore_alike (h.setPending pkce.state pkce.verifier)) fun _ =>
      Alike.bind (Alike.ofExcept _) fun _ =>
        Alike.bind (setStage_alike _ _) fun _ => Alike.pure _

theorem exchangeCode_alike (app : Application) (code verifier : String) :
    Alike (LikeWorlds R n m) (exchangeCode app code verifier) (exchangeCode app code verifier) :=
  Alike.bind (onStore_alike (h.removeAll _)) fun _ =>
    Alike.bind (requestGrant_alike app _) fun grant =>
      Alike.bind (storeGrant_alike h grant) fun _ => currentUser_alike h

theorem exchangeChecked_alike (app : Application) (callback : Callback) (code : String) :
    Alike (LikeWorlds R n m) (exchangeChecked app callback code)
      (exchangeChecked app callback code) := by
  refine Alike.bind (readStore_alike (h.read .state)) fun kept => ?_
  split
  · exact Alike.throw _
  · refine Alike.bind (readStore_alike (h.read .codeVerifier)) fun held => ?_
    cases held with
    | none => exact Alike.throw _
    | some verifier => exact exchangeCode_alike h app code verifier

theorem processCallback_alike (app : Application) (callback : Callback) :
    Alike (LikeWorlds R n m) (processCallback app callback) (processCallback app callback) := by
  obtain ⟨code, state, error, description, token, lifetime⟩ := callback
  cases error with
  | some error => exact Alike.throw _
  | none =>
      cases code with
      | some code => exact exchangeChecked_alike h app _ code
      | none =>
          cases token with
          | none => exact Alike.throw _
          | some token => exact acceptToken_alike h token _

theorem settle_alike (result : Except Fault (Option Identity)) :
    Alike (LikeWorlds R n m) (settle result) (settle result) := by
  cases result with
  | ok user => exact Alike.bind (setStage_alike _ _) fun _ => Alike.pure user
  | error fault =>
      exact Alike.bind (onStore_alike (h.removeAll _)).outcome fun _ =>
        Alike.bind (setStage_alike _ _) fun _ => Alike.throw fault

theorem handleCallback_alike (app : Application) (url : Url) :
    Alike (LikeWorlds R n m) (handleCallback app url) (handleCallback app url) :=
  Alike.bind (setStage_alike _ _) fun _ =>
    Alike.bind (processCallback_alike h app _).outcome (settle_alike h)

theorem refresh_alike (app : Application) :
    Alike (LikeWorlds R n m) (refresh app) (refresh app) := by
  refine Alike.bind (readStore_alike (h.read .refreshToken)) fun held => ?_
  cases held with
  | none => exact Alike.throw _
  | some token =>
      refine Alike.bind (requestGrant_alike app _).outcome fun result => ?_
      cases result with
      | ok grant =>
          refine Alike.bind (storeGrant_alike h grant) fun _ => ?_
          exact Alike.bind (setStage_alike _ _) fun _ => currentUser_alike h
      | error fault => exact Alike.bind (setStage_alike _ _) fun _ => Alike.throw fault

theorem logout_alike : Alike (LikeWorlds R n m) logout logout :=
  Alike.bind (onStore_alike (h.removeAll _)) fun _ => setStage_alike _ _

/-- Every operation does the same in worlds alike. -/
theorem act_alike (app : Application) (operation : Operation) :
    Alike (LikeWorlds R n m) (operation.act app) (operation.act app) := by
  cases operation with
  | start => exact (start_alike h app).map _
  | callback url => exact (handleCallback_alike h app url).map _
  | refresh => exact (refresh_alike h app).map _
  | logout => exact (logout_alike h).map _
  | currentUser => exact (currentUser_alike h).map _
  | accessToken => exact (accessToken_alike h).map _

end BillingAccess.SignIn
