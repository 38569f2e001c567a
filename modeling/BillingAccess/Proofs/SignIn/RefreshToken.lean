/-
Which refresh token a session has, over a course of operations.

It is the last one that was delivered since the user signed out.  A sign-in
that is granted no refresh token does not take the older one away, so what a
refresh sends may have been issued to an earlier sign-in.
-/
import BillingAccess.Proofs.SignIn.Delivery

namespace BillingAccess.SignIn

open BillingAccess.Action Unreliable Session

variable {σ : Type}

/-- The refresh token that a request carries. -/
def refreshTokenOf? (request : Request) : Option String :=
  match request.payload with
  | .form pairs =>
      if pairs.lookup "grant_type" == some "refresh_token" then pairs.lookup "refresh_token"
      else none
  | _ => none

namespace Event

/-- The refresh tokens that an event sent. -/
def refreshTokens (event : Event σ) : List String :=
  event.attempts.filterMap fun attempt => refreshTokenOf? attempt.request

/-- The refresh token that an event received. -/
def delivered (event : Event σ) : Option String :=
  SignIn.delivered event.before event.after

/-- A callback that succeeded. -/
def isLogin (event : Event σ) : Bool :=
  match event.operation with
  | .callback _ => event.result.isOk
  | _ => false

end Event

/-- The refresh tokens that the last sign-in and the refreshes after it received. -/
def tokensSinceLogin (events : List (Event σ)) : List String :=
  events.foldl (fun tokens event =>
    if event.isLogin then event.delivered.toList
    else if event.operation = .refresh then tokens ++ event.delivered.toList
    else tokens) []

/-- Nothing of an earlier sign-in is sent or left by a later one. -/
structure LatestLoginOnly (events : List (Event Unreliable)) : Prop where
  sent : ∀ earlier event later, events = earlier ++ event :: later →
    ∀ token ∈ event.refreshTokens, token ∈ tokensSinceLogin earlier
  left : ∀ earlier login later, events = earlier ++ login :: later → login.isLogin →
    ∀ other ∈ earlier, other.isLogin → ∀ token, other.delivered = some token →
      login.after.store.slots .refreshToken = some token → login.delivered = some token

/-- The last sign-in that was granted a refresh token, and what followed it:
nobody has signed out, and only refreshes have brought another token. -/
structure SinceGranted (events : List (Event σ)) (login : Event σ) (after : List (Event σ)) :
    Prop where
  part : ∃ before, events = before ++ login :: after
  succeeded : login.isLogin
  granted : login.delivered.isSome
  signedIn : ∀ event ∈ after, event.operation ≠ .logout
  refreshed : ∀ event ∈ after, event.delivered.isSome → event.operation = .refresh

/-- The last refresh token that was received. -/
def lastDelivered (events : List (Event σ)) : Option String :=
  (events.filterMap Event.delivered).getLast?

/-- A refresh sends the last token that was delivered since the last sign-in
with one, and a sign-in leaves the token that it is granted, or what was there. -/
structure LatestGrantedLoginOnly (events : List (Event Unreliable)) : Prop where
  sent : ∀ earlier event later, events = earlier ++ event :: later →
    ∀ token ∈ event.refreshTokens, ∃ login after, SinceGranted earlier login after ∧
      lastDelivered (login :: after) = some token
  left : ∀ event ∈ events, event.isLogin →
    event.after.store.slots .refreshToken =
      event.delivered.or (event.before.store.slots .refreshToken)

/-- Only the token that is kept is sent. -/
theorem refreshTokens_held (app : Application) (operation : Operation) (w : World Unreliable)
    {token : String} (h : token ∈ (operation.event app w).refreshTokens) :
    w.store.slots .refreshToken = some token := by
  by_cases hstart : operation = .start
  · subst hstart
    rw [Event.refreshTokens, start_no_attempts] at h
    contradiction
  · rw [Event.refreshTokens] at h
    rcases act_cases app hstart w with hquiet | ⟨held, attempt, hheld, hsends⟩ |
      ⟨url, attempt, -, hexchanges⟩
    · rw [hquiet.no_attempts (operation.event app w)] at h
      contradiction
    · rw [hsends.one_attempt (operation.event app w)] at h
      have hcarried : refreshTokenOf? attempt.request = some held := by
        rw [hsends.request]
        rfl
      simp only [List.filterMap_cons, hcarried, List.filterMap_nil, List.mem_singleton] at h
      rw [h, hheld]
    · obtain ⟨code, verifier, -, hsends⟩ := hexchanges.sent
      rw [hsends.one_attempt (operation.event app w)] at h
      have hcarried : refreshTokenOf? attempt.request = none := by
        rw [hsends.request]
        rfl
      simp only [List.filterMap_cons, hcarried, List.filterMap_nil] at h
      contradiction

/-- What an operation other than signing out makes of the refresh token. -/
structure Handled (event : Event Unreliable) : Prop where
  neverFails : event.after.store.NeverFails
  slot : event.after.store.slots .refreshToken =
    event.delivered.or (event.before.store.slots .refreshToken)
  source : event.delivered.isSome → event.isLogin ∨
    event.operation = .refresh ∧ (event.before.store.slots .refreshToken).isSome

theorem handled_of_calm {event : Event Unreliable} (h : Calm event.before event.after)
    (hw : event.before.store.NeverFails) : Handled event := by
  have hkeeping := Keeping.of_calm h hw event.result
  refine ⟨hkeeping.neverFails, hkeeping.slot, ?_⟩
  intro hdelivered
  rw [Event.delivered, delivered, granted_of_network h.network] at hdelivered
  contradiction

theorem handled_of_keeping {event : Event Unreliable} {α : Type} {result : Except Fault α}
    (h : Keeping event.before result event.after)
    (hsource : (granted event.before event.after).isSome → event.isLogin ∨
      event.operation = .refresh ∧ (event.before.store.slots .refreshToken).isSome) :
    Handled event :=
  ⟨h.neverFails, h.slot, fun hdelivered => hsource (granted_of_delivered hdelivered)⟩

theorem callback_handled (app : Application) (url : Url) {w : World Unreliable}
    (hw : w.store.NeverFails) : Handled ((Operation.callback url).event app w) := by
  have hkeeping := handleCallback_keeping app url hw
  rcases hrun : (handleCallback app url).runFrom w with ⟨result, w'⟩
  rw [hrun] at hkeeping
  have hevent : (Operation.callback url).event app w =
      ⟨.callback url, w, result.map Answer.user, w'⟩ := by
    simp only [Operation.event, Operation.act, runFrom_map, hrun]
  rw [hevent]
  refine handled_of_keeping hkeeping fun hgranted => Or.inl ?_
  cases result with
  | ok user => rfl
  | error fault => exact absurd (hkeeping.ok hgranted) Bool.false_ne_true

theorem refresh_handled (app : Application) {w : World Unreliable}
    (hw : w.store.NeverFails) : Handled (Operation.refresh.event app w) := by
  have hkeeping := refresh_keeping app hw
  have hnone := refresh_granted app (w := w)
  rcases hrun : (refresh app).runFrom w with ⟨result, w'⟩
  rw [hrun] at hkeeping hnone
  have hevent : Operation.refresh.event app w =
      ⟨.refresh, w, result.map Answer.user, w'⟩ := by
    simp only [Operation.event, Operation.act, runFrom_map, hrun]
  rw [hevent]
  refine handled_of_keeping hkeeping fun hgranted => Or.inr ⟨rfl, ?_⟩
  cases hheld : w.store.slots .refreshToken with
  | none =>
      rw [hnone hheld] at hgranted
      contradiction
  | some token => rfl

theorem handled (app : Application) {operation : Operation} (hlogout : operation ≠ .logout)
    {w : World Unreliable} (hw : w.store.NeverFails) : Handled (operation.event app w) := by
  cases operation with
  | logout => contradiction
  | callback url => exact callback_handled app url hw
  | refresh => exact refresh_handled app hw
  | start => exact handled_of_calm ((start_silent setPending_others app).map Answer.started w) hw
  | currentUser => exact handled_of_calm (currentUser_calm.map Answer.user w) hw
  | accessToken => exact handled_of_calm ((accessToken_silent read_others).map Answer.token w) hw

theorem lastDelivered_append (events : List (Event σ)) (event : Event σ) :
    lastDelivered (events ++ [event]) = event.delivered.or (lastDelivered events) := by
  rw [lastDelivered, List.filterMap_append, List.getLast?_append]
  cases hevent : event.delivered <;> simp [hevent, lastDelivered]

theorem SinceGranted.append {events after : List (Event σ)} {login event : Event σ}
    (h : SinceGranted events login after) (hlogout : event.operation ≠ .logout)
    (hrefresh : event.delivered.isSome → event.operation = .refresh) :
    SinceGranted (events ++ [event]) login (after ++ [event]) := by
  obtain ⟨before, rfl⟩ := h.part
  refine ⟨⟨before, by simp⟩, h.succeeded, h.granted, ?_, ?_⟩
  · exact List.forall_mem_append.mpr ⟨h.signedIn, List.forall_mem_singleton.mpr hlogout⟩
  · exact List.forall_mem_append.mpr ⟨h.refreshed, List.forall_mem_singleton.mpr hrefresh⟩

/-- The refresh token that is kept, if there is one, was delivered last since a
sign-in that was granted one. -/
def Traced (history : List (Event Unreliable)) (w : World Unreliable) : Prop :=
  w.store.NeverFails ∧ ∀ token, w.store.slots .refreshToken = some token →
    ∃ login after, SinceGranted history login after ∧ lastDelivered (login :: after) = some token

/-- Nothing is kept that would have to be traced. -/
theorem traced_of_empty {history : List (Event Unreliable)} {w : World Unreliable}
    (hnever : w.store.NeverFails) (hempty : w.store.slots .refreshToken = none) :
    Traced history w := by
  refine ⟨hnever, ?_⟩
  intro token htoken
  rw [hempty] at htoken
  contradiction

/-- A sign-in that is granted a refresh token begins anew. -/
theorem traced_of_login {event : Event Unreliable} (h : Handled event)
    (hlogin : event.isLogin) (hgranted : event.delivered.isSome)
    (history : List (Event Unreliable)) : Traced (history ++ [event]) event.after := by
  refine ⟨h.neverFails, ?_⟩
  intro token htoken
  rw [h.slot] at htoken
  refine ⟨event, [], ⟨⟨history, rfl⟩, hlogin, hgranted, by simp, by simp⟩, ?_⟩
  obtain ⟨received, hreceived⟩ := Option.isSome_iff_exists.mp hgranted
  rw [hreceived] at htoken
  simpa [lastDelivered, hreceived] using htoken

/-- A session that goes on has had a token before. -/
theorem traced_of_other {event : Event Unreliable} {history : List (Event Unreliable)}
    (htraced : Traced history event.before) (h : Handled event)
    (hlogout : event.operation ≠ .logout)
    (hother : event.delivered.isSome → ¬ event.isLogin) :
    Traced (history ++ [event]) event.after := by
  have hrefresh : event.delivered.isSome → event.operation = .refresh ∧
      (event.before.store.slots .refreshToken).isSome := by
    intro hdelivered
    rcases h.source hdelivered with hlogin | hsource
    · exact absurd hlogin (hother hdelivered)
    · exact hsource
  refine ⟨h.neverFails, ?_⟩
  intro token htoken
  rw [h.slot] at htoken
  obtain ⟨held, hheld⟩ : ∃ held, event.before.store.slots .refreshToken = some held := by
    cases hdelivered : event.delivered with
    | some received =>
        apply Option.isSome_iff_exists.mp
        exact (hrefresh (by rw [hdelivered]; rfl)).2
    | none =>
        rw [hdelivered, Option.none_or] at htoken
        exact ⟨token, htoken⟩
  obtain ⟨login, after, hsince, hlast⟩ := htraced.2 held hheld
  refine ⟨login, after ++ [event], ?_, ?_⟩
  · exact hsince.append hlogout fun hdelivered => (hrefresh hdelivered).1
  · rw [← List.cons_append, lastDelivered_append, hlast, ← hheld]
    exact htoken

theorem event_traced (app : Application) (history : List (Event Unreliable))
    (operation : Operation) (w : World Unreliable) (h : Traced history w) :
    Traced (history ++ [operation.event app w]) (operation.event app w).after := by
  by_cases hlogout : operation = .logout
  · subst hlogout
    have hslot := logout_slot h.1
    have hafter : (Operation.logout.event app w).after = (logout.runFrom w).2 := by
      simp only [Operation.event, Operation.act, runFrom_map]
    rw [← hafter] at hslot
    exact traced_of_empty hslot.1 hslot.2
  · have hhandled := handled app hlogout h.1
    by_cases hlogin : (operation.event app w).isLogin
    · by_cases hgranted : (operation.event app w).delivered.isSome
      · exact traced_of_login hhandled hlogin hgranted history
      · exact traced_of_other h hhandled hlogout fun hdelivered => absurd hdelivered hgranted
    · exact traced_of_other h hhandled hlogout fun _ => hlogin

/-- What is sent by a refresh, and what a sign-in leaves. -/
theorem refresh_token_of_latest_granted_login (app : Application) {w : World Unreliable}
    (hnever : w.store.NeverFails) (hempty : w.store.slots = Slots.empty)
    (operations : List Operation) :
    LatestGrantedLoginOnly (course app w operations) := by
  have hinit : Traced [] w := traced_of_empty hnever (by rw [hempty]; rfl)
  constructor
  · intro earlier event later hsplit token htoken
    obtain ⟨⟨-, htraced⟩, hevent⟩ := course_invariant (event_traced app) [] hinit hsplit
    rw [hevent] at htoken
    exact htraced token (refreshTokens_held app event.operation event.before htoken)
  · intro event hmem hlogin
    obtain ⟨earlier, later, hsplit⟩ := List.append_of_mem hmem
    obtain ⟨⟨hbefore, -⟩, hevent⟩ := course_invariant (event_traced app) [] hinit hsplit
    have hlogout : event.operation ≠ .logout := by
      intro hoperation
      rw [Event.isLogin, hoperation] at hlogin
      contradiction
    have hhandled := handled app hlogout hbefore
    rw [← hevent] at hhandled
    exact hhandled.slot

/-! Two sign-ins: the first is granted a refresh token with its code, the second
brings its token with it, and then the session is refreshed. -/

namespace TwoLogins

def app : Application :=
  ⟨"http://iam", "web", "http://app/callback", defaultScopes⟩

def world : World Unreliable where
  store := ⟨Slots.empty, fun _ _ => none, 0⟩
  now := 0
  random := ⟨fun _ => 0, 0⟩
  network :=
    let answer := "\x7b\"access_token\":\"a\",\"refresh_token\":\"r\"\x7d"
    { reply := fun _ => .answer 200 (some (Utf8.ofString answer)) }

def code : Operation :=
  .callback { scheme := "http", query := some "code=c&state=00000000000000000000000000000000" }

def token : Operation :=
  .callback { scheme := "http", fragment := some "access_token=b" }

def operations : List Operation :=
  [.start, code, token, .refresh]

end TwoLogins

/-- The refresh sends what was issued to the first sign-in. -/
theorem refresh_token_of_earlier_login :
    TwoLogins.world.store.NeverFails ∧ TwoLogins.world.store.slots = Slots.empty ∧
      ¬ LatestLoginOnly (course TwoLogins.app TwoLogins.world TwoLogins.operations) := by
  refine ⟨fun _ _ => rfl, rfl, ?_⟩
  intro h
  let start := Operation.start.event TwoLogins.app TwoLogins.world
  let first := TwoLogins.code.event TwoLogins.app start.after
  let second := TwoLogins.token.event TwoLogins.app first.after
  let last := Operation.refresh.event TwoLogins.app second.after
  have hsent : "r" ∈ last.refreshTokens := by decide +kernel
  have hlatest := h.sent [start, first, second] last [] rfl "r" hsent
  exact absurd hlatest (by decide +kernel)

/-- The same course has a sign-in that was granted what the refresh sends. -/
theorem refresh_token_of_first_login :
    LatestGrantedLoginOnly (course TwoLogins.app TwoLogins.world TwoLogins.operations) ∧
      (course TwoLogins.app TwoLogins.world TwoLogins.operations).flatMap Event.refreshTokens =
        ["r"] :=
  ⟨refresh_token_of_latest_granted_login TwoLogins.app (fun _ _ => rfl) rfl TwoLogins.operations,
    by decide +kernel⟩

end BillingAccess.SignIn
