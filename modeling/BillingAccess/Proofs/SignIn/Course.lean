/-
A course of operations on a sign-in, in any order, and what comes of each.

The world that a course starts from settles all that is not in the program's
hands: what the clock will show, the random bytes, what the peers will reply,
and how the store behaves.
-/
import BillingAccess.Proofs.Action
import BillingAccess.SignIn.Flow

namespace BillingAccess

/-- What comes of a request that is made next. -/
def Network.outcome (network : Network) (request : Request) : Outcome :=
  match request.destination with
  | .ok url => (network.exchange url).1
  | .error fault => .failed fault

namespace SignIn

open BillingAccess.Action

variable {σ : Type}

/-- What a host can ask of a sign-in. -/
inductive Operation
  | start
  | callback (url : Url)
  | refresh
  | logout
  | currentUser
  | accessToken
deriving Repr, DecidableEq

/-- What an operation gives if it succeeds. -/
inductive Answer
  | started (request : AuthorizationRequest)
  | user (user : Option Identity)
  | token (token : Option String)
  | done

def Operation.act [TokenStore σ] (app : Application) : Operation → Action (World σ) Answer
  | start => Answer.started <$> SignIn.start app
  | callback url => Answer.user <$> handleCallback app url
  | refresh => Answer.user <$> SignIn.refresh app
  | logout => (fun _ => Answer.done) <$> SignIn.logout
  | currentUser => Answer.user <$> Action.always SignIn.currentUser
  | accessToken => Answer.token <$> Action.always SignIn.accessToken

/-- One operation of a course, with the worlds before and after it. -/
structure Event (σ : Type) where
  operation : Operation
  before : World σ
  result : Except Fault Answer
  after : World σ

/-- The requests that an operation made. -/
def Event.attempts (event : Event σ) : List (Attempt σ) :=
  event.after.attempts.drop event.before.attempts.length

def Operation.event [TokenStore σ] (app : Application) (operation : Operation) (w : World σ) :
    Event σ :=
  ⟨operation, w, ((operation.act app).runFrom w).1, ((operation.act app).runFrom w).2⟩

theorem Event.attempts_of_append {event : Event σ} {made : List (Attempt σ)}
    (h : event.after.attempts = event.before.attempts ++ made) : event.attempts = made := by
  rw [Event.attempts, h, List.drop_left]

/-- What comes of operations that are asked for one after another. -/
def course [TokenStore σ] (app : Application) : World σ → List Operation → List (Event σ)
  | _, [] => []
  | w, operation :: rest =>
      let event := operation.event app w
      event :: course app event.after rest

/-- The event is the last start among the events. -/
def LatestStart (events : List (Event σ)) (start : Event σ) : Prop :=
  ∃ before between, events = before ++ start :: between ∧ start.operation = .start ∧
    ∀ event ∈ between, event.operation ≠ .start

/-- What every event preserves, of the events so far and the world they have
led to, holds before each event of a course. -/
theorem course_invariant [TokenStore σ] {app : Application}
    {P : List (Event σ) → World σ → Prop}
    (hstep : ∀ history (operation : Operation) w, P history w →
      P (history ++ [operation.event app w]) (operation.event app w).after)
    (history : List (Event σ)) {w : World σ} (hinit : P history w)
    {operations : List Operation} {earlier later : List (Event σ)} {event : Event σ}
    (h : course app w operations = earlier ++ event :: later) :
    P (history ++ earlier) event.before ∧
      event = event.operation.event app event.before := by
  induction operations generalizing history w earlier with
  | nil => simp [course] at h
  | cons operation rest ih =>
      cases earlier with
      | nil =>
          obtain ⟨rfl, -⟩ := List.cons.inj h
          rw [List.append_nil]
          exact ⟨hinit, rfl⟩
      | cons first earlier =>
          obtain ⟨rfl, hrest⟩ := List.cons.inj h
          have hlater := ih _ (hstep history operation w hinit) hrest
          rwa [List.append_assoc] at hlater

/-- A callback is settled as it was decided while it was pending. -/
theorem runFrom_handleCallback [TokenStore σ] (app : Application) (url : Url) (w : World σ) :
    (handleCallback app url).runFrom w =
      (settle ((processCallback app (Callback.ofUrl url)).runFrom
          { w with stage := .callbackPending }).1).runFrom
        ((processCallback app (Callback.ofUrl url)).runFrom
          { w with stage := .callbackPending }).2 := by
  rw [handleCallback, runFrom_bind_of_ok (runFrom_always _ w),
    runFrom_bind_of_ok (runFrom_outcome _ _)]
  rfl

/-- The tokens that a reply grants. -/
def grantOf? : Reply → Option Grant
  | .answer status body => (Grant.ofOutcome (.answered status body)).toOption
  | .hangUp | .silence => none

/-- The replies that were used up between two states of the net. -/
def repliesBetween (network network' : Network) : List Reply :=
  (List.range' network.used (network'.used - network.used)).map network.reply

/-- One request has been made, with the store as it was and still is. -/
structure Sent (request : Request) (w : World σ) (outcome : Outcome) (w' : World σ)
    (attempt : Attempt σ) : Prop where
  attempts : w'.attempts = w.attempts ++ [attempt]
  store : w'.store = w.store
  asked : attempt.store = w.store
  request : attempt.request = request
  granted : (Grant.ofOutcome outcome).toOption =
    (repliesBetween w.network w'.network).findSome? grantOf?

@[simp] theorem repliesBetween_self (network : Network) : repliesBetween network network = [] := by
  simp [repliesBetween]

@[simp] theorem repliesBetween_next (network : Network) :
    repliesBetween network { network with used := network.used + 1 } =
      [network.reply network.used] := by
  simp [repliesBetween]

/-- Either nothing is heard from a peer, or its next reply. -/
theorem exchange_cases (network : Network) (url : Url) :
    (∃ fault, network.exchange url = (.failed fault, network)) ∨
      ∃ outcome, network.exchange url = (outcome, { network with used := network.used + 1 }) ∧
        (Grant.ofOutcome outcome).toOption = grantOf? (network.reply network.used) := by
  rw [Network.exchange]
  cases network.delivers url with
  | false => exact Or.inl ⟨_, rfl⟩
  | true =>
      right
      cases h : network.reply network.used with
      | answer status body => exact ⟨_, rfl, rfl⟩
      | hangUp => exact ⟨_, rfl, rfl⟩
      | silence => exact ⟨_, rfl, rfl⟩

theorem exists_sent (request : Request) (w : World σ) :
    ∃ outcome w' attempt, (World.send request).run w = (outcome, w') ∧
      Sent request w outcome w' attempt := by
  cases h : request.destination with
  | error fault =>
      refine ⟨_, _, ⟨request, false, w.store⟩, World.run_send_of_error h w, rfl, rfl, rfl, rfl, ?_⟩
      rw [repliesBetween_self]
      rfl
  | ok url =>
      refine ⟨_, _, ⟨request, w.network.delivers url, w.store⟩, World.run_send_of_ok h w,
        rfl, rfl, rfl, rfl, ?_⟩
      rcases exchange_cases w.network url with ⟨fault, hexchange⟩ | ⟨outcome, hexchange, hgrant⟩
      · simp only [hexchange, repliesBetween_self]
        rfl
      · simp only [hexchange, repliesBetween_next, hgrant, List.findSome?_singleton]

theorem exists_requested (app : Application) (form : List (String × String)) (w : World σ) :
    ∃ outcome w' attempt, (requestGrant app form).runFrom w = (Grant.ofOutcome outcome, w') ∧
      Sent (tokenRequest app form) w outcome w' attempt := by
  obtain ⟨outcome, w', attempt, hrun, hsent⟩ := exists_sent (tokenRequest app form) w
  refine ⟨outcome, w', attempt, ?_, hsent⟩
  rw [requestGrant, Action.runFrom_bind, Action.runFrom_always, hrun]
  rfl

theorem exists_run_send (request : Request) (w : World σ) :
    ∃ network attempt, (World.send request).run w = (w.network.outcome request,
        { w with attempts := w.attempts ++ [attempt], network := network }) ∧
      attempt.request = request := by
  rw [Network.outcome]
  cases h : request.destination with
  | ok url => exact ⟨_, _, World.run_send_of_ok h w, rfl⟩
  | error fault => exact ⟨w.network, _, World.run_send_of_error h w, rfl⟩

theorem exists_runFrom_requestGrant (app : Application) (form : List (String × String))
    (w : World σ) :
    ∃ network attempt, (requestGrant app form).runFrom w =
        (Grant.ofOutcome (w.network.outcome (tokenRequest app form)),
          { w with attempts := w.attempts ++ [attempt], network := network }) ∧
      attempt.request = tokenRequest app form := by
  obtain ⟨network, attempt, hrun, hrequest⟩ := exists_run_send (tokenRequest app form) w
  refine ⟨network, attempt, ?_, hrequest⟩
  rw [requestGrant, runFrom_bind_of_ok (runFrom_always _ w), hrun, runFrom_ofExcept]

theorem runFrom_storeGrant [TokenStore σ] (grant : Grant) (w : World σ) :
    (storeGrant grant).runFrom w =
      (((Session.storeTokens w.now grant.accessToken grant.refreshToken grant.lifetime).runFrom
          w.store).1,
        { w with
          now := w.nextTime, later := w.later.tail
          store := ((Session.storeTokens w.now grant.accessToken grant.refreshToken
            grant.lifetime).runFrom w.store).2 }) := by
  rw [storeGrant, runFrom_bind_of_ok (runFrom_always _ w), World.run_readClock, runFrom_onStore]

end SignIn

end BillingAccess
