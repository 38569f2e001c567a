/-
What each operation does to the secrets of a sign-in.

A start alone keeps secrets; every other operation keeps them as they are or
removes them.  A code is exchanged with the state and the verifier that are
kept when the browser comes back, and both are gone from the store before the
request is made.  None of this depends on which calls of the store fail.
-/
import BillingAccess.Proofs.SignIn.Silent

namespace BillingAccess.SignIn

open BillingAccess.Action Unreliable Session

/-- The secrets are kept or removed, and none is put in their place. -/
def Fades (u u' : Unreliable) : Prop :=
  u'.failure = u.failure ∧
    ∀ slot ∈ pendingSlots, u'.slots slot = none ∨ u'.slots slot = u.slots slot

namespace Fades

theorem refl (u : Unreliable) : Fades u u :=
  ⟨rfl, fun _ _ => Or.inr rfl⟩

theorem trans {u u' u'' : Unreliable} (h : Fades u u') (h' : Fades u' u'') : Fades u u'' := by
  refine ⟨h'.1.trans h.1, ?_⟩
  intro slot hslot
  rcases h'.2 slot hslot with hnone | hsame
  · exact Or.inl hnone
  · rw [hsame]
    exact h.2 slot hslot

instance : Std.Refl Fades := ⟨refl⟩

instance : IsTrans Unreliable Fades := ⟨fun _ _ _ => trans⟩

theorem of_changesOnly {touched : List Slot} {u u' : Unreliable}
    (h : ChangesOnly touched u u') (hapart : ∀ slot ∈ pendingSlots, slot ∉ touched) :
    Fades u u' :=
  ⟨h.1, fun slot hslot => Or.inr (h.2 slot (hapart slot hslot))⟩

end Fades

theorem read_fades (slot : Slot) : Keeps Fades (always (read slot)) :=
  fun u => .of_changesOnly (read_keeps slot u) (by simp)

theorem removeAll_fades (slots : List Slot) : Keeps Fades (removeAll slots) :=
  fun u => ⟨(removeAll_keeps (List.Subset.refl slots) u).1,
    fun slot _ => removeAll_slot slots u slot⟩

theorem storeTokens_fades (now : Int64) (access : String) (refresh : Option String)
    (lifetime : Option UInt64) : Keeps Fades (storeTokens now access refresh lifetime) :=
  fun u => .of_changesOnly (storeTokens_keeps now access refresh lifetime u)
    fun _ hslot => not_mem_tokenSlots refresh hslot

/-- Nothing is sent, and no secrets are kept. -/
abbrev Quiet : World Unreliable → World Unreliable → Prop :=
  Silent Fades

theorem clearPending_quiet : Keeps Quiet (World.onStore clearPending) :=
  onStore_silent (removeAll_fades _)

theorem currentUser_quiet : Keeps Quiet (always currentUser) :=
  currentUser_silent read_fades

theorem storeGrant_quiet (grant : Grant) : Keeps Quiet (storeGrant grant) :=
  storeGrant_silent grant storeTokens_fades

variable {α : Type}

/-- One request is made on the way, and no secrets are put in place of those
that are kept. -/
structure Sends (request : Request) (w w' : World Unreliable)
    (attempt : Attempt Unreliable) : Prop where
  attempts : w'.attempts = w.attempts ++ [attempt]
  request : attempt.request = request
  before : Fades w.store attempt.store
  after : Fades attempt.store w'.store

namespace Sends

variable {request : Request} {w w' w'' : World Unreliable} {attempt : Attempt Unreliable}

theorem of_sent {outcome : Outcome} (h : Sent request w outcome w' attempt) :
    Sends request w w' attempt where
  attempts := h.attempts
  request := h.request
  before := by rw [h.asked]; exact .refl _
  after := by rw [h.asked, h.store]; exact .refl _

theorem of_quiet_left (hquiet : Quiet w w') (h : Sends request w' w'' attempt) :
    Sends request w w'' attempt where
  attempts := by rw [h.attempts, hquiet.attempts]
  request := h.request
  before := hquiet.store.trans h.before
  after := h.after

theorem of_quiet_right (h : Sends request w w' attempt) (hquiet : Quiet w' w'') :
    Sends request w w'' attempt where
  attempts := by rw [hquiet.attempts, h.attempts]
  request := h.request
  before := h.before
  after := h.after.trans hquiet.store

theorem one_attempt (event : Event Unreliable)
    (h : Sends request event.before event.after attempt) : event.attempts = [attempt] :=
  Event.attempts_of_append h.attempts

end Sends

/-- Neither a state nor a verifier is kept. -/
def Secretless (u : Unreliable) : Prop :=
  ∀ slot ∈ pendingSlots, u.slots slot = none

theorem Fades.secretless {u u' : Unreliable} (h : Fades u u') (hu : Secretless u) :
    Secretless u' := by
  intro slot hslot
  rcases h.2 slot hslot with hgone | hsame
  · exact hgone
  · rw [hsame, hu slot hslot]

/-- A request for tokens and what is made of the grant. -/
theorem requestGrant_sends (app : Application) (form : List (String × String))
    {next : Grant → Action (World Unreliable) α} (hnext : ∀ grant, Keeps Quiet (next grant))
    (w : World Unreliable) :
    ∃ attempt, attempt.store = w.store ∧ Sends (tokenRequest app form) w
      ((requestGrant app form >>= next).runFrom w).2 attempt := by
  obtain ⟨outcome, w', attempt, hrun, hsent⟩ := exists_requested app form w
  refine ⟨attempt, hsent.asked, ?_⟩
  cases hgrant : Grant.ofOutcome outcome with
  | error fault =>
      rw [hgrant] at hrun
      rw [runFrom_bind_of_error hrun]
      exact Sends.of_sent hsent
  | ok grant =>
      rw [hgrant] at hrun
      rw [runFrom_bind_of_ok hrun]
      exact (Sends.of_sent hsent).of_quiet_right (hnext grant w')

/-- Once the secrets could be removed, they are gone. -/
theorem onStore_clearPending_of_ok {w w' : World Unreliable}
    (h : (World.onStore clearPending).runFrom w = (.ok (), w')) : Secretless w'.store := by
  rcases hrun : (clearPending (σ := Unreliable)).runFrom w.store with ⟨fault | _, store⟩ <;>
    rw [runFrom_onStore, hrun] at h
  · injection h with hresult
    contradiction
  · injection h with _ hworld
    rw [← hworld]
    exact fun slot hslot => removeAll_of_ok hrun hslot

theorem exchangeCode_cases (app : Application) (code verifier : String) (w : World Unreliable) :
    Quiet w ((exchangeCode app code verifier).runFrom w).2 ∨
      ∃ attempt, Secretless attempt.store ∧
        Sends (tokenRequest app (codeForm app code verifier)) w
          ((exchangeCode app code verifier).runFrom w).2 attempt := by
  have hclear := clearPending_quiet w
  rcases hrun : (World.onStore (clearPending (σ := Unreliable))).runFrom w with ⟨fault | _, w'⟩ <;>
    rw [hrun] at hclear
  · left
    rwa [exchangeCode, runFrom_bind_of_error hrun]
  · right
    rw [exchangeCode, runFrom_bind_of_ok hrun]
    obtain ⟨attempt, hstore, hsends⟩ := requestGrant_sends app (codeForm app code verifier)
      (fun grant => Keeps.bind (storeGrant_quiet grant) fun _ => currentUser_quiet) w'
    refine ⟨attempt, ?_, hsends.of_quiet_left hclear⟩
    rw [hstore]
    exact onStore_clearPending_of_ok hrun

/-- A callback brings a code and the state that is kept, and a verifier is kept
beside it. -/
structure Fits (callback : Callback) (kept : Slots) (code verifier : String) : Prop where
  code : callback.code = some code
  state : ∃ state, callback.state = some state ∧ kept .state = some state
  verifier : kept .codeVerifier = some verifier

/-- Reading a slot gives what it holds or nothing, and changes no slot. -/
theorem readStore_cases (slot : Slot) (w : World Unreliable) :
    ∃ held w', (always (World.readStore (read slot))).runFrom w = (.ok held, w') ∧
      Quiet w w' ∧ w'.store.slots = w.store.slots ∧
      ∀ text, held = some text → w.store.slots slot = some text := by
  have hkeeps := read_keeps slot w.store
  refine ⟨_, _, rfl, readStore_silent (read_fades slot) w, ?_, fun text => eq_of_read⟩
  funext other
  exact hkeeps.2 other (by simp)

/-- A callback that fits what is kept has its code exchanged, once the secrets
are gone. -/
structure Exchanges (app : Application) (callback : Callback) (w w' : World Unreliable)
    (attempt : Attempt Unreliable) : Prop where
  sent : ∃ code verifier, Fits callback w.store.slots code verifier ∧
    Sends (tokenRequest app (codeForm app code verifier)) w w' attempt
  secretless : Secretless attempt.store

theorem exchangeChecked_cases (app : Application) (callback : Callback) {code : String}
    (hcode : callback.code = some code) (w : World Unreliable) :
    Quiet w ((exchangeChecked app callback code).runFrom w).2 ∨
      ∃ attempt, Exchanges app callback w
        ((exchangeChecked app callback code).runFrom w).2 attempt := by
  obtain ⟨kept, first, hfirst, hquiet, hsame, hkept⟩ := readStore_cases .state w
  obtain ⟨held, second, hsecond, hquiet', -, hheld⟩ := readStore_cases .codeVerifier first
  rw [exchangeChecked, pendingState, pendingVerifier, runFrom_bind_of_ok hfirst]
  by_cases hmismatch : kept.isNone ∨ callback.state ≠ kept
  · rw [if_pos hmismatch]
    exact Or.inl hquiet
  · rw [if_neg hmismatch, runFrom_bind_of_ok hsecond]
    have hquiet := trans_of Quiet hquiet hquiet'
    cases held with
    | none => exact Or.inl hquiet
    | some verifier =>
        rcases exchangeCode_cases app code verifier second with h | ⟨attempt, hgone, h⟩
        · exact Or.inl (trans_of Quiet hquiet h)
        · obtain ⟨hsome, hstate⟩ := not_or.mp hmismatch
          obtain ⟨state, rfl⟩ : ∃ state, kept = some state := by
            cases kept with
            | none => exact absurd rfl hsome
            | some state => exact ⟨state, rfl⟩
          have hfits : Fits callback w.store.slots code verifier :=
            { code := hcode
              state := ⟨state, Decidable.not_not.mp hstate, hkept state rfl⟩
              verifier := by rw [← hsame]; exact hheld verifier rfl }
          exact Or.inr ⟨attempt, ⟨code, verifier, hfits, h.of_quiet_left hquiet⟩, hgone⟩

theorem processCallback_cases (app : Application) (callback : Callback) (w : World Unreliable) :
    Quiet w ((processCallback app callback).runFrom w).2 ∨
      ∃ attempt, Exchanges app callback w
        ((processCallback app callback).runFrom w).2 attempt := by
  obtain ⟨code, state, error, description, token, lifetime⟩ := callback
  cases error with
  | some error => exact Or.inl (Keeps.throw _ w)
  | none =>
      cases code with
      | none =>
          cases token with
          | none => exact Or.inl (Keeps.throw _ w)
          | some token =>
              exact Or.inl (acceptToken_silent read_fades (storeTokens_fades · token none _)
                (removeAll_fades _) w)
      | some code =>
          exact exchangeChecked_cases app
            ⟨some code, state, none, description, token, lifetime⟩ rfl w

/-- Around the processing of a callback nothing is sent. -/
theorem handleCallback_cases (app : Application) (url : Url) (w : World Unreliable) :
    Quiet w ((handleCallback app url).runFrom w).2 ∨
      ∃ attempt, Exchanges app (Callback.ofUrl url) w
        ((handleCallback app url).runFrom w).2 attempt := by
  have hstage : Quiet w { w with stage := .callbackPending } := setStage_silent _ w
  have hcases := processCallback_cases app (Callback.ofUrl url)
    { w with stage := .callbackPending }
  rw [runFrom_handleCallback]
  rcases hrun : (processCallback app (Callback.ofUrl url)).runFrom
    { w with stage := .callbackPending } with ⟨result, processed⟩
  rw [hrun] at hcases
  have hsettle := settle_silent (removeAll_fades _) result processed
  rcases hcases with hquiet | ⟨attempt, ⟨code, verifier, hfits, hsends⟩, hgone⟩
  · exact Or.inl (trans_of Quiet hstage (trans_of Quiet hquiet hsettle))
  · exact Or.inr ⟨attempt, ⟨code, verifier, hfits,
      (hsends.of_quiet_left hstage).of_quiet_right hsettle⟩, hgone⟩

/-- A refresh sends the token that is kept. -/
theorem refresh_cases (app : Application) (w : World Unreliable) :
    Quiet w ((refresh app).runFrom w).2 ∨
      ∃ token attempt, w.store.slots .refreshToken = some token ∧
        Sends (tokenRequest app (refreshForm app token)) w
          ((refresh app).runFrom w).2 attempt := by
  obtain ⟨held, w', hread, hquiet, -, hheld⟩ := readStore_cases .refreshToken w
  rw [refresh, refreshToken, runFrom_bind_of_ok hread]
  cases held with
  | none => exact Or.inl hquiet
  | some token =>
      right
      obtain ⟨outcome, sent, attempt, hrun, hsent⟩ :=
        exists_requested app (refreshForm app token) w'
      have hsends := (Sends.of_sent hsent).of_quiet_left hquiet
      refine ⟨token, attempt, hheld token rfl, ?_⟩
      simp only [runFrom_bind_of_ok (runFrom_outcome _ _), hrun]
      cases Grant.ofOutcome outcome with
      | ok grant =>
          refine hsends.of_quiet_right (Keeps.bind (storeGrant_quiet grant) (fun _ => ?_) sent)
          exact Keeps.bind (setStage_silent _) fun _ => currentUser_quiet
      | error fault =>
          refine hsends.of_quiet_right (Keeps.bind (setStage_silent _) (fun _ => ?_) sent)
          exact Keeps.throw fault

/-- What an operation other than a start does: it sends nothing, or the refresh
token that is kept, or the code of a callback. -/
theorem act_cases (app : Application) {operation : Operation} (hstart : operation ≠ .start)
    (w : World Unreliable) :
    Quiet w ((operation.act app).runFrom w).2 ∨
      (∃ token attempt, w.store.slots .refreshToken = some token ∧
        Sends (tokenRequest app (refreshForm app token)) w
          ((operation.act app).runFrom w).2 attempt) ∨
      ∃ url attempt, operation = .callback url ∧
        Exchanges app (Callback.ofUrl url) w ((operation.act app).runFrom w).2 attempt := by
  cases operation with
  | start => contradiction
  | callback url =>
      rw [Operation.act, runFrom_map]
      rcases handleCallback_cases app url w with hquiet | ⟨attempt, hexchanges⟩
      · exact Or.inl hquiet
      · exact Or.inr (Or.inr ⟨url, attempt, rfl, hexchanges⟩)
  | refresh =>
      rw [Operation.act, runFrom_map]
      rcases refresh_cases app w with hquiet | hsends
      · exact Or.inl hquiet
      · exact Or.inr (Or.inl hsends)
  | logout => exact Or.inl ((logout_silent (removeAll_fades _)).map _ w)
  | currentUser => exact Or.inl (currentUser_quiet.map _ w)
  | accessToken => exact Or.inl ((accessToken_silent read_fades).map _ w)

/-- The secrets that a start draws in a world. -/
def drawnIn (w : World Unreliable) : Pkce :=
  (Pkce.generate w.random).1

/-- What a start gives and leaves, by what keeping the secrets does. -/
theorem runFrom_start (app : Application) (w : World Unreliable) :
    (start app).runFrom w =
      match (setPending (drawnIn w).state (drawnIn w).verifier).runFrom w.store with
      | (.error fault, u) =>
          (.error fault, { w with store := u, random := (Pkce.generate w.random).2 })
      | (.ok (), u) =>
          match authorizationUrl app (drawnIn w) with
          | .error cause =>
              (.error (.url cause), { w with store := u, random := (Pkce.generate w.random).2 })
          | .ok url => (.ok ⟨url, drawnIn w⟩,
              { w with
                store := u, random := (Pkce.generate w.random).2, stage := .authorizing }) := by
  have hdraw : drawPkce.run w = (drawnIn w, { w with random := (Pkce.generate w.random).2 }) := rfl
  rw [start, runFrom_bind_of_ok (runFrom_always drawPkce w), hdraw]
  rcases hset : (setPending (drawnIn w).state (drawnIn w).verifier).runFrom w.store with
    ⟨fault | _, u⟩
  · rw [runFrom_bind_of_error (by rw [runFrom_onStore, hset])]
  · rw [runFrom_bind_of_ok (by rw [runFrom_onStore, hset])]
    cases hurl : authorizationUrl app (drawnIn w) with
    | error cause => rfl
    | ok url => rfl

/-- A start makes no request, and does with the store what keeping the secrets
that it draws does. -/
theorem start_effect (app : Application) (w : World Unreliable) :
    ((start app).runFrom w).2.attempts = w.attempts ∧
      ((start app).runFrom w).2.store =
        ((setPending (drawnIn w).state (drawnIn w).verifier).runFrom w.store).2 := by
  rw [runFrom_start]
  rcases (setPending (drawnIn w).state (drawnIn w).verifier).runFrom w.store with ⟨fault | _, u⟩
  · exact ⟨rfl, rfl⟩
  · cases authorizationUrl app (drawnIn w) <;> exact ⟨rfl, rfl⟩

theorem start_no_attempts (app : Application) (w : World Unreliable) :
    (Operation.start.event app w).attempts = [] := by
  apply Event.attempts_of_append
  simp only [Operation.event, Operation.act, runFrom_map, List.append_nil]
  exact (start_effect app w).1

end BillingAccess.SignIn
