/-
What a sign-in leaves behind when it breaks off.

A start writes the secrets that it draws, one after the other, before it looks
at the address of the server, and what was written by then stays.  A callback
that fails leaves no access token but the one that was there, as far as its
code is concerned: nothing can fail once a grant has been kept.  A token that
comes without a code is kept before the secrets are removed, and stays if that
removal fails.
-/
import BillingAccess.Proofs.Session.Failures
import BillingAccess.Proofs.SignIn.Gate

namespace BillingAccess.SignIn

open BillingAccess.Action Unreliable Session

variable {α β : Type}

/-- How a start can fail, with what, and what the slots hold then. -/
inductive StartFails (app : Application) (w : World Unreliable) : Fault → Slots → Prop
  | stateRefused {fault : Fault}
      (hstate : w.store.failure w.store.calls (.set .state) = some fault) :
      StartFails app w fault w.store.slots
  | verifierRefused {fault : Fault}
      (hstate : w.store.failure w.store.calls (.set .state) = none)
      (hverifier : w.store.failure (w.store.calls + 1) (.set .codeVerifier) = some fault) :
      StartFails app w fault (w.store.slots.put .state (some (drawnIn w).state))
  | badServer {cause : Url.Fault}
      (hstate : w.store.failure w.store.calls (.set .state) = none)
      (hverifier : w.store.failure (w.store.calls + 1) (.set .codeVerifier) = none)
      (hserver : Url.parse app.authorizeEndpoint = .error cause) :
      StartFails app w (.url cause) ((w.store.slots.put .state (some (drawnIn w).state)).put
        .codeVerifier (some (drawnIn w).verifier))

/-- Once the state is written, all depends on the verifier. -/
theorem runFrom_setPending_of_works {u : Unreliable}
    (hstate : u.failure u.calls (.set .state) = none) (state verifier : String) :
    (setPending state verifier).runFrom u =
      (TokenStore.set .codeVerifier verifier : Action Unreliable Unit).runFrom
        (u.changed (u.slots.put .state (some state))) :=
  runFrom_bind_of_ok (set_of_works hstate state)

theorem authorizationUrl_eq_error_iff {app : Application} {pkce : Pkce} {cause : Url.Fault} :
    authorizationUrl app pkce = .error cause ↔ Url.parse app.authorizeEndpoint = .error cause := by
  rw [authorizationUrl]
  cases Url.parse app.authorizeEndpoint <;> simp [Except.map]

/-- There is no other way to fail. -/
theorem exists_startFails {app : Application} {w : World Unreliable} {fault : Fault}
    (h : ((start app).runFrom w).1 = .error fault) : ∃ slots, StartFails app w fault slots := by
  rw [runFrom_start] at h
  cases hstate : w.store.failure w.store.calls (.set .state) with
  | some refusal =>
      rw [setPending, runFrom_bind_of_error (set_of_fails hstate _)] at h
      cases h
      exact ⟨_, .stateRefused hstate⟩
  | none =>
      rw [runFrom_setPending_of_works hstate] at h
      cases hverifier : w.store.failure (w.store.calls + 1) (.set .codeVerifier) with
      | some refusal =>
          rw [set_of_fails hverifier] at h
          cases h
          exact ⟨_, .verifierRefused hstate hverifier⟩
      | none =>
          rw [set_of_works hverifier] at h
          cases hurl : authorizationUrl app (drawnIn w) with
          | error cause =>
              simp only [hurl] at h
              cases h
              exact ⟨_, .badServer hstate hverifier (authorizationUrl_eq_error_iff.mp hurl)⟩
          | ok url =>
              simp only [hurl] at h
              cases h

theorem StartFails.run {app : Application} {w : World Unreliable} {fault : Fault} {slots : Slots}
    (h : StartFails app w fault slots) :
    ∃ w', (start app).runFrom w = (.error fault, w') ∧ w'.store.slots = slots ∧
      w'.stage = w.stage ∧ w'.attempts = w.attempts := by
  rw [runFrom_start]
  cases h with
  | stateRefused hstate =>
      rw [setPending, runFrom_bind_of_error (set_of_fails hstate _)]
      exact ⟨_, rfl, rfl, rfl, rfl⟩
  | verifierRefused hstate hverifier =>
      rw [runFrom_setPending_of_works hstate, set_of_fails hverifier]
      exact ⟨_, rfl, rfl, rfl, rfl⟩
  | badServer hstate hverifier hserver =>
      rw [runFrom_setPending_of_works hstate, set_of_works hverifier]
      simp only [authorizationUrl_eq_error_iff.mpr hserver]
      exact ⟨_, rfl, rfl, rfl, rfl⟩

/-- A start fails in three ways, and each leaves what had been written by then:
only if the first write fails are the secrets what they were.  Where the
sign-in stands does not change, and nothing is asked of a peer. -/
theorem failed_start_leaves (app : Application) (w : World Unreliable) (fault : Fault) :
    (((start app).runFrom w).1 = .error fault ↔
        StartFails app w fault ((start app).runFrom w).2.store.slots) ∧
      (((start app).runFrom w).1 = .error fault →
        ((start app).runFrom w).2.stage = w.stage ∧
          ((start app).runFrom w).2.attempts = w.attempts) := by
  constructor
  · constructor
    · intro h
      obtain ⟨slots, hfails⟩ := exists_startFails h
      obtain ⟨w', hrun, rfl, -⟩ := hfails.run
      rwa [hrun]
    · intro h
      obtain ⟨w', hrun, -⟩ := h.run
      rw [hrun]
  · intro h
    obtain ⟨slots, hfails⟩ := exists_startFails h
    obtain ⟨w', hrun, -, hkept⟩ := hfails.run
    rwa [hrun]

/-- A start that fails leaves the secrets and the stage as they were. -/
def StartAtomic (app : Application) (w : World Unreliable) : Prop :=
  ((start app).runFrom w).1.isOk = false →
    (∀ slot ∈ pendingSlots, ((start app).runFrom w).2.store.slots slot = w.store.slots slot) ∧
      ((start app).runFrom w).2.stage = w.stage

/-- A sign-in is under way, and some calls of the store fail. -/
def underWay (failure : Nat → StoreCall → Option Fault) : World Unreliable where
  store := ⟨(Slots.empty.put .state (some "s")).put .codeVerifier (some "v"), failure, 0⟩
  now := 0
  random := ⟨fun _ => 0, 0⟩
  network := { reply := fun _ => .silence }
  stage := .authorizing

/-- The second write fails. -/
def verifierUnwritable : Nat → StoreCall → Option Fault := fun _ what =>
  if what = .set .codeVerifier then some (.storage (.stated "full")) else none

/-- A start at an address that is no URL replaces both secrets of the sign-in
that is under way, and one whose second write fails puts another state beside
its verifier. -/
theorem failed_start_replaces_secrets :
    ¬StartAtomic ⟨"not a url", "web", "http://app/callback", defaultScopes⟩
        (underWay fun _ _ => none) ∧
      ¬StartAtomic ⟨"http://iam", "web", "http://app/callback", defaultScopes⟩
        (underWay verifierUnwritable) := by
  constructor
  · intro h
    have hstate := (h (by decide +kernel)).1 .state (by decide)
    exact absurd hstate (by decide +kernel)
  · intro h
    have hstate := (h (by decide +kernel)).1 .state (by decide)
    exact absurd hstate (by decide +kernel)

/-- The second write fails of a start, and the sign-in stands where it stood. -/
theorem failed_start_keeps_stage :
    let app : Application := ⟨"http://iam", "web", "http://app/callback", defaultScopes⟩
    let w := underWay verifierUnwritable
    ((start app).runFrom w).1 = .error (.storage (.stated "full")) ∧
      ((start app).runFrom w).2.stage = .authorizing := by
  intro app w
  have hfails : ((start app).runFrom w).1 = .error (.storage (.stated "full")) := rfl
  exact ⟨hfails, ((failed_start_leaves app w _).2 hfails).1⟩

/-- The access token is gone, or it is the one that was there. -/
def Dropped (u u' : Unreliable) : Prop :=
  u'.slots .accessToken = none ∨ u'.slots .accessToken = u.slots .accessToken

/-- The same of the stores of two worlds. -/
abbrev TokenDropped (w w' : World Unreliable) : Prop :=
  Dropped w.store w'.store

theorem Dropped.trans {u u' u'' : Unreliable} (h : Dropped u u') (h' : Dropped u' u'') :
    Dropped u u'' := by
  rcases h' with hnone | hsame
  · exact Or.inl hnone
  · rwa [Dropped, hsame]

instance : Std.Refl TokenDropped := ⟨fun _ => Or.inr rfl⟩

instance : IsTrans (World Unreliable) TokenDropped := ⟨fun _ _ _ => Dropped.trans⟩

theorem dropped_of_changesOnly {touched : List Slot} {u u' : Unreliable}
    (h : ChangesOnly touched u u') (hapart : Slot.accessToken ∉ touched) : Dropped u u' :=
  Or.inr (h.2 _ hapart)

/-- Whenever the action fails, it leaves no token but the one that was there. -/
def FailsClean (action : Action (World Unreliable) α) : Prop :=
  ∀ w fault w', action.runFrom w = (.error fault, w') → TokenDropped w w'

namespace FailsClean

theorem of_keeps {action : Action (World Unreliable) α} (h : Keeps TokenDropped action) :
    FailsClean action := by
  intro w fault w' hrun
  have hdropped := h w
  rwa [hrun] at hdropped

theorem bind {first : Action (World Unreliable) α} {next : α → Action (World Unreliable) β}
    (hfirst : Keeps TokenDropped first) (hnext : ∀ a, FailsClean (next a)) :
    FailsClean (first >>= next) := by
  intro w fault w' hrun
  have hdropped := hfirst w
  rcases h : first.runFrom w with ⟨refusal | a, between⟩ <;> rw [h] at hdropped
  · rw [runFrom_bind_of_error h] at hrun
    cases hrun
    exact hdropped
  · rw [runFrom_bind_of_ok h] at hrun
    exact hdropped.trans (hnext a between fault w' hrun)

/-- What cannot fail may follow, whatever it does. -/
theorem andThen {first : Action (World Unreliable) α} {next : α → StateM (World Unreliable) β}
    (hfirst : FailsClean first) : FailsClean (first >>= fun a => always (next a)) := by
  intro w fault w' hrun
  rcases h : first.runFrom w with ⟨refusal | a, between⟩
  · rw [runFrom_bind_of_error h] at hrun
    cases hrun
    exact hfirst w fault w' h
  · rw [runFrom_bind_of_ok h] at hrun
    cases hrun

end FailsClean

/-- Tokens are kept or none is, or the old one stays. -/
theorem storeTokens_dropped {now : Int64} {access : String} {refresh : Option String}
    {lifetime : Option UInt64} {u u' : Unreliable} {fault : Fault}
    (h : (storeTokens now access refresh lifetime).runFrom u = (.error fault, u')) :
    Dropped u u' := by
  rcases hwrite : (writeTokens now access refresh lifetime).runFrom u with ⟨_ | _, written⟩
  · have htoken := (writeTokens_of_error hwrite).1
    rw [runFrom_storeTokens_of_error hwrite] at h
    cases h
    rcases remove_cases .accessToken written with ⟨_, -, hrun⟩ | ⟨-, hrun⟩ <;> rw [hrun]
    · exact Or.inr htoken
    · exact Or.inl (written.slots.put_same .accessToken none)
  · rw [runFrom_storeTokens_of_ok hwrite] at h
    cases h

theorem storeGrant_failsClean (grant : Grant) : FailsClean (storeGrant grant) := by
  intro w fault w' hfails
  have hrun := runFrom_storeGrant grant w
  rcases hstore : (storeTokens w.now grant.accessToken grant.refreshToken grant.lifetime).runFrom
    w.store with ⟨refusal | _, u⟩ <;> rw [hrun, hstore] at hfails <;> cases hfails
  exact storeTokens_dropped hstore

theorem clearPending_dropped : Keeps TokenDropped (World.onStore clearPending) :=
  fun w => dropped_of_changesOnly (clearPending_keeps w.store) (by decide)

theorem requestGrant_dropped (app : Application) (form : List (String × String)) :
    Keeps TokenDropped (requestGrant app form) := by
  intro w
  obtain ⟨outcome, w', attempt, hrun, hsent⟩ := exists_requested app form w
  rw [hrun]
  exact Or.inr (congrArg (·.slots .accessToken) hsent.store)

/-- All that can fail comes before the grant is kept. -/
theorem exchangeCode_failsClean (app : Application) (code verifier : String) :
    FailsClean (exchangeCode app code verifier) := by
  apply FailsClean.bind clearPending_dropped
  intro _
  apply FailsClean.bind (requestGrant_dropped app _)
  intro grant
  exact (storeGrant_failsClean grant).andThen

theorem readStore_dropped (slot : Slot) :
    Keeps TokenDropped (always (World.readStore (read slot))) := by
  intro w
  rw [runFrom_readStore_readable]
  exact Or.inr rfl

theorem exchangeChecked_failsClean (app : Application) (callback : Callback) (code : String) :
    FailsClean (exchangeChecked app callback code) := by
  apply FailsClean.bind (readStore_dropped .state)
  intro kept
  split
  · exact FailsClean.of_keeps (Keeps.throw _)
  · apply FailsClean.bind (readStore_dropped .codeVerifier)
    intro held
    cases held with
    | none => exact FailsClean.of_keeps (Keeps.throw _)
    | some verifier => exact exchangeCode_failsClean app code verifier

/-- The token that a callback brings without a code is kept at a time, and then
the secrets cannot be removed. -/
structure Strands (callback : Callback) (now : Int64) (u : Unreliable) (token : String) :
    Prop where
  error : callback.error = none
  code : callback.code = none
  accessToken : callback.accessToken = some token
  stuck : ∃ kept fault,
    (storeTokens now token none callback.lifetime?).runFrom u = (.ok (), kept) ∧
      (clearPending.runFrom kept).1 = .error fault

/-- What a callback that fails leaves in the slot of the access token: nothing
or what was there, unless it has stranded a token, which stays with its
expiry. -/
structure LeavesToken (callback : Callback) (now : Int64) (u u' : Unreliable) : Prop where
  dropped : (∀ token, ¬Strands callback now u token) → Dropped u u'
  stranded : ∀ token, Strands callback now u token →
    u'.slots .accessToken = some token ∧
      u'.slots .expiresAt = some (expiryText now callback.lifetime?)

theorem LeavesToken.of_dropped {callback : Callback} {now : Int64} {u u' : Unreliable}
    (h : Dropped u u') (hnone : ∀ token, ¬Strands callback now u token) :
    LeavesToken callback now u u' :=
  ⟨fun _ => h, fun token hstrands => absurd hstrands (hnone token)⟩

theorem runFrom_keepToken_of_ok {now : Int64} {token : String} {lifetime : Option UInt64}
    {u kept : Unreliable} (h : (storeTokens now token none lifetime).runFrom u = (.ok (), kept)) :
    (keepToken now token lifetime).runFrom u = clearPending.runFrom kept :=
  runFrom_bind_of_ok h

theorem acceptToken_leaves {callback : Callback} {token : String} (herror : callback.error = none)
    (hcode : callback.code = none) (htoken : callback.accessToken = some token)
    {w w' : World Unreliable} {fault : Fault}
    (h : (acceptToken token callback.lifetime?).runFrom w = (.error fault, w')) :
    LeavesToken callback w.now w.store w'.store := by
  have hrun := runFrom_acceptToken token callback.lifetime? w
  rcases hstore : (storeTokens w.now token none callback.lifetime?).runFrom w.store with
    ⟨refusal | _, kept⟩
  · have hkeep : (keepToken w.now token callback.lifetime?).runFrom w.store =
        (.error refusal, kept) := runFrom_bind_of_error hstore
    rw [hrun, hkeep] at h
    cases h
    apply LeavesToken.of_dropped (storeTokens_dropped hstore)
    rintro other ⟨-, -, hother, stored, _, hstored, -⟩
    obtain rfl : token = other := Option.some.inj (htoken.symm.trans hother)
    rw [hstore] at hstored
    cases hstored
  · have hkeep := runFrom_keepToken_of_ok hstore
    have hkeeps := clearPending_keeps kept
    rcases hclear : clearPending.runFrom kept with ⟨refusal | _, cleared⟩ <;>
      rw [hrun, hkeep, hclear] at h <;> cases h
    -- The tokens have been kept, and the secrets cannot be removed.
    rw [hclear] at hkeeps
    obtain ⟨haccess, -, hexpiry⟩ := storeTokens_of_ok hstore
    constructor
    case dropped =>
      intro hnone
      exact absurd ⟨herror, hcode, htoken, kept, _, hstore, congrArg Prod.fst hclear⟩
        (hnone token)
    case stranded =>
      intro other hstrands
      obtain rfl : token = other := Option.some.inj (htoken.symm.trans hstrands.accessToken)
      exact ⟨(hkeeps.2 _ (by decide)).trans haccess, (hkeeps.2 _ (by decide)).trans hexpiry⟩

theorem processCallback_leaves {app : Application} {callback : Callback}
    {w w' : World Unreliable} {fault : Fault}
    (h : (processCallback app callback).runFrom w = (.error fault, w')) :
    LeavesToken callback w.now w.store w'.store := by
  cases herror : callback.error with
  | some error =>
      rw [processCallback, herror] at h
      cases h
      exact .of_dropped (Or.inr rfl) fun _ hstrands => by cases herror ▸ hstrands.error
  | none =>
      cases hcode : callback.code with
      | some code =>
          rw [processCallback_of_code app ⟨herror, hcode⟩] at h
          refine .of_dropped (exchangeChecked_failsClean app callback code w fault w' h) ?_
          exact fun _ hstrands => by cases hcode ▸ hstrands.code
      | none =>
          rw [processCallback, herror, hcode] at h
          cases htoken : callback.accessToken with
          | some token =>
              rw [htoken] at h
              exact acceptToken_leaves herror hcode htoken h
          | none =>
              rw [htoken] at h
              cases h
              exact .of_dropped (Or.inr rfl)
                fun _ hstrands => by cases htoken ▸ hstrands.accessToken

/-- A callback that fails leaves no access token but the one that was there,
unless the removal of the secrets fails after a token without a code was kept;
that token stays. -/
theorem failed_callback_leaves_token (app : Application) (url : Url) (w : World Unreliable)
    (h : ((handleCallback app url).runFrom w).1.isOk = false) :
    LeavesToken (Callback.ofUrl url) w.now w.store ((handleCallback app url).runFrom w).2.store := by
  rw [runFrom_handleCallback] at h ⊢
  rcases hrun : (processCallback app (Callback.ofUrl url)).runFrom
    { w with stage := .callbackPending } with ⟨result, processed⟩
  rw [hrun] at h
  rw [settle_result] at h
  have hsettled := (settle_harmless result processed).store
  cases result with
  | ok user => cases h
  | error fault =>
      have hleaves := processCallback_leaves hrun
      constructor
      case dropped =>
        intro hnone
        exact (hleaves.dropped hnone).trans (Or.inr (hsettled.2 _ (by decide)))
      case stranded =>
        intro token hstrands
        obtain ⟨haccess, hexpiry⟩ := hleaves.stranded token hstrands
        exact ⟨(hsettled.2 _ (by decide)).trans haccess,
          (hsettled.2 _ (by decide)).trans hexpiry⟩

/-- A session without tokens, and some calls of its store fail. -/
def newcomer (failure : Nat → StoreCall → Option Fault) : World Unreliable where
  store := ⟨Slots.empty, failure, 0⟩
  now := 0
  random := ⟨fun _ => 0, 0⟩
  network := { reply := fun _ => .silence }

/-- The URL of a callback that brings a token without a code. -/
def tokenUrl : Url :=
  { scheme := "http", fragment := some "access_token=b" }

/-- The token of a callback that fails is in force when its state cannot be
removed. -/
theorem stranded_token_in_force :
    let app : Application := ⟨"http://iam", "web", "http://app/callback", defaultScopes⟩
    let w := newcomer fun _ what =>
      if what = .remove .state then some (.storage (.stated "stuck")) else none
    let after := ((handleCallback app tokenUrl).runFrom w).2
    ((handleCallback app tokenUrl).runFrom w).1.isOk = false ∧ ¬Dropped w.store after.store ∧
      ((Session.accessToken 0).run after.store).1 = some "b" := by
  intro app w after
  refine ⟨by decide +kernel, ?_, by decide +kernel⟩
  rintro (hnone | hsame)
  · exact absurd hnone (by decide +kernel)
  · exact absurd hsame (by decide +kernel)

/-- The token of a callback is not kept when its expiry cannot be written. -/
theorem unbounded_token_not_kept :
    let app : Application := ⟨"http://iam", "web", "http://app/callback", defaultScopes⟩
    let w := newcomer fun _ what =>
      if what = .set .expiresAt then some (.storage (.stated "full")) else none
    ((handleCallback app tokenUrl).runFrom w).1.isOk = false ∧
      Dropped w.store ((handleCallback app tokenUrl).runFrom w).2.store := by
  intro app w
  have hfails : ((handleCallback app tokenUrl).runFrom w).1.isOk = false := by decide +kernel
  refine ⟨hfails, (failed_callback_leaves_token app tokenUrl w hfails).dropped ?_⟩
  rintro token ⟨-, -, -, kept, _, hstored, -⟩
  cases hstored

end BillingAccess.SignIn
