/-
Whom a callback or a refresh gives back when it succeeds.

The token that was delivered is kept, and then the session is asked who is
signed in, as at any other time.  So the answer is what the token says only
while the token lasts: if it has expired by the time the clock is read again,
nobody is given back, although the token is kept and names somebody.  A clock
that stands still gets there with a lifetime of zero, or at the last time.
-/
import BillingAccess.Proofs.Session.Deadline
import BillingAccess.Proofs.SignIn.Refresh

namespace BillingAccess.SignIn

open BillingAccess.Action Unreliable Session

/-- The token, and its lifetime, that a callback comes to: what is granted for
its code, or what it brings itself. -/
inductive Delivered (app : Application) (callback : Callback) (before : Slots)
    (network : Network) : String → Option UInt64 → Prop
  | granted {code verifier : String} {grant : Grant} (herror : callback.error = none)
      (hfits : Fits callback before code verifier)
      (hyields : Yields (network.outcome (tokenRequest app (codeForm app code verifier)))
        (.ok grant)) : Delivered app callback before network grant.accessToken grant.lifetime
  | brought {token : String} {lifetime : Option UInt64} (herror : callback.error = none)
      (hcode : callback.code = none) (htoken : callback.accessToken = some token)
      (hlasts : Lasts callback.expiresIn lifetime) :
      Delivered app callback before network token lifetime

/-- The same of a refresh: what is granted for the refresh token that is held. -/
inductive Renewed (app : Application) (before : Slots) (network : Network) :
    String → Option UInt64 → Prop
  | granted {held : String} {grant : Grant} (hheld : before .refreshToken = some held)
      (hyields : Yields (network.outcome (tokenRequest app (refreshForm app held)))
        (.ok grant)) : Renewed app before network grant.accessToken grant.lifetime

/-- Whom a token names at a time, if it has not expired. -/
def namedUntil (expiry : Int) (time : Int64) (token : String) : Option Identity :=
  if time.toInt < expiry then Identity.ofToken? token else none

/-- A token is kept at one time, and whom it names at another is given back.  If
both are the same time, that is whom it names, save for the two exceptions. -/
structure GivesBack (token : String) (lifetime : Option UInt64) (kept shown : Int64)
    (user : Option Identity) (after : Slots) : Prop where
  stored : after .accessToken = some token
  named : user = namedUntil (boundedExpiry kept lifetime) shown token
  at_once : kept = shown →
    user = Identity.ofToken? token ∨ lifetime = some 0 ∨ kept.toInt = lastTime

theorem GivesBack.of_named {token : String} {lifetime : Option UInt64} {kept shown : Int64}
    {after : Slots} (h : after .accessToken = some token) :
    GivesBack token lifetime kept shown (namedUntil (boundedExpiry kept lifetime) shown token)
      after where
  stored := h
  named := rfl
  at_once hsame := by
    subst hsame
    by_cases hahead : kept.toInt < boundedExpiry kept lifetime
    · exact Or.inl (if_pos hahead)
    · exact Or.inr (boundedExpiry_le_now (Int.not_lt.mp hahead))

/-- A token was kept at one time, and the clock shows another. -/
structure Kept (token : String) (lifetime : Option UInt64) (kept shown : Int64)
    (w : World Unreliable) : Prop where
  now : w.now = shown
  reads : ReadsNeverFail w.store
  token : w.store.slots .accessToken = some token
  expiry : w.store.slots .expiresAt = some (expiryText kept lifetime)

theorem run_currentUser {w : World Unreliable} (h : ReadsNeverFail w.store) :
    (currentUser.run w).1 =
      (if lastsBeyond w.now (w.store.slots .expiresAt) then w.store.slots .accessToken
        else none).bind Identity.ofToken? := by
  rw [← h.accessToken_eq]
  simp only [currentUser, accessToken, run_bind, World.run_readClock]
  rfl

theorem Kept.currentUser {token : String} {lifetime : Option UInt64} {kept shown : Int64}
    {w : World Unreliable} (h : Kept token lifetime kept shown w) :
    (currentUser.run w).1 = namedUntil (boundedExpiry kept lifetime) shown token := by
  have hiff : shown < expiryAt kept lifetime ↔ shown.toInt < boundedExpiry kept lifetime := by
    rw [Int64.lt_iff_toInt_lt, toInt_expiryAt]
  rw [run_currentUser h.reads, h.token, h.expiry, h.now, lastsBeyond_expiryText, namedUntil]
  by_cases hahead : shown < expiryAt kept lifetime
  · rw [if_pos (hiff.mp hahead), if_pos (decide_eq_true hahead), Option.bind_some]
  · rw [if_neg (mt hiff.mpr hahead), if_neg (by simpa using hahead), Option.bind_none]

/-- The answer to who is signed in is given back. -/
theorem Kept.givesBack {token : String} {lifetime : Option UInt64} {kept shown : Int64}
    {w w' : World Unreliable} {user : Option Identity} (h : Kept token lifetime kept shown w)
    (hrun : (always SignIn.currentUser).runFrom w = (.ok user, w')) :
    GivesBack token lifetime kept shown user w'.store.slots := by
  rw [runFrom_always] at hrun
  obtain ⟨hresult, rfl⟩ := Prod.mk.inj hrun
  obtain rfl := Except.ok.inj hresult
  rw [h.currentUser]
  exact .of_named (by rw [currentUser_slots, h.token])

theorem kept_of_storeGrant {grant : Grant} {w w' : World Unreliable}
    (hreads : ReadsNeverFail w.store) (h : (storeGrant grant).runFrom w = (.ok (), w')) :
    Kept grant.accessToken grant.lifetime w.now w.nextTime w' := by
  have hkeeps := storeTokens_keeps w.now grant.accessToken grant.refreshToken grant.lifetime
    w.store
  rw [runFrom_storeGrant] at h
  rcases hstore : (storeTokens w.now grant.accessToken grant.refreshToken grant.lifetime).runFrom
    w.store with ⟨fault | _, u⟩ <;> rw [hstore] at h hkeeps <;> cases h
  obtain ⟨htoken, -, hexpiry⟩ := storeTokens_of_ok hstore
  exact ⟨rfl, hreads.congr hkeeps, htoken, hexpiry⟩

theorem keepToken_keeps (now : Int64) (token : String) (lifetime : Option UInt64) :
    Keeps (ChangesOnly Slot.all) (keepToken now token lifetime) :=
  Keeps.bind (fun u => (storeTokens_keeps now token none lifetime u).mono (by decide))
    fun _ u => (clearPending_keeps u).mono (by decide)

section

variable {app : Application} {callback : Callback} {w w' : World Unreliable}
  {user : Option Identity}

theorem exchangeCode_of_ok {code verifier : String} (hreads : ReadsNeverFail w.store)
    (h : (exchangeCode app code verifier).runFrom w = (.ok user, w')) :
    ∃ grant,
      Yields (w.network.outcome (tokenRequest app (codeForm app code verifier))) (.ok grant) ∧
        GivesBack grant.accessToken grant.lifetime w.now w.nextTime user w'.store.slots := by
  obtain ⟨_, cleared, hclear, hexchange⟩ := exists_of_runFrom_bind h
  obtain ⟨grant, answered, hrequest, hkeep⟩ := exists_of_runFrom_bind hexchange
  obtain ⟨_, stored, hstore, huser⟩ := exists_of_runFrom_bind hkeep
  have hkeeps := clearPending_keeps w.store
  rw [runFrom_onStore] at hclear
  obtain ⟨-, rfl⟩ := Prod.mk.inj hclear
  obtain ⟨network, attempt, hrun, -⟩ := exists_runFrom_requestGrant app
    (codeForm app code verifier) { w with store := (clearPending.runFrom w.store).2 }
  obtain ⟨hgrant, rfl⟩ := Prod.mk.inj (hrun.symm.trans hrequest)
  have hkept := kept_of_storeGrant (hreads.congr hkeeps) hstore
  exact ⟨grant, (yields_iff _ _).mpr hgrant.symm, hkept.givesBack huser⟩

theorem acceptToken_of_ok {token : String} {lifetime : Option UInt64}
    (hreads : ReadsNeverFail w.store)
    (h : (acceptToken token lifetime).runFrom w = (.ok user, w')) :
    GivesBack token lifetime w.now w.nextTime user w'.store.slots := by
  rw [runFrom_acceptToken] at h
  rcases hkeep : (keepToken w.now token lifetime).runFrom w.store with ⟨fault | _, u⟩ <;>
    rw [hkeep] at h
  · cases h
  · obtain ⟨htoken, hexpiry, -⟩ := keepToken_of_ok hkeep
    have hkeeps := keepToken_keeps w.now token lifetime w.store
    rw [hkeep] at hkeeps
    exact Kept.givesBack ⟨rfl, hreads.congr hkeeps, htoken, hexpiry⟩ h

theorem exchangeChecked_of_ok {code : String} (hreads : ReadsNeverFail w.store)
    (hcode : BringsCode callback code)
    (h : (exchangeChecked app callback code).runFrom w = (.ok user, w')) :
    ∃ verifier grant, Fits callback w.store.slots code verifier ∧
      Yields (w.network.outcome (tokenRequest app (codeForm app code verifier))) (.ok grant) ∧
      GivesBack grant.accessToken grant.lifetime w.now w.nextTime user w'.store.slots := by
  by_cases hstate : StateFits callback w.store
  · rw [exchangeChecked_of_fits app code hstate] at h
    cases hheld : heldVerifier w.store with
    | none =>
        rw [hheld] at h
        cases h
    | some verifier =>
        rw [hheld] at h
        obtain ⟨grant, hyields, hgives⟩ :=
          exchangeCode_of_ok (w := { w with store := w.store.counted.counted }) hreads h
        refine ⟨verifier, grant, ⟨hcode.code, ?_, ?_⟩, hyields, hgives⟩
        · obtain ⟨state, hbrings, hread⟩ := hstate
          exact ⟨state, hbrings, (hreads.readable .state).symm.trans hread⟩
        · exact (ReadsNeverFail.readable (u := w.store.counted) hreads .codeVerifier).symm.trans
            hheld
  · rw [exchangeChecked_of_mismatch app code hstate] at h
    cases h

/-- A callback that succeeds has come to a token, and gives back whom it names. -/
theorem processCallback_of_ok (hreads : ReadsNeverFail w.store)
    (h : (processCallback app callback).runFrom w = (.ok user, w')) :
    ∃ token lifetime, Delivered app callback w.store.slots w.network token lifetime ∧
      GivesBack token lifetime w.now w.nextTime user w'.store.slots := by
  cases herror : callback.error with
  | some error =>
      rw [processCallback, herror] at h
      cases h
  | none =>
      cases hcode : callback.code with
      | some code =>
          rw [processCallback_of_code app ⟨herror, hcode⟩] at h
          obtain ⟨verifier, grant, hfits, hyields, hgives⟩ :=
            exchangeChecked_of_ok hreads ⟨herror, hcode⟩ h
          exact ⟨_, _, .granted herror hfits hyields, hgives⟩
      | none =>
          rw [processCallback, herror, hcode] at h
          cases htoken : callback.accessToken with
          | some token =>
              rw [htoken] at h
              exact ⟨_, _, .brought herror hcode htoken ((lasts_iff _ _).mpr rfl),
                acceptToken_of_ok hreads h⟩
          | none =>
              rw [htoken] at h
              cases h

theorem handleCallback_of_ok {url : Url} (hreads : ReadsNeverFail w.store)
    (h : (handleCallback app url).runFrom w = (.ok user, w')) :
    ∃ token lifetime,
      Delivered app (Callback.ofUrl url) w.store.slots w.network token lifetime ∧
        GivesBack token lifetime w.now w.nextTime user w'.store.slots := by
  rw [runFrom_handleCallback] at h
  rcases hdecided : (processCallback app (Callback.ofUrl url)).runFrom
    { w with stage := .callbackPending } with ⟨fault | decided, between⟩ <;> rw [hdecided] at h
  · have hfails := settle_result (.error fault) between
    rw [h] at hfails
    cases hfails
  · have hsettled : (settle (.ok decided)).runFrom between =
        (.ok decided, { between with stage := .authenticated }) := rfl
    obtain ⟨hresult, rfl⟩ := Prod.mk.inj (hsettled.symm.trans h)
    obtain rfl := Except.ok.inj hresult
    have hgives := processCallback_of_ok (w := { w with stage := .callbackPending }) hreads
      hdecided
    exact hgives

theorem takeGrant_of_ok {grant : Grant} (hreads : ReadsNeverFail w.store)
    (h : (takeGrant grant).runFrom w = (.ok user, w')) :
    GivesBack grant.accessToken grant.lifetime w.now w.nextTime user w'.store.slots := by
  obtain ⟨_, stored, hstore, hstage⟩ := exists_of_runFrom_bind h
  obtain ⟨_, staged, hset, huser⟩ := exists_of_runFrom_bind hstage
  obtain ⟨-, rfl⟩ := Prod.mk.inj hset
  have hkept := kept_of_storeGrant hreads hstore
  exact Kept.givesBack (w := { stored with stage := .authenticated })
    ⟨hkept.now, hkept.reads, hkept.token, hkept.expiry⟩ huser

theorem refresh_of_ok (hreads : ReadsNeverFail w.store)
    (h : (refresh app).runFrom w = (.ok user, w')) :
    ∃ token lifetime, Renewed app w.store.slots w.network token lifetime ∧
      GivesBack token lifetime w.now w.nextTime user w'.store.slots := by
  cases hheld : w.store.slots .refreshToken with
  | none =>
      have hread := runFrom_readStore_readable .refreshToken w
      rw [hreads.readable, hheld] at hread
      rw [refresh, refreshToken, runFrom_bind_of_ok hread] at h
      cases h
  | some held =>
      obtain ⟨yielded, hyields⟩ := exists_yields
        (w.network.outcome (tokenRequest app (refreshForm app held)))
      obtain ⟨network, attempt, -, hrun⟩ := exists_runFrom_refresh hreads hheld hyields
      rw [hrun] at h
      cases yielded with
      | error fault => cases h
      | ok grant =>
          exact ⟨_, _, .granted hheld hyields, takeGrant_of_ok
            (w := { w with store := w.store.counted, attempts := _, network := network })
            hreads h⟩

end

/-- A callback or a refresh that succeeds has kept the token that was delivered
to it, and gives back whom that token names, unless the token has expired when
the clock is read again: then it gives back nobody. -/
theorem returned_user_until_expiry (app : Application) (url : Url) (w : World Unreliable)
    (hreads : ReadsNeverFail w.store) :
    (∀ user w', (handleCallback app url).runFrom w = (.ok user, w') →
      ∃ token lifetime,
        Delivered app (Callback.ofUrl url) w.store.slots w.network token lifetime ∧
          GivesBack token lifetime w.now w.nextTime user w'.store.slots) ∧
    (∀ user w', (refresh app).runFrom w = (.ok user, w') →
      ∃ token lifetime, Renewed app w.store.slots w.network token lifetime ∧
        GivesBack token lifetime w.now w.nextTime user w'.store.slots) :=
  ⟨fun _ _ h => handleCallback_of_ok hreads h, fun _ _ h => refresh_of_ok hreads h⟩

/-- The clock shows the last millisecond of the token when it is read again. -/
theorem user_returned_at_last_moment :
    let app : Application := ⟨"http://iam", "web", "http://app/callback", defaultScopes⟩
    let url : Url := { scheme := "http", query := some "code=c&state=s" }
    let w : World Unreliable :=
      { returning "\x7b\"access_token\":\"h.eyJzdWIiOiJ1MSJ9.s\",\"expires_in\":60\x7d" with
        later := [60004] }
    ReadsNeverFail w.store ∧ ∃ w', (handleCallback app url).runFrom w =
        (.ok (some ⟨"", none, none, "u1"⟩), w') ∧
      ∃ token lifetime,
        Delivered app (Callback.ofUrl url) w.store.slots w.network token lifetime ∧
          GivesBack token lifetime 5 60004 (some ⟨"", none, none, "u1"⟩) w'.store.slots := by
  intro app url w
  have hreads : ReadsNeverFail w.store := fun _ _ => rfl
  have hresult : ((handleCallback app url).runFrom w).1 = .ok (some ⟨"", none, none, "u1"⟩) :=
    eq_ok_of_toOption (by decide +kernel)
  have hrun : (handleCallback app url).runFrom w =
      (.ok (some ⟨"", none, none, "u1"⟩), ((handleCallback app url).runFrom w).2) :=
    Prod.ext hresult rfl
  exact ⟨hreads, _, hrun, (returned_user_until_expiry app url w hreads).1 _ _ hrun⟩

/-- The user that is given back is the one that the token in its slot names. -/
def NamesKeptToken (result : Except Fault (Option Identity)) (after : Slots) : Prop :=
  ∀ user, result = .ok user →
    ∃ token, after .accessToken = some token ∧ user = Identity.ofToken? token

/-- A token that names a user is kept for a lifetime of zero, and nobody is given
back. -/
theorem zero_lifetime_names_nobody :
    let app : Application := ⟨"http://iam", "web", "http://app/callback", defaultScopes⟩
    let url : Url :=
      { scheme := "http", fragment := some "access_token=h.eyJzdWIiOiJ1MSJ9.s&expires_in=0" }
    let w := returning ""
    w.store.NeverFails ∧
      ¬NamesKeptToken ((handleCallback app url).runFrom w).1
        ((handleCallback app url).runFrom w).2.store.slots := by
  intro app url w
  refine ⟨fun _ _ => rfl, fun h => ?_⟩
  obtain ⟨token, htoken, huser⟩ := h none (eq_ok_of_toOption (by decide +kernel))
  have hkept : some token = some "h.eyJzdWIiOiJ1MSJ9.s" := htoken.symm.trans (by decide +kernel)
  obtain rfl := Option.some.inj hkept
  exact absurd huser (by decide +kernel)

end BillingAccess.SignIn
