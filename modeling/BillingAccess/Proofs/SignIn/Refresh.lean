/-
What a refresh does to a session whose refresh token can be read, whichever
writes and removals fail.

The token that is kept is sent once.  Afterwards the session holds it still, or
the one that was granted in its place: of the three writes that keep a grant
none takes it away, and the removal that follows a failed write concerns the
access token.  An answer that grants nothing changes no slot.
-/
import BillingAccess.Proofs.SignIn.Exchange

namespace BillingAccess.SignIn

open BillingAccess.Action Unreliable Session

/-- A request puts pairs to the token endpoint. -/
structure Puts (app : Application) (pairs : List (String × String)) (request : Request) :
    Prop where
  method : request.method = .post
  address : request.address = Url.parse app.tokenEndpoint
  form : ∃ sent, request.payload = .form sent ∧ Form.decode (Form.encode sent) = pairs

/-- A refresh with the token that is held, and what the answer to it decides. -/
structure RefreshEffect (expiry : Int64 → Option UInt64 → Int) (app : Application) (held : String)
    (w : World Unreliable) (result : Except Fault (Option Identity)) (w' : World Unreliable) :
    Prop where
  asked : ∃ attempt, w'.attempts = w.attempts ++ [attempt] ∧
    Puts app [("grant_type", "refresh_token"), ("client_id", app.clientId),
      ("refresh_token", held)] attempt.request
  yields : ∃ yielded,
    Yields (w.network.outcome (tokenRequest app (refreshForm app held))) yielded
  refreshToken : w'.store.slots .refreshToken = some held ∨
    ∃ grant new, Yields (w.network.outcome (tokenRequest app (refreshForm app held))) (.ok grant) ∧
      Filled grant.refreshToken new ∧ w'.store.slots .refreshToken = some new
  secrets : ∀ slot ∈ pendingSlots, w'.store.slots slot = w.store.slots slot
  refused : ∀ fault,
    Yields (w.network.outcome (tokenRequest app (refreshForm app held))) (.error fault) →
    result = .error fault ∧ w'.store.slots = w.store.slots
  granted : result.isOk →
    ∃ grant, Yields (w.network.outcome (tokenRequest app (refreshForm app held))) (.ok grant) ∧
      Holds (expiry w.now grant.lifetime) grant w.store.slots w'.store.slots

/-- The refresh token is the one that was there, or the new one if there is
one. -/
def Rotates (refresh : Option String) (u u' : Unreliable) : Prop :=
  u'.slots .refreshToken = u.slots .refreshToken ∨
    refresh.isSome ∧ u'.slots .refreshToken = refresh

section

variable {refresh : Option String}

instance : Std.Refl (Rotates refresh) := ⟨fun _ => Or.inl rfl⟩

instance : IsTrans Unreliable (Rotates refresh) := by
  refine ⟨fun u u' u'' h h' => ?_⟩
  rcases h' with hsame | hnew
  · rwa [Rotates, hsame]
  · exact Or.inr hnew

theorem rotates_of_changesOnly {touched : List Slot} {u u' : Unreliable}
    (h : ChangesOnly touched u u') (hapart : Slot.refreshToken ∉ touched) :
    Rotates refresh u u' :=
  Or.inl (h.2 _ hapart)

theorem set_refreshToken_rotates (token : String) :
    Keeps (Rotates (some token)) (TokenStore.set .refreshToken token : Action Unreliable Unit) := by
  intro u
  rcases set_cases .refreshToken token u with ⟨fault, -, hrun⟩ | ⟨-, hrun⟩ <;> rw [hrun]
  · exact Or.inl rfl
  · exact Or.inr ⟨rfl, u.slots.put_same .refreshToken (some token)⟩

theorem writeTokens_rotates (now : Int64) (access : String) (refresh : Option String)
    (lifetime : Option UInt64) :
    Keeps (Rotates refresh) (writeTokens (σ := Unreliable) now access refresh lifetime) := by
  have hexpiry : Keeps (Rotates refresh)
      (TokenStore.set .expiresAt (expiryText now lifetime) : Action Unreliable Unit) :=
    fun u => rotates_of_changesOnly (set_keeps _ _ u) (by decide)
  have haccess : Keeps (Rotates refresh)
      (TokenStore.set .accessToken access : Action Unreliable Unit) :=
    fun u => rotates_of_changesOnly (set_keeps _ _ u) (by decide)
  cases refresh with
  | none => exact Keeps.bind hexpiry fun _ => haccess
  | some token =>
      exact Keeps.bind hexpiry fun _ =>
        Keeps.bind (set_refreshToken_rotates token) fun _ => haccess

theorem storeTokens_rotates (now : Int64) (access : String) (refresh : Option String)
    (lifetime : Option UInt64) :
    Keeps (Rotates refresh) (storeTokens (σ := Unreliable) now access refresh lifetime) := by
  intro u
  have hwrite := writeTokens_rotates now access refresh lifetime u
  rcases h : (writeTokens now access refresh lifetime).runFrom u with ⟨fault | _, written⟩ <;>
    rw [h] at hwrite
  · rw [runFrom_storeTokens_of_error h]
    exact trans_of (Rotates refresh) hwrite
      (rotates_of_changesOnly (remove_keeps .accessToken written) (by decide))
  · rwa [runFrom_storeTokens_of_ok h]

end

/-- An empty refresh token is none. -/
theorem Yields.filled {outcome : Outcome} {grant : Grant} (h : Yields outcome (.ok grant))
    {new : String} (hnew : grant.refreshToken = some new) : Filled grant.refreshToken new := by
  refine ⟨hnew, ?_⟩
  cases h with
  | granted hstatus hbody herror htoken =>
      obtain ⟨-, hfilled⟩ := Option.filter_eq_some_iff.mp hnew
      exact of_decide_eq_true hfilled

/-- How a refresh goes on with what it was granted. -/
def takeGrant (grant : Grant) : Action (World Unreliable) (Option Identity) := do
  storeGrant grant
  always (World.setStage .authenticated)
  always currentUser

/-- The token that is held is sent, and what the request yields decides how a
refresh goes on. -/
theorem exists_runFrom_refresh {app : Application} {w : World Unreliable} {held : String}
    {yielded : Except Fault Grant} (hreads : ReadsNeverFail w.store)
    (hheld : w.store.slots .refreshToken = some held)
    (hyields : Yields (w.network.outcome (tokenRequest app (refreshForm app held))) yielded) :
    ∃ (network : Network) (attempt : Attempt Unreliable),
      attempt.request = tokenRequest app (refreshForm app held) ∧
      (refresh app).runFrom w =
        let answered : World Unreliable :=
          { w with
            store := w.store.counted, attempts := w.attempts ++ [attempt], network := network }
        match yielded with
        | .error fault => (.error fault, { answered with stage := .failed })
        | .ok grant => (takeGrant grant).runFrom answered := by
  have hread := runFrom_readStore_readable .refreshToken w
  rw [hreads.readable, hheld] at hread
  obtain ⟨network, attempt, hrequest, hsent⟩ := hyields.exists_runFrom_requestGrant
    (w := { w with store := w.store.counted })
  refine ⟨network, attempt, hsent, ?_⟩
  rw [refresh, refreshToken, runFrom_bind_of_ok hread]
  simp only [runFrom_bind_of_ok (runFrom_outcome _ _), hrequest]
  cases yielded <;> rfl

/-- What is done with the tokens of a grant is all that is done to the store,
and decides whether the refresh succeeds. -/
theorem takeGrant_effect (grant : Grant) (w : World Unreliable) :
    let stored := (storeTokens w.now grant.accessToken grant.refreshToken grant.lifetime).runFrom
      w.store
    ((takeGrant grant).runFrom w).1.isOk = stored.1.isOk ∧
      ((takeGrant grant).runFrom w).2.store.slots = stored.2.slots ∧
      ((takeGrant grant).runFrom w).2.attempts = w.attempts := by
  intro stored
  have hstore := runFrom_storeGrant grant w
  rcases hresult : stored.1 with fault | _
  · have hfails : (storeGrant grant).runFrom w =
        (.error fault, { w with now := w.nextTime, later := w.later.tail, store := stored.2 }) := by
      rw [hstore, ← hresult]
    rw [takeGrant, runFrom_bind_of_error hfails]
    exact ⟨rfl, rfl, rfl⟩
  · have hworks : (storeGrant grant).runFrom w =
        (.ok (), { w with now := w.nextTime, later := w.later.tail, store := stored.2 }) := by
      rw [hstore, ← hresult]
    rw [takeGrant, runFrom_bind_of_ok hworks, runFrom_bind_of_ok (runFrom_always _ _),
      runFrom_always]
    exact ⟨rfl, currentUser_slots _, (currentUser_silent read_keeps _).attempts⟩

theorem puts_refreshForm (app : Application) (held : String) :
    Puts app [("grant_type", "refresh_token"), ("client_id", app.clientId),
      ("refresh_token", held)] (tokenRequest app (refreshForm app held)) where
  method := rfl
  address := by rw [tokenRequest]
  form := ⟨refreshForm app held, rfl, Form.decode_encode _⟩

section

variable {expiry : Int64 → Option UInt64 → Int} {app : Application} {held : String}
  {w w' : World Unreliable} {attempt : Attempt Unreliable}

theorem RefreshEffect.of_fault {fault : Fault}
    (hyields : Yields (w.network.outcome (tokenRequest app (refreshForm app held))) (.error fault))
    (hheld : w.store.slots .refreshToken = some held)
    (hrequest : attempt.request = tokenRequest app (refreshForm app held))
    (hattempts : w'.attempts = w.attempts ++ [attempt])
    (hslots : w'.store.slots = w.store.slots) :
    RefreshEffect expiry app held w (.error fault) w' where
  asked := ⟨attempt, hattempts, hrequest ▸ puts_refreshForm app held⟩
  yields := ⟨_, hyields⟩
  refreshToken := Or.inl (by rw [hslots, hheld])
  secrets slot _ := by rw [hslots]
  refused other hother := by
    obtain rfl : fault = other := Except.error.inj (hyields.unique hother)
    exact ⟨rfl, hslots⟩
  granted := nofun

theorem RefreshEffect.of_grant {grant : Grant} {result : Except Fault (Option Identity)}
    (hyields : Yields (w.network.outcome (tokenRequest app (refreshForm app held))) (.ok grant))
    (hheld : w.store.slots .refreshToken = some held)
    (hrequest : attempt.request = tokenRequest app (refreshForm app held))
    (hattempts : w'.attempts = w.attempts ++ [attempt])
    (hrotates : Rotates grant.refreshToken w.store w'.store)
    (hsecrets : ∀ slot ∈ pendingSlots, w'.store.slots slot = w.store.slots slot)
    (hholds : result.isOk →
      Holds (expiry w.now grant.lifetime) grant w.store.slots w'.store.slots) :
    RefreshEffect expiry app held w result w' where
  asked := ⟨attempt, hattempts, hrequest ▸ puts_refreshForm app held⟩
  yields := ⟨_, hyields⟩
  refreshToken := by
    rcases hrotates with hsame | ⟨hsome, hnew⟩
    · exact Or.inl (hsame.trans hheld)
    · obtain ⟨new, hrefresh⟩ := Option.isSome_iff_exists.mp hsome
      exact Or.inr ⟨grant, new, hyields, hyields.filled hrefresh, hnew.trans hrefresh⟩
  secrets := hsecrets
  refused fault hfault := nomatch hyields.unique hfault
  granted hresult := ⟨grant, hyields, hholds hresult⟩

end

/-- A refresh sends the refresh token that is held, once, and never leaves the
session without one.  It fails without a change if nothing is granted, and if
it succeeds the session holds what was granted.  An expiry beyond the last time
is the last time. -/
theorem refresh_loses_no_token (app : Application) (w : World Unreliable) (held : String)
    (hreads : ReadsNeverFail w.store) (hheld : w.store.slots .refreshToken = some held) :
    RefreshEffect boundedExpiry app held w ((refresh app).runFrom w).1
      ((refresh app).runFrom w).2 := by
  obtain ⟨yielded, hyields⟩ := exists_yields
    (w.network.outcome (tokenRequest app (refreshForm app held)))
  obtain ⟨network, attempt, hrequest, hrun⟩ := exists_runFrom_refresh hreads hheld hyields
  rw [hrun]
  cases yielded with
  | error fault => exact .of_fault hyields hheld hrequest rfl rfl
  | ok grant =>
      obtain ⟨hok, hslots, hattempts⟩ := takeGrant_effect grant
        { w with
          store := w.store.counted, attempts := w.attempts ++ [attempt], network := network }
      refine .of_grant hyields hheld hrequest hattempts ?_ ?_ ?_
      · rw [Rotates, hslots]
        exact storeTokens_rotates _ _ _ _ w.store.counted
      · intro slot hslot
        rw [hslots]
        exact storeTokens_pending _ _ _ _ w.store.counted hslot
      · intro hresult
        rw [hslots]
        rcases hstored : (storeTokens w.now grant.accessToken grant.refreshToken
          grant.lifetime).runFrom w.store.counted with ⟨fault | _, u⟩
        · rw [hok, hstored] at hresult
          cases hresult
        · exact holds_of_storeTokens (u := w.store.counted) hstored

/-- A session that can be refreshed, some calls of its store fail, and the token
endpoint answers with a text. -/
def refreshable (failure : Nat → StoreCall → Option Fault) (answer : String) :
    World Unreliable where
  store := ⟨Slots.empty.put .refreshToken (some "r"), failure, 0⟩
  now := 5
  random := ⟨fun _ => 0, 0⟩
  network := { reply := fun _ => .answer 200 (some (Utf8.ofString answer)) }

/-- The access token cannot be written, but the refresh token that came with it
has replaced the old one by then. -/
theorem refresh_token_outlives_failure :
    let app : Application := ⟨"http://iam", "web", "http://app/callback", defaultScopes⟩
    let w := refreshable
      (fun _ what => if what = .set .accessToken then some (.storage (.stated "full")) else none)
      "\x7b\"access_token\":\"n\",\"refresh_token\":\"q\"\x7d"
    ReadsNeverFail w.store ∧ w.store.slots .refreshToken = some "r" ∧
      ((refresh app).runFrom w).1.isOk = false ∧
      ((refresh app).runFrom w).2.store.slots .refreshToken = some "q" ∧
      RefreshEffect boundedExpiry app "r" w ((refresh app).runFrom w).1
        ((refresh app).runFrom w).2 := by
  intro app w
  have hreads : ReadsNeverFail w.store := fun _ _ => rfl
  have hfails : ((refresh app).runFrom w).1.isOk = false := by decide +kernel
  exact ⟨hreads, rfl, hfails, by decide +kernel, refresh_loses_no_token app w "r" hreads rfl⟩

/-- A token whose lifetime goes beyond the last time is kept with an expiry
that comes before the end of it. -/
theorem refreshed_lifetime_ends :
    let app : Application := ⟨"http://iam", "web", "http://app/callback", defaultScopes⟩
    let w := refreshable (fun _ _ => none)
      "\x7b\"access_token\":\"n\",\"expires_in\":18446744073709551615\x7d"
    ReadsNeverFail w.store ∧ w.store.slots .refreshToken = some "r" ∧
      ¬RefreshEffect endlessExpiry app "r" w ((refresh app).runFrom w).1
        ((refresh app).runFrom w).2 := by
  intro app w
  refine ⟨fun _ _ => rfl, rfl, fun h => ?_⟩
  obtain ⟨grant, hyields, hholds⟩ := h.granted (by decide +kernel)
  have hgrant : grant = ⟨"n", none, some 18446744073709551615⟩ :=
    Option.some.inj (((yields_ok_iff _ _).mp hyields).symm.trans (by decide +kernel))
  subst hgrant
  exact absurd hholds.expiresAt (by decide +kernel)

end BillingAccess.SignIn
