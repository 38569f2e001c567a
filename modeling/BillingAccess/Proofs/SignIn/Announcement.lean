/-
What the address of a sign-in says.

It is the address of the server's login page with seven pairs added.  A server
whose own URL says nothing has a login page whose URL says nothing, so the
pairs are all that is said, whatever is in them.  Of the two secrets that are
kept for the way back, the state is shown as it is, and the verifier only
through its digest.
-/
import BillingAccess.Proofs.Base64
import BillingAccess.Proofs.SignIn.Failures
import BillingAccess.Proofs.Text.Trimmed
import BillingAccess.Proofs.Url.Ending

namespace BillingAccess.SignIn

open BillingAccess.Action Unreliable Session

/-- The login page is asked for a code for the application, and the slots hold
what is needed to take it. -/
structure Announces (app : Application) (request : AuthorizationRequest) (before after : Slots) :
    Prop where
  page : Url.parse app.authorizeEndpoint = .ok { request.url with query := none }
  pairs : request.url.queryPairs = [
    ("client_id", app.clientId),
    ("response_type", "code"),
    ("redirect_uri", app.redirectUri),
    ("scope", app.scopes),
    ("state", request.pkce.state),
    ("code_challenge", request.pkce.challenge),
    ("code_challenge_method", "S256")]
  state : after .state = some request.pkce.state
  verifier : after .codeVerifier = some request.pkce.verifier
  digest : Base64.decode? .urlSafe request.pkce.challenge.toList =
    some (Sha256.digest (Utf8.ofString request.pkce.verifier))
  canonical : request.pkce.challenge =
    Base64.encode .urlSafe (Sha256.digest (Utf8.ofString request.pkce.verifier))
  unpadded : '=' ∉ request.pkce.challenge.toList
  others : ∀ slot, slot ∉ pendingSlots → after slot = before slot

section

variable {app : Application}

/-- A mark in the address of the login page is one in the URL of the server. -/
theorem mem_of_mem_authorizeEndpoint {mark : Char} (hmark : mark ∉ authorizePath.toList)
    (h : mark ∈ app.authorizeEndpoint.toList) : mark ∈ app.serverUrl.toList := by
  rw [Application.authorizeEndpoint, String.toList_append, List.mem_append,
    or_iff_left hmark, Application.baseUrl, String.toList_ofList] at h
  exact Text.mem_of_mem_trimEndBy h

theorem loginPage_query_eq_none {server page : Url}
    (hserver : Url.parse app.serverUrl = .ok server) (hquery : server.query = none)
    (hfragment : server.fragment = none) (hpage : Url.parse app.authorizeEndpoint = .ok page) :
    page.query = none := by
  obtain ⟨hquestion, hnumber⟩ := (Url.parse_unmarked_iff hserver).mp ⟨hquery, hfragment⟩
  refine ((Url.parse_unmarked_iff hpage).mpr ⟨fun h => hquestion ?_, fun h => hnumber ?_⟩).1
  · exact mem_of_mem_authorizeEndpoint (by decide) h
  · exact mem_of_mem_authorizeEndpoint (by decide) h

/-- What a start that succeeds has done. -/
theorem start_of_ok {w w' : World Unreliable} {request : AuthorizationRequest}
    (h : (start app).runFrom w = (.ok request, w')) :
    request.pkce = drawnIn w ∧ authorizationUrl app request.pkce = .ok request.url ∧
      (setPending request.pkce.state request.pkce.verifier).runFrom w.store =
        (.ok (), w'.store) := by
  rw [runFrom_start] at h
  rcases hset : (setPending (drawnIn w).state (drawnIn w).verifier).runFrom w.store with
    ⟨fault | _, kept⟩ <;> rw [hset] at h
  · cases h
  · cases hurl : authorizationUrl app (drawnIn w) with
    | error cause =>
        simp only [hurl] at h
        cases h
    | ok url =>
        simp only [hurl] at h
        cases h
        exact ⟨rfl, hurl, hset⟩

theorem drawnIn_challenge (w : World Unreliable) :
    (drawnIn w).challenge =
      Base64.encode .urlSafe (Sha256.digest (Utf8.ofString (drawnIn w).verifier)) :=
  rfl

end

/-- If the URL of the server says nothing, then a start that succeeds gives an
address that says seven things and no more.  The state that it says and the
verifier of its challenge are kept, and nothing else is written. -/
theorem start_announces_what_it_keeps (app : Application) (w : World Unreliable) {server : Url}
    (hserver : Url.parse app.serverUrl = .ok server) (hquery : server.query = none)
    (hfragment : server.fragment = none) {request : AuthorizationRequest} {w' : World Unreliable}
    (h : (start app).runFrom w = (.ok request, w')) :
    Announces app request w.store.slots w'.store.slots := by
  obtain ⟨hdrawn, hurl, hset⟩ := start_of_ok h
  obtain ⟨hstate, hverifier⟩ := setPending_of_ok hset
  have hkeeps := setPending_keeps request.pkce.state request.pkce.verifier w.store
  rw [hset] at hkeeps
  have hchallenge := drawnIn_challenge w
  rw [← hdrawn] at hchallenge
  rw [authorizationUrl] at hurl
  cases hpage : Url.parse app.authorizeEndpoint with
  | error cause =>
      rw [hpage] at hurl
      cases hurl
  | ok page =>
      have hnone := loginPage_query_eq_none hserver hquery hfragment hpage
      rw [hpage] at hurl
      have hadded := Except.ok.inj hurl
      constructor
      case page => rw [← hadded, Url.appendPairs_without_query hnone, hpage]
      case pairs =>
        rw [← hadded]
        exact Url.queryPairs_appendPairs hnone _
      case state => exact hstate
      case verifier => exact hverifier
      case digest =>
        rw [hchallenge]
        exact Base64.decode?_encode _ _
      case canonical => exact hchallenge
      case unpadded =>
        rw [hchallenge]
        exact Base64.padding_not_mem_encode _ _
      case others => exact hkeeps.2

/-- A client whose name and scopes are full of marks is announced under that
name, and with those scopes. -/
theorem marks_announced :
    let app : Application := ⟨"http://iam/", "a&state=b", "http://app/?x=1#y", "é+%20 email"⟩
    let server : Url := { scheme := "http", host := some (.named "iam"), path := .parts [""] }
    let w := newcomer fun _ _ => none
    Url.parse app.serverUrl = .ok server ∧ server.query = none ∧ server.fragment = none ∧
      ∃ request w', (start app).runFrom w = (.ok request, w') ∧
        Announces app request w.store.slots w'.store.slots := by
  intro app server w
  have hserver : Url.parse app.serverUrl = .ok server := eq_ok_of_toOption (by decide +kernel)
  have hworks : ((start app).runFrom w).1.isOk = true := by decide +kernel
  rcases hrun : (start app).runFrom w with ⟨fault | request, w'⟩ <;> rw [hrun] at hworks
  · cases hworks
  · exact ⟨hserver, rfl, rfl, request, w', rfl,
      start_announces_what_it_keeps app w hserver rfl rfl hrun⟩

end BillingAccess.SignIn
