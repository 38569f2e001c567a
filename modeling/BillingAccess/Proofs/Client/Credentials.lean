/-
The token that a request shows.

A program makes clients, gives them tokens and takes tokens from them, and
makes a second client from a first one for a single call.  An empty token is
none in each of these ways, so no client ever has one.  A token that a call
brings with it is shown as it is, and if it is empty, then an empty one is
shown in place of the client's.  A user that the address names is shown beside
any token.
-/
import BillingAccess.Proofs.Client.Origin
import BillingAccess.Storage.Memory

namespace BillingAccess

variable {σ : Type}

namespace Client

variable {client : Client} {call : Call}

theorem tokenOf_ne (text : String) : tokenOf text ≠ some "" := by
  rw [tokenOf]
  split
  case isTrue => exact (Option.some_ne_none _).symm
  case isFalse hfilled => exact fun hempty => hfilled (Option.some.inj hempty)

theorem bind_tokenOf_ne (token : Option String) : token.bind tokenOf ≠ some "" := by
  cases token with
  | none => exact (Option.some_ne_none _).symm
  | some text => exact tokenOf_ne text

theorem make_token {settings : ClientSettings} (h : make settings = .ok client) :
    client.token = settings.token.bind tokenOf := by
  rw [make] at h
  cases hbase : Url.parse (String.ofList (Text.trimEndBy (· == '/') settings.baseUrl.toList)) with
  | error cause =>
      rw [hbase] at h
      cases h
  | ok url =>
      rw [hbase] at h
      cases h
      rfl

theorem runFrom_fromSession [TokenStore σ] (settings : ClientSettings) (w : World σ) :
    ((fromSession settings).runFrom w).1 = make { settings with
      token := ((Session.accessToken w.now).run w.store).1 } := by
  rw [fromSession, Action.runFrom_bind, Action.runFrom_always, World.run_readClock]
  rfl

/-- No token is better than an empty one. -/
def Filled (client : Client) : Prop :=
  client.token ≠ some ""

theorem filled_of_make {settings : ClientSettings} (h : make settings = .ok client) :
    client.Filled := by
  rw [Filled, make_token h]
  exact bind_tokenOf_ne settings.token

theorem filled_withToken (client : Client) (token : String) : (client.withToken token).Filled :=
  tokenOf_ne token

theorem filled_withoutToken (client : Client) : client.withoutToken.Filled :=
  (Option.some_ne_none _).symm

theorem Filled.authorized (h : client.Filled) (token : Option String) :
    (client.authorized token).Filled := by
  cases token with
  | none => exact h
  | some token => exact filled_withToken client token

end Client

/-- What a program does with clients.  Those it has are counted from zero, in
the order in which they were made. -/
inductive Handling (σ : Type)
  | make (settings : ClientSettings)
  /-- The session and the clock are those of the moment. -/
  | fromSession (settings : ClientSettings) (w : World σ)
  | setToken (place : Nat) (token : String)
  | clearToken (place : Nat)
  /-- The new client stands beside the one that it is made from. -/
  | authorized (place : Nat) (token : Option String)

namespace Handling

open Client

variable [TokenStore σ]

/-- The clients after one more handling; a client that cannot be made is not
there. -/
def step (clients : List Client) : Handling σ → List Client
  | make settings => clients ++ (Client.make settings).toOption.toList
  | fromSession settings w =>
      clients ++ ((Client.fromSession settings).runFrom w).1.toOption.toList
  | setToken place token => clients.modify place (·.withToken token)
  | clearToken place => clients.modify place (·.withoutToken)
  | authorized place token => clients ++ (clients[place]?.map (·.authorized token)).toList

/-- The clients that a program has made. -/
def run (handlings : List (Handling σ)) : List Client :=
  handlings.foldl step []

/-- The client whose token is replaced, if one is. -/
def target? : Handling σ → Option Nat
  | setToken place _ | clearToken place => some place
  | make _ | fromSession _ _ | authorized _ _ => none

/-- All other clients stay as they are. -/
theorem step_other (clients : List Client) {handling : Handling σ} {i : Nat}
    (hi : i < clients.length) (h : handling.target? ≠ some i) :
    (handling.step clients)[i]? = clients[i]? := by
  cases handling with
  | make settings => exact List.getElem?_append_left hi
  | fromSession settings w => exact List.getElem?_append_left hi
  | authorized place token => exact List.getElem?_append_left hi
  | setToken place token =>
      have hne : place ≠ i := fun heq => h (congrArg some heq)
      exact List.getElem?_modify_ne _ clients hne
  | clearToken place =>
      have hne : place ≠ i := fun heq => h (congrArg some heq)
      exact List.getElem?_modify_ne _ clients hne

theorem filled_modify {clients : List Client} (h : ∀ client ∈ clients, client.Filled) (place : Nat)
    {change : Client → Client} (hchange : ∀ client, (change client).Filled) :
    ∀ client ∈ clients.modify place change, client.Filled := by
  intro client hclient
  obtain ⟨i, hi⟩ := List.mem_iff_getElem?.mp hclient
  rw [List.getElem?_modify] at hi
  obtain ⟨old, hold, rfl⟩ := Option.map_eq_some_iff.mp hi
  split
  · exact hchange old
  · exact h old (List.mem_of_getElem? hold)

theorem filled_append {clients : List Client} (h : ∀ client ∈ clients, client.Filled)
    {made : Option Client} (hmade : ∀ client ∈ made, client.Filled) :
    ∀ client ∈ clients ++ made.toList, client.Filled := by
  intro client hclient
  rcases List.mem_append.mp hclient with hold | hnew
  · exact h client hold
  · exact hmade client (Option.mem_toList.mp hnew)

theorem step_filled {clients : List Client} (h : ∀ client ∈ clients, client.Filled)
    (handling : Handling σ) : ∀ client ∈ handling.step clients, client.Filled := by
  cases handling with
  | make settings =>
      refine filled_append h fun client hclient => ?_
      exact filled_of_make (Action.eq_ok_of_toOption hclient)
  | fromSession settings w =>
      refine filled_append h fun client hclient => ?_
      rw [runFrom_fromSession] at hclient
      exact filled_of_make (Action.eq_ok_of_toOption hclient)
  | setToken place token =>
      exact filled_modify h place fun client => filled_withToken client token
  | clearToken place => exact filled_modify h place filled_withoutToken
  | authorized place token =>
      refine filled_append h fun client hclient => ?_
      obtain ⟨old, hold, rfl⟩ := Option.map_eq_some_iff.mp hclient
      exact (h old (List.mem_of_getElem? hold)).authorized token

theorem run_filled (handlings : List (Handling σ)) : ∀ client ∈ run handlings, client.Filled := by
  have hfrom (clients : List Client) (h : ∀ client ∈ clients, client.Filled) :
      ∀ client ∈ handlings.foldl step clients, client.Filled := by
    induction handlings generalizing clients with
    | nil => exact h
    | cons handling rest ih => exact ih (handling.step clients) (step_filled h handling)
  exact hfrom [] fun _ hclient => absurd hclient List.not_mem_nil

end Handling

namespace Client

variable {client : Client} {call : Call}

/-- What a call is to be made with: its own token if that is not empty, and else
that of the client. -/
def credential (client : Client) (call : Call) : Option String :=
  (call.token.filter (· ≠ "")).or client.token

/-- The request shows what the call is to be made with, and nothing else or
empty. -/
structure ShowsCredential (client : Client) (call : Call) (request : Request) : Prop where
  shown : request.authorizations = ((client.credential call).map ("Bearer " ++ ·)).toList
  filled : ∀ token ∈ client.credential call, token ≠ ""

/-- An empty token of the call is shown, whatever the client has. -/
theorem bearer_mem_authorizations_of_empty (h : call.token = some "") (url : Url) :
    "Bearer " ∈ (client.requestOf call url).authorizations := by
  have hheader : (client.requestOf call url).authorization? = some "Bearer " := by
    rw [Request.authorization?, requestOf, h]
    rfl
  rw [Request.authorizations, hheader]
  exact List.mem_append_right _ (List.mem_singleton_self _)

/-- A user of the address comes first. -/
theorem authorizations_of_user {request : Request} {user : String × String}
    (h : request.user? = some user) :
    request.authorizations = Request.basic user :: request.authorization?.toList := by
  rw [Request.authorizations, h]
  rfl

theorem authorizations_of_nobody {request : Request} (h : request.user? = none) :
    request.authorizations = request.authorization?.toList := by
  rw [Request.authorizations, h]
  rfl

/-- What shows a user is not what shows a token. -/
theorem basic_ne_bearer (user : String × String) (token : String) :
    Request.basic user ≠ "Bearer " ++ token := by
  intro hsame
  have hlists : (Request.basic user).toList = ("Bearer " ++ token).toList := congrArg _ hsame
  rw [Request.basic, String.toList_append, String.toList_append] at hlists
  simp at hlists

theorem ShowsCredential.user?_eq_none {request : Request}
    (h : ShowsCredential client call request) : request.user? = none := by
  cases huser : request.user? with
  | none => rfl
  | some user =>
      have hshown := h.shown
      rw [authorizations_of_user huser] at hshown
      have hmem : Request.basic user ∈ ((client.credential call).map ("Bearer " ++ ·)).toList := by
        rw [← hshown]
        exact List.mem_cons_self
      obtain ⟨token, -, hbearer⟩ := Option.map_eq_some_iff.mp (Option.mem_toList.mp hmem)
      exact absurd hbearer.symm (basic_ne_bearer user token)

theorem Filled.credential_ne (h : client.Filled) (call : Call) :
    client.credential call ≠ some "" := by
  rw [credential]
  cases hown : call.token.filter (· ≠ "") with
  | none => exact h
  | some token =>
      rw [Option.some_or]
      rintro ⟨rfl⟩
      simpa using (Option.filter_eq_some_iff.mp hown).2

theorem Filled.requestOf_shows_iff (h : client.Filled) (url : Url) :
    ShowsCredential client call (client.requestOf call url) ↔
      call.token ≠ some "" ∧ url.user? = none := by
  constructor
  · intro hshows
    refine ⟨fun hempty => ?_, hshows.user?_eq_none⟩
    have hmem : "Bearer " ∈ (client.requestOf call url).authorizations :=
      bearer_mem_authorizations_of_empty hempty url
    rw [hshows.shown, Option.mem_toList] at hmem
    obtain ⟨token, htoken, hbearer⟩ := Option.map_eq_some_iff.mp hmem
    have hblank : "Bearer " ++ token = "Bearer " ++ "" := hbearer
    exact hshows.filled token htoken ((String.append_right_inj "Bearer ").mp hblank)
  · rintro ⟨hown, hnobody⟩
    refine ⟨?_, fun token htoken hempty => h.credential_ne call (hempty ▸ htoken)⟩
    have hsame : call.token.filter (· ≠ "") = call.token := by
      cases htoken : call.token with
      | none => rfl
      | some token => exact Option.filter_some_pos (by simpa [htoken] using hown)
    have hnone : (client.requestOf call url).user? = none := hnobody
    rw [authorizations_of_nobody hnone, credential, hsame]
    rfl

/-- What a call of a program's client shows: the token of the call, or else that
of the client, unless the call brings an empty one or its address names a user. -/
structure Discloses (client : Client) (call : Call) (request : Request) : Prop where
  shown_iff : ShowsCredential client call request ↔ call.token ≠ some "" ∧ request.user? = none
  empty : call.token = some "" → "Bearer " ∈ request.authorizations
  user : ∀ user ∈ request.user?, request.authorizations.head? = some (Request.basic user)

theorem Filled.requestOf_shows (h : client.Filled) (url : Url) :
    Discloses client call (client.requestOf call url) where
  shown_iff := h.requestOf_shows_iff url
  empty hempty := bearer_mem_authorizations_of_empty hempty url
  user user huser := by
    rw [authorizations_of_user huser]
    rfl

/-- The address of a request of the interface names the user of the base URL. -/
theorem user?_of_destination {endpoint : Endpoint} {url : Url}
    (h : client.resolve endpoint.call = .ok url) {sent : Url}
    (hsent : (client.requestOf endpoint.call url).destination = .ok sent) :
    (client.requestOf endpoint.call url).user? = client.baseUrl.user? := by
  have hsame := (requestOf_keepsToOrigin h).authority sent hsent
  obtain rfl : url = sent := Except.ok.inj (scheme_of_destination hsent).1
  change url.user? = client.baseUrl.user?
  rw [Url.user?, Url.user?, hsame.username, hsame.password]

/-- No client that a program makes has an empty token, and none is changed by
one that is made from it.  A request shows the token of its call, or else that
of its client, and never an empty one, exactly if the call brings no empty one
and the address names no user.  No function of the interface brings one, and
whom their addresses name is settled by the base URL. -/
theorem credentials_never_empty [TokenStore σ] (handlings : List (Handling σ)) :
    (∀ client ∈ Handling.run handlings, client.token ≠ some "" ∧
      (∀ (call : Call) (w : World σ), ∃ made,
        ((client.execute call).runFrom w).2.attempts = w.attempts ++ made ∧ made.length ≤ 1 ∧
          ∀ attempt ∈ made, Discloses client call attempt.request) ∧
      ∀ (endpoint : Endpoint) (w : World σ), ∃ made,
        (client.worldAfter w endpoint).attempts = w.attempts ++ made ∧
          ∀ attempt ∈ made,
            (ShowsCredential client endpoint.call attempt.request ↔
              attempt.request.user? = none) ∧
            ∀ sent, attempt.request.destination = .ok sent →
              attempt.request.user? = client.baseUrl.user?) ∧
    ∀ (place : Nat) (token : Option String), ∀ i < (Handling.run handlings).length,
      (Handling.run (handlings ++ [.authorized place token]))[i]? =
        (Handling.run handlings)[i]? := by
  constructor
  · intro client hclient
    have hfilled := Handling.run_filled handlings client hclient
    refine ⟨hfilled, fun call w => ?_, fun endpoint w => ?_⟩
    · obtain ⟨made, hattempts, hlength, hmade⟩ := (runFrom_execute client call w).2.exists_made
      refine ⟨made, hattempts, hlength, fun attempt hattempt => ?_⟩
      obtain ⟨url, -, hrequest⟩ := hmade attempt hattempt
      rw [hrequest]
      exact hfilled.requestOf_shows url
    · obtain ⟨made, hattempts, -, hmade⟩ :=
        (worldAfter_askedOnce client endpoint w).exists_made
      refine ⟨made, hattempts, fun attempt hattempt => ?_⟩
      obtain ⟨url, hresolve, hrequest⟩ := hmade attempt hattempt
      have hnone : endpoint.call.token ≠ some "" := by
        rw [endpoint.call_token]
        exact (Option.some_ne_none _).symm
      rw [hrequest]
      refine ⟨?_, fun sent hsent => user?_of_destination hresolve hsent⟩
      rw [hfilled.requestOf_shows_iff]
      exact and_iff_right hnone
  · intro place token i hi
    rw [Handling.run, List.foldl_append]
    have hstays : (Handling.authorized (σ := σ) place token).target? ≠ some i :=
      (Option.some_ne_none i).symm
    exact Handling.step_other _ hi hstays

/-- A program whose settings have an empty token, and which gives one to a
second client. -/
def blankHandlings : List (Handling Slots) := [
  .make { baseUrl := "http://api.test/", token := some "" },
  .setToken 0 "t",
  .authorized 0 (some "")]

/-- A memory whose peer is never there. -/
def lonelyWorld : World Slots where
  store := Slots.empty
  now := 0
  random := { byte := fun _ => 0 }
  network := { reply := fun _ => .hangUp }

theorem run_blankHandlings :
    Handling.run blankHandlings = [testClient.withToken "t", testClient] := by
  decide +kernel

theorem blank_tokens_dropped :
    let call := (Call.get Endpoint.planPath).withToken "own"
    testClient ∈ Handling.run blankHandlings ∧ testClient.token ≠ some "" ∧
      (∀ attempt ∈ ((testClient.execute call).runFrom lonelyWorld).2.attempts,
        attempt.request.authorizations = ["Bearer own"]) ∧
      0 < (Handling.run blankHandlings).length ∧
      (Handling.run (blankHandlings ++ [.authorized 0 (some "x")]))[0]? =
        some (testClient.withToken "t") := by
  intro call
  obtain ⟨hclients, hstay⟩ := credentials_never_empty blankHandlings
  have hmem : testClient ∈ Handling.run blankHandlings := by
    rw [run_blankHandlings]
    exact List.mem_cons_of_mem _ (List.mem_singleton_self testClient)
  have hlength : 0 < (Handling.run blankHandlings).length := by
    rw [run_blankHandlings]
    decide
  obtain ⟨hfilled, hcalls, -⟩ := hclients testClient hmem
  obtain ⟨made, hattempts, -, hmade⟩ := hcalls call lonelyWorld
  have hmade' : ((testClient.execute call).runFrom lonelyWorld).2.attempts = made := hattempts
  have hnobody : ∀ attempt ∈ made, attempt.request.user? = none := by
    rw [← hmade']
    decide +kernel
  refine ⟨hmem, hfilled, ?_, hlength, ?_⟩
  · intro attempt hattempt
    rw [hmade'] at hattempt
    exact ((hmade attempt hattempt).shown_iff.mpr
      ⟨by decide, hnobody attempt hattempt⟩).shown
  · rw [hstay 0 (some "x") 0 hlength, run_blankHandlings]
    rfl

/-- A client of an interface whose address names a user. -/
def userClient : Client :=
  { testClient with baseUrl := { testClient.baseUrl with username := "user", password := "pw" } }

/-- A call with an empty token shows an empty one, although its client has a
token to show, and one to an address with a user shows that user. -/
theorem blank_token_shown :
    (testClient.withToken "t" ∈ Handling.run blankHandlings ∧
      ∃ attempt,
        (((testClient.withToken "t").execute
          ((Call.get Endpoint.planPath).withToken "")).runFrom lonelyWorld).2.attempts =
            [attempt] ∧
        attempt.delivered = true ∧ attempt.request.authorizations = ["Bearer "] ∧
        ¬ShowsCredential (testClient.withToken "t") ((Call.get Endpoint.planPath).withToken "")
          attempt.request) ∧
    Client.make { baseUrl := "http://user:pw@api.test" } = .ok userClient ∧
      ∃ attempt,
        ((userClient.execute (Call.get Endpoint.planPath)).runFrom lonelyWorld).2.attempts =
          [attempt] ∧
        attempt.delivered = true ∧ attempt.request.authorizations = ["Basic dXNlcjpwdw=="] ∧
        ¬ShowsCredential userClient (Call.get Endpoint.planPath) attempt.request := by
  have hmem : testClient.withToken "t" ∈ Handling.run blankHandlings := by
    rw [run_blankHandlings]
    exact List.mem_cons_self
  refine ⟨⟨hmem, _, rfl, by decide +kernel, by decide +kernel, fun hshows => ?_⟩,
    Action.eq_ok_of_toOption (by decide +kernel), _, rfl, by decide +kernel, by decide +kernel,
    fun hshows => ?_⟩
  · have hfilled := filled_withToken testClient "t"
    exact ((hfilled.requestOf_shows_iff _).mp hshows).1 rfl
  · have huser : userClient.baseUrl.user? = none := hshows.user?_eq_none
    exact absurd huser (by decide +kernel)

end Client

end BillingAccess
