/-
Which token the client of a command shows.

A token can come from a variable, from the settings file and from the session,
and each layer has its own idea of having none.  An empty variable does not
count.  An empty text in the file does count as a token of the settings, so the
session is not asked, and then it is dropped: with it the client has no token,
although the session may have one.  That, and a session whose token is an empty
text, are the only ways in which a client misses a token that is there.
-/
import BillingAccess.Proofs.Client.Credentials
import BillingAccess.Proofs.Session.Failures
import BillingAccess.Settings.Load

namespace BillingAccess

/-- The token of a session: the one that is stored, while its expiry is absent
or lies ahead. -/
def Session.storedToken (slots : Slots) (now : Int64) : Option String :=
  if lastsBeyond now (slots .expiresAt) then slots .accessToken else none

namespace Settings

open BillingAccess.Client BillingAccess.Session

/-- The token of loaded settings: that of the variable if it is not empty, and
else what the file says. -/
theorem load_token {path : Path} {disk : Disk} {env : Environment} {overrides : Overrides}
    {settings : Settings} (h : load path disk env overrides = .ok settings) :
    ∃ written, ofFile path disk = .ok written ∧
      settings.commerce.token =
        ((env.get? "HANZO_COMMERCE_TOKEN").filter (· ≠ "")).or written.commerce.token := by
  rw [load] at h
  cases hfile : ofFile path disk with
  | error fault =>
      rw [hfile] at h
      cases h
  | ok written =>
      rw [hfile] at h
      obtain rfl := Except.ok.inj h
      exact ⟨written, rfl, rfl⟩

/-- The file has an empty token, and no variable replaces it. -/
def BlankOnLoading (path : Path) (disk : Disk) (env : Environment) : Prop :=
  (∃ written, ofFile path disk = .ok written ∧ written.commerce.token = some "") ∧
    ∀ value, env.get? "HANZO_COMMERCE_TOKEN" = some value → value = ""

theorem load_token_blank_iff {path : Path} {disk : Disk} {env : Environment}
    {overrides : Overrides} {settings : Settings}
    (h : load path disk env overrides = .ok settings) :
    settings.commerce.token = some "" ↔ BlankOnLoading path disk env := by
  obtain ⟨written, hfile, htoken⟩ := load_token h
  rw [htoken, BlankOnLoading]
  have hwritten : (∃ other, ofFile path disk = .ok other ∧ other.commerce.token = some "") ↔
      written.commerce.token = some "" := by
    constructor
    · rintro ⟨other, hother, hblank⟩
      obtain rfl : written = other := Except.ok.inj (hfile.symm.trans hother)
      exact hblank
    · exact fun hblank => ⟨written, hfile, hblank⟩
  rw [hwritten]
  cases hvalue : env.get? "HANZO_COMMERCE_TOKEN" with
  | none => simp
  | some value =>
      by_cases hempty : value = ""
      · simp [hempty]
      · simp [hempty, Option.filter]

/-- The token that a command is to show: that of the settings if it is not
empty, and else that of the session. -/
def wantedToken (settings : Settings) (session : Option String) : Option String :=
  (settings.commerce.token.filter (· ≠ "")).or session

/-- An empty text stands where a token is looked for: in the settings, in front
of a token of the session, or in the session itself. -/
def BlankInTheWay (settings : Settings) (session : Option String) : Prop :=
  settings.commerce.token = some "" ∧ session.isSome ∨
    settings.commerce.token = none ∧ session = some ""

/-- The token that a client comes to have. -/
def givenToken (settings : Settings) (session : Option String) : Option String :=
  match settings.commerce.token with
  | some token => tokenOf token
  | none => session.bind tokenOf

theorem token_of_client {σ : Type} [TokenStore σ] {settings : Settings} {w w' : World σ}
    {client : Client} (h : settings.client.runFrom w = (.ok client, w')) :
    client.token =
      settings.givenToken ((Session.accessToken w.now).run w.store).1 := by
  have hresult := congrArg Prod.fst h
  rw [Settings.client] at hresult
  rw [givenToken]
  cases htoken : settings.commerce.token with
  | some token =>
      rw [htoken, Action.runFrom_ofExcept] at hresult
      have hmade := make_token hresult
      rw [hmade, clientSettings, htoken]
      rfl
  | none =>
      rw [htoken] at hresult
      exact make_token ((runFrom_fromSession settings.clientSettings w).symm.trans hresult)

theorem filter_eq_tokenOf (token : String) :
    (some token).filter (· ≠ "") = tokenOf token := by
  rw [tokenOf]
  split
  case isTrue hempty => rw [hempty]; rfl
  case isFalse hfilled => exact Option.filter_some_pos (by simpa using hfilled)

theorem givenToken_eq_wantedToken_iff (settings : Settings) (session : Option String) :
    settings.givenToken session = settings.wantedToken session ↔
      ¬settings.BlankInTheWay session := by
  rw [givenToken, wantedToken, BlankInTheWay]
  cases settings.commerce.token with
  | none =>
      cases session with
      | none => simp
      | some token => by_cases hempty : token = "" <;> simp [tokenOf, hempty]
  | some token =>
      rw [filter_eq_tokenOf]
      by_cases hempty : token = ""
      · cases session <;> simp [tokenOf, hempty]
      · simp [tokenOf, hempty]

/-- A client has the token of the settings, or else that of the session at that
moment, unless an empty text stands in the way.  Settings that were loaded hold
one exactly if the file does and no variable replaces it. -/
theorem client_token_wanted_iff (settings : Settings) {w w' : World Unreliable} {client : Client}
    (h : settings.client.runFrom w = (.ok client, w')) :
    let session := ((Session.accessToken w.now).run w.store).1
    (ReadsNeverFail w.store → session = Session.storedToken w.store.slots w.now) ∧
      client.token = settings.givenToken session ∧
      (client.token = settings.wantedToken session ↔ ¬settings.BlankInTheWay session) ∧
      ∀ path disk env overrides, load path disk env overrides = .ok settings →
        (settings.commerce.token = some "" ↔ BlankOnLoading path disk env) := by
  intro session
  have htoken := token_of_client h
  refine ⟨fun hreads => hreads.accessToken_eq w.now, htoken, ?_,
    fun _ _ _ _ => load_token_blank_iff⟩
  rw [htoken]
  exact givenToken_eq_wantedToken_iff settings session

/-- A disk with one file of settings, at its usual place. -/
def diskWith (text : String) : Disk where
  nodes := [(["work", "config.yaml"], .file (Utf8.ofString text) Disk.privateMode)]

/-- A session whose token expires at 60. -/
def signedInStore : Unreliable where
  slots := fun
    | .accessToken => some "t"
    | .expiresAt => some "60"
    | _ => none
  failure := fun _ _ => none

/-- A world with that session, and without a peer. -/
def signedInWorld (now : Int64) : World Unreliable where
  store := signedInStore
  now := now
  random := { byte := fun _ => 0 }
  network := { reply := fun _ => .silence }

/-- Neither the file nor the empty variable names a token, so the one of the
session is shown in the last moment before it expires. -/
theorem session_token_shown :
    let settings : Settings := { commerce := { baseUrl := "http://api.test" } }
    let env : Environment := { values := [("HANZO_COMMERCE_TOKEN", "")] }
    let file := diskWith "commerce:\n  base_url: http://api.test\n"
    load ⟨"config.yaml"⟩ file env {} = .ok settings ∧
      ∃ client w', settings.client.runFrom (signedInWorld 59) = (.ok client, w') ∧
        client.token = some "t" := by
  intro settings env file
  have hload : (load ⟨"config.yaml"⟩ file env {}).toOption = some settings := by
    decide +kernel
  have hclient : (settings.client.runFrom (signedInWorld 59)).1.toOption =
      some (testClient.withToken "t") := by
    decide +kernel
  have hrun := Action.runFrom_eq_of_toOption hclient
  refine ⟨Action.eq_ok_of_toOption hload, _, _, hrun, ?_⟩
  obtain ⟨hsession, hgiven, -⟩ := client_token_wanted_iff settings hrun
  have hstored : Session.storedToken signedInStore.slots 59 = some "t" := by decide +kernel
  rw [hgiven, hsession fun _ _ => rfl]
  exact congrArg settings.givenToken hstored

/-- An empty token in the file hides that of the session. -/
theorem blank_setting_hides_session :
    let settings : Settings := { commerce := { baseUrl := "http://api.test", token := some "" } }
    let file := diskWith "commerce:\n  base_url: http://api.test\n  token: ''\n"
    load ⟨"config.yaml"⟩ file {} {} = .ok settings ∧
      ((Session.accessToken 59).run signedInStore).1 = some "t" ∧
      ∃ client w', settings.client.runFrom (signedInWorld 59) = (.ok client, w') ∧
        client.token = none ∧ settings.wantedToken (some "t") = some "t" := by
  intro settings file
  have hload : (load ⟨"config.yaml"⟩ file {} {}).toOption = some settings := by
    decide +kernel
  have hclient : (settings.client.runFrom (signedInWorld 59)).1.toOption = some testClient := by
    decide +kernel
  exact ⟨Action.eq_ok_of_toOption hload, by decide +kernel, testClient, _,
    Action.runFrom_eq_of_toOption hclient, rfl, rfl⟩

end Settings

end BillingAccess
