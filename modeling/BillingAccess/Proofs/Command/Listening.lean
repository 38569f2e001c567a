/-
Waiting for the browser.

A login that listens waits in the world that its start has left.  The address
of the first visitor that has come back goes to the callback, and whoever calls
before is turned away.  If nobody comes back, the time runs out, and the secrets
of this login are still there for a callback that completes it.
-/
import BillingAccess.Command.Run
import BillingAccess.Proofs.Command.Steps
import BillingAccess.Proofs.SignIn.Completion
import BillingAccess.Proofs.SignIn.Visits

namespace BillingAccess.Command

open BillingAccess.Action SignIn

variable {setting : Setting} {w started : World Vault} {vault : Vault}

/-- What comes of an address is what comes of its callback. -/
structure EndsAs (outcome : Except Fault Unit × World Vault)
    (handled : Except Fault (Option Identity) × World Vault) : Prop where
  result : outcome.1 = handled.1.map fun _ => ()
  world : SameButPrinted handled.2 outcome.2

theorem complete_endsAs (setting : Setting) (url : Url) (w : World Vault) :
    EndsAs ((complete setting url).runFrom w)
      ((handleCallback setting.settings.application url).runFrom w) := by
  rw [complete]
  rcases hrun : (handleCallback setting.settings.application url).runFrom w with
    ⟨fault | user, w'⟩
  · rw [runFrom_bind_of_error hrun]
    exact ⟨rfl, w'.printed, rfl⟩
  · rw [runFrom_bind_of_ok hrun]
    cases user with
    | none => exact ⟨rfl, _, rfl⟩
    | some user => exact ⟨rfl, _, rfl⟩

/-- The world after the program has waited. -/
def afterVisits (w : World Vault) (replies : List String) (left : List (List UInt8)) :
    World Vault :=
  { w with visitors := left, replies := w.replies ++ replies }

theorem runFrom_awaitBrowser {listener : Listener} {replies : List String} {found : Option Url}
    {left : List (List UInt8)} (h : receive listener.base w.visitors = (replies, found, left)) :
    (always (awaitBrowser listener)).runFrom w = (.ok found, afterVisits w replies left) := by
  have hread : (awaitBrowser listener).run w =
      ((receive listener.base w.visitors).2.1,
        afterVisits w (receive listener.base w.visitors).1
          (receive listener.base w.visitors).2.2) :=
    rfl
  rw [runFrom_always, hread, h]

/-- The world once the program has said that it waits. -/
def announced (setting : Setting) (w : World Vault) : World Vault :=
  { w with printed := w.printed ++ ("Waiting for the redirect on " ++
      setting.settings.identity.redirectUri ++ " ...") ++ "\n" }

theorem runFrom_announcement (setting : Setting) (w : World Vault) :
    (printLine ("Waiting for the redirect on " ++ setting.settings.identity.redirectUri ++
      " ...")).runFrom w = (.ok (), announced setting w) :=
  rfl

theorem runFrom_completeWith_of_back (setting : Setting) (patience : UInt64)
    {listener : Listener} {replies : List String} {url : Url} {left : List (List UInt8)}
    (h : receive listener.base w.visitors = (replies, some url, left)) :
    (completeWith setting listener patience).runFrom w =
      (complete setting url).runFrom (afterVisits (announced setting w) replies left) := by
  have hwait := runFrom_awaitBrowser (w := announced setting w) h
  rw [completeWith, runFrom_bind_of_ok (runFrom_announcement setting w),
    runFrom_bind_of_ok hwait]

theorem runFrom_completeWith_of_nobody (setting : Setting) (patience : UInt64)
    {listener : Listener} {replies : List String} {left : List (List UInt8)}
    (h : receive listener.base w.visitors = (replies, none, left)) :
    (completeWith setting listener patience).runFrom w =
      (.error (.timedOut (.ofSeconds patience.toNat)),
        afterVisits (announced setting w) replies left) := by
  have hwait := runFrom_awaitBrowser (w := announced setting w) h
  rw [completeWith, runFrom_bind_of_ok (runFrom_announcement setting w),
    runFrom_bind_of_ok hwait]
  rfl

theorem SameButPrinted.afterVisits_announced (h : SameButPrinted started w) (setting : Setting)
    (replies : List String) (left : List (List UInt8)) :
    SameButPrinted (afterVisits started replies left)
      (afterVisits (announced setting w) replies left) := by
  obtain ⟨printed, rfl⟩ := h
  exact ⟨_, rfl⟩

/-- A login that has started goes on to wait. -/
theorem exists_runFrom_login {listener : Listener} {request : AuthorizationRequest}
    (hopen : setting.settings.storage.openIn setting.environment w.store = .ok vault)
    (hlisten : SignIn.listen setting.settings.identity.redirectUri w.ports = .ok listener)
    (hstart : (SignIn.start setting.settings.application).runFrom { w with store := vault } =
      (.ok request, started)) (noBrowser : Bool) (patience : UInt64) :
    ∃ waiting, SameButPrinted started waiting ∧
      (run setting (.login noBrowser true patience)).runFrom w =
        (completeWith setting listener patience).runFrom waiting := by
  let opened : World Vault := { w with store := vault }
  have hget : (get : Step (World Vault)).runFrom opened = (.ok opened, opened) := rfl
  have hports : SignIn.listen setting.settings.identity.redirectUri opened.ports =
      .ok listener := hlisten
  have hlistener : (listenIf setting true).runFrom opened = (.ok (some listener), opened) := by
    rw [listenIf, runFrom_bind_of_ok hget, if_pos rfl, hports]
    rfl
  rw [run, runLogin, runFrom_bind_of_ok (runFrom_openSession hopen),
    runFrom_bind_of_ok hlistener, runFrom_bind_of_ok hstart]
  obtain ⟨waiting, hprint, hsame⟩ := exists_runFrom_printLines [
    "\nOpen the following URL in your browser to sign in:\n",
    "  " ++ request.url.text ++ "\n"] started
  exact ⟨waiting, hsame, runFrom_bind_of_ok hprint⟩

/-- The address that was listened at is that of the redirect URI. -/
theorem parse_of_listen {uri : String} {ports : Ports} {listener : Listener}
    (h : SignIn.listen uri ports = .ok listener) : Url.parse uri = .ok listener.base := by
  rw [SignIn.listen] at h
  cases hparse : Url.parse uri with
  | error cause =>
      rw [hparse] at h
      cases h
  | ok base =>
      simp only [hparse, Except.mapError, bind, Except.bind] at h
      split at h
      case h_1 => cases h
      case h_2 => cases h
      case h_3 host port _ _ =>
        cases haddress : ports.bind host port with
        | error fault =>
            simp only [haddress] at h
            cases h
        | ok address =>
            simp only [haddress] at h
            cases h
            rfl

/-- The secrets of a sign-in are kept, and an address that brings its state
completes it as long as the place is open.  Unless that is the memory of the
program, they are found when it is opened again, so a later callback completes
it as well. -/
structure Completable (setting : Setting) (pkce : Pkce) (left : Vault) : Prop where
  state : left.held .state = some pkce.state
  verifier : left.held .codeVerifier = some pkce.verifier
  resumes : left.Willing → ∀ (w : World Vault) (url : Url) (code : String), w.store = left →
    BringsCode (Callback.ofUrl url) code → (Callback.ofUrl url).state = some pkce.state →
    Completes setting.settings.application code pkce.verifier w
      ((complete setting url).runFrom w).1 ((complete setting url).runFrom w).2
  reopens : setting.settings.storage.backend ≠ "memory" →
    setting.settings.storage.openIn setting.environment left = .ok left
  completes : left.Willing → ∀ (w : World Vault) (text : String) (url : Url) (code : String),
    setting.settings.storage.openIn setting.environment w.store = .ok left →
    Url.parse text = .ok url → BringsCode (Callback.ofUrl url) code →
    (Callback.ofUrl url).state = some pkce.state →
    Completes setting.settings.application code pkce.verifier w
      ((run setting (.callback text)).runFrom w).1 ((run setting (.callback text)).runFrom w).2

theorem completes_of_endsAs {app : Application} {code verifier : String}
    {outcome : Except Fault Unit × World Vault}
    {handled : Except Fault (Option Identity) × World Vault}
    (h : Completes app code verifier w handled.1 handled.2) (hends : EndsAs outcome handled) :
    Completes app code verifier w outcome.1 outcome.2 := by
  obtain ⟨hresult, printed, hworld⟩ := hends
  rw [hresult, hworld]
  refine ⟨h.asks, fun grant hyields => ?_⟩
  rw [isOk_map]
  exact h.granted grant hyields

/-- An address that brings the state of the secrets that are kept completes the
sign-in. -/
theorem complete_completes {code verifier : String} {url : Url} (hserves : w.store.Serves)
    (hbrings : BringsCode (Callback.ofUrl url) code)
    (hfits : Fits (Callback.ofUrl url) w.store.held code verifier) :
    Completes setting.settings.application code verifier w
      ((complete setting url).runFrom w).1 ((complete setting url).runFrom w).2 :=
  completes_of_endsAs (handleCallback_completes hserves hbrings.error hfits)
    (complete_endsAs setting url w)

theorem runFrom_callback {text : String} {url : Url}
    (hopen : setting.settings.storage.openIn setting.environment w.store = .ok vault)
    (hparse : Url.parse text = .ok url) :
    (run setting (.callback text)).runFrom w =
      (complete setting url).runFrom { w with store := vault } := by
  have hurl : (Action.ofExcept ((Url.parse text).mapError Fault.url)).runFrom
      { w with store := vault } = (.ok url, { w with store := vault }) := by
    rw [hparse]
    rfl
  rw [run, runCallback, runFrom_bind_of_ok (runFrom_openSession hopen), runFrom_bind_of_ok hurl]

/-- A start leaves what a callback needs. -/
theorem completable_of_start {request : AuthorizationRequest}
    (hopen : setting.settings.storage.openIn setting.environment w.store = .ok vault)
    (hstart : (SignIn.start setting.settings.application).runFrom { w with store := vault } =
      (.ok request, started)) : Completable setting request.pkce started.store := by
  obtain ⟨store, random, hkept, rfl⟩ := exists_of_runFrom_start hstart
  obtain ⟨_, between, hstate, hverifier⟩ := exists_of_runFrom_bind hkept
  have hfirst := Vault.set_of_runFrom hstate
  have hsecond := Vault.set_of_runFrom hverifier
  obtain ⟨hbetween, -, -⟩ := (keptIn_of_openIn hopen).of_set hfirst
  obtain ⟨-, hserves, hreopens⟩ := hbetween.of_set hsecond
  have hheld : store.held = (vault.held.put .state (some request.pkce.state)).put .codeVerifier
      (some request.pkce.verifier) := by
    rw [Vault.held_of_set hsecond, Vault.held_of_set hfirst]
  have hheldState : store.held .state = some request.pkce.state := by
    rw [hheld, Slots.put_other _ _ (by decide), Slots.put_same]
  have hheldVerifier : store.held .codeVerifier = some request.pkce.verifier := by
    rw [hheld, Slots.put_same]
  have hresumes : store.Willing → ∀ (w : World Vault) (url : Url) (code : String),
      w.store = store → BringsCode (Callback.ofUrl url) code →
      (Callback.ofUrl url).state = some request.pkce.state →
      Completes setting.settings.application code request.pkce.verifier w
        ((complete setting url).runFrom w).1 ((complete setting url).runFrom w).2 := by
    rintro hwilling w url code rfl hbrings hstate
    exact complete_completes (hserves hwilling) hbrings
      ⟨hbrings.code, ⟨_, hstate, hheldState⟩, hheldVerifier⟩
  refine ⟨hheldState, hheldVerifier, hresumes, hreopens, ?_⟩
  intro hwilling w text url code hopen hparse hbrings hstate
  have hcompletes := hresumes hwilling { w with store := store } url code rfl hbrings hstate
  rw [runFrom_callback hopen hparse]
  exact ⟨hcompletes.asks, hcompletes.granted⟩

/-- The address of a visitor goes to the callback, with the query of its target,
in the world that the start has left: nobody before it has changed more than
what browsers were answered.  Those after it are not received. -/
structure HandsOver (setting : Setting) (base : Url) (started : World Vault)
    (before after : List (List UInt8)) (target : List Char) (url : Url)
    (outcome : Except Fault Unit × World Vault) : Prop where
  query : Url.KeepsQuery base target url
  handed : ∃ turned handed, TurnedAway before turned ∧
    SameButPrinted (afterVisits started (turned ++ [(Visit.back url).reply]) after) handed ∧
    EndsAs outcome ((handleCallback setting.settings.application url).runFrom handed)
  unread : outcome.2.visitors = after

/-- The time has run out, in the world that the start has left.  Everybody was
turned away, and the sign-in can still be completed. -/
structure GivesUp (setting : Setting) (pkce : Pkce) (patience : UInt64) (started : World Vault)
    (outcome : Except Fault Unit × World Vault) : Prop where
  result : outcome.1 = .error (.timedOut (.ofSeconds patience.toNat))
  waited : ∃ turned, TurnedAway started.visitors turned ∧
    SameButPrinted (afterVisits started turned []) outcome.2
  completable : Completable setting pkce outcome.2.store

theorem completeWith_handsOver {waiting : World Vault} (hsame : SameButPrinted started waiting)
    {listener : Listener} {before after : List (List UInt8)} {bytes : List UInt8}
    {target : List Char} {url : Url} (hsplit : started.visitors = before ++ bytes :: after)
    (hbefore : NobodyBack listener.base before) (hcomes : ComesBack listener.base bytes target url)
    (patience : UInt64) :
    HandsOver setting listener.base started before after target url
      ((completeWith setting listener patience).runFrom waiting) := by
  obtain ⟨turned, hturned, hreceive⟩ := receive_of_comesBack hbefore hcomes after
  have hvisitors : waiting.visitors = before ++ bytes :: after := by
    obtain ⟨_, rfl⟩ := hsame
    exact hsplit
  rw [← hvisitors] at hreceive
  let handed := afterVisits (announced setting waiting) (turned ++ [(Visit.back url).reply]) after
  have hends := complete_endsAs setting url handed
  rw [← runFrom_completeWith_of_back setting patience hreceive] at hends
  constructor
  case query => exact Url.keepsQuery_of_join hcomes.joined
  case handed =>
    exact ⟨turned, handed, hturned, hsame.afterVisits_announced setting _ _, hends⟩
  case unread =>
    obtain ⟨-, _, hworld⟩ := hends
    rw [hworld]
    exact (handleCallback_secluded setting.settings.application url handed).visitors

theorem completeWith_givesUp {waiting : World Vault} (hsame : SameButPrinted started waiting)
    {listener : Listener} {pkce : Pkce} (hnobody : NobodyBack listener.base started.visitors)
    (hcompletable : Completable setting pkce started.store) (patience : UInt64) :
    GivesUp setting pkce patience started
      ((completeWith setting listener patience).runFrom waiting) := by
  obtain ⟨turned, hturned, hreceive⟩ := receive_of_nobodyBack hnobody
  have hvisitors : waiting.visitors = started.visitors := by
    obtain ⟨_, rfl⟩ := hsame
    rfl
  rw [← hvisitors] at hreceive
  have hwaited := hsame.afterVisits_announced setting turned []
  rw [runFrom_completeWith_of_nobody setting patience hreceive]
  constructor
  case result => rfl
  case waited => exact ⟨turned, hturned, hwaited⟩
  case completable =>
    obtain ⟨_, hworld⟩ := hwaited
    rw [hworld]
    exact hcompletable

/-- A login that listens hands over the address of the first visitor that has
come back, and of no other.  Without one it gives up, and a callback can
complete it. -/
theorem login_waits_for_return {listener : Listener} {request : AuthorizationRequest}
    (hopen : setting.settings.storage.openIn setting.environment w.store = .ok vault)
    (hlisten : SignIn.listen setting.settings.identity.redirectUri w.ports = .ok listener)
    (hstart : (SignIn.start setting.settings.application).runFrom { w with store := vault } =
      (.ok request, started)) (noBrowser : Bool) (patience : UInt64) :
    let outcome := (run setting (.login noBrowser true patience)).runFrom w
    Url.parse setting.settings.identity.redirectUri = .ok listener.base ∧
    started.visitors = w.visitors ∧ started.attempts = w.attempts ∧
    (∀ before bytes after target url, w.visitors = before ++ bytes :: after →
      NobodyBack listener.base before → ComesBack listener.base bytes target url →
      HandsOver setting listener.base started before after target url outcome) ∧
    (NobodyBack listener.base w.visitors →
      GivesUp setting request.pkce patience started outcome) := by
  intro outcome
  obtain ⟨waiting, hsame, hrun⟩ := exists_runFrom_login hopen hlisten hstart noBrowser patience
  have houtcome : outcome = (completeWith setting listener patience).runFrom waiting := hrun
  obtain ⟨hvisitors, hattempts⟩ :
      started.visitors = w.visitors ∧ started.attempts = w.attempts := by
    obtain ⟨_, _, -, rfl⟩ := exists_of_runFrom_start hstart
    exact ⟨rfl, rfl⟩
  rw [houtcome]
  refine ⟨parse_of_listen hlisten, hvisitors, hattempts, ?_, ?_⟩
  · intro before bytes after target url hsplit hbefore hcomes
    exact completeWith_handsOver hsame (hvisitors.trans hsplit) hbefore hcomes patience
  · intro hnobody
    rw [← hvisitors] at hnobody
    exact completeWith_givesUp hsame hnobody (completable_of_start hopen hstart) patience

/-- Browsers call on a program that waits. -/
def visited (visitors : List (List UInt8)) : World Vault where
  store := {}
  now := 0
  random := { byte := fun _ => 0 }
  network := { reply := fun _ => .silence }
  visitors := visitors

/-- One visitor sends nothing, one asks for an icon, and one sends no text; then
the browser comes back, and one more visitor is not received.  Without these two
the time runs out. -/
theorem return_after_other_visitors :
    let setting : Setting := { settings := {
      identity := { serverUrl := "http://iam.test" }
      storage := { backend := "keyring" } } }
    let base : Url :=
      { scheme := "http", host := some (.ipv4 0x7F000001), port := some 8765,
        path := .parts ["callback"] }
    let target := "http://127.0.0.1:8765/x/../callback?code=c".toList
    let before := [[], Utf8.ofString "GET /favicon.ico HTTP/1.1\r\n\r\n", [0x47, 0xFF, 0x0A]]
    let bytes := Utf8.ofString "GET http://127.0.0.1:8765/x/../callback?code=c HTTP/1.1\r\n\r\n"
    let after := [Utf8.ofString "GET /callback?code=d HTTP/1.1\r\n\r\n"]
    let outcome (visitors : List (List UInt8)) :=
      (run setting (.login false true 300)).runFrom (visited visitors)
    (∃ started, HandsOver setting base started before after target
      { base with query := some "code=c" } (outcome (before ++ bytes :: after))) ∧
    ∃ started pkce, GivesUp setting pkce 300 started (outcome before) := by
  intro setting base target before bytes after outcome
  let vault : Vault := ⟨.keyring Keyring.defaultService, {}, {}⟩
  have hopen (visitors : List (List UInt8)) :
      setting.settings.storage.openIn setting.environment (visited visitors).store = .ok vault :=
    rfl
  obtain ⟨listener, hlisten, hbase⟩ : ∃ listener,
      SignIn.listen setting.settings.identity.redirectUri = .ok listener ∧
        listener.base = base := by
    decide +kernel
  have hbefore : NobodyBack base before := by decide +kernel
  constructor
  · let w := visited (before ++ bytes :: after)
    have hok : ((SignIn.start setting.settings.application).runFrom
        { w with store := vault }).1.isOk := by
      decide +kernel
    obtain ⟨request, started, hstart⟩ := exists_runFrom_of_isOk hok
    obtain ⟨-, -, -, hback, -⟩ :=
      login_waits_for_return (w := w) (hopen (before ++ bytes :: after)) hlisten hstart false 300
    rw [hbase] at hback
    have hcomes : ComesBack base bytes target { base with query := some "code=c" } :=
      ⟨target?_eq_some_iff.mp (by decide +kernel), by decide +kernel, rfl⟩
    exact ⟨started, hback before bytes after target _ rfl hbefore hcomes⟩
  · let w := visited before
    have hok : ((SignIn.start setting.settings.application).runFrom
        { w with store := vault }).1.isOk := by
      decide +kernel
    obtain ⟨request, started, hstart⟩ := exists_runFrom_of_isOk hok
    obtain ⟨-, -, -, -, hnobody⟩ :=
      login_waits_for_return (w := w) (hopen before) hlisten hstart false 300
    rw [hbase] at hnobody
    exact ⟨started, request.pkce, hnobody hbefore⟩

end BillingAccess.Command
