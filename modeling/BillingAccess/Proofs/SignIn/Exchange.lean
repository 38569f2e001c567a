/-
What a callback does to a session on a store that never fails.

A code is exchanged for what the answer grants: the token is kept with its
expiry, and a refresh token if there is one.  An answer that grants nothing
decides the fault of the callback and leaves the tokens as they were.  A token
that comes without a code is kept in the same way.  Either way the secrets are
gone.  Times end with the last one of 64 bits, and so does an expiry.
-/
import BillingAccess.Proofs.Session.Failures
import BillingAccess.Proofs.Session.Lifetime
import BillingAccess.Proofs.SignIn.Answer
import BillingAccess.Proofs.SignIn.Gate
import BillingAccess.Proofs.Text.Digits

namespace BillingAccess.SignIn

open BillingAccess.Action Unreliable Session

variable {α : Type}

/-- The text is a number of seconds in 64 bits, perhaps after a plus and
between blanks. -/
def SaysSeconds (text : String) (seconds : UInt64) : Prop :=
  ∃ digits, digits ≠ [] ∧
    ((Text.trim text).toList = digits ∨ (Text.trim text).toList = '+' :: digits) ∧
    Decimal.Spells digits seconds.toNat

/-- What is no number of seconds says as little as nothing. -/
inductive Lasts : Option String → Option UInt64 → Prop
  | seconds {text : String} {seconds : UInt64} (h : SaysSeconds text seconds) :
      Lasts (some text) (some seconds)
  | unclear {text : String} (h : ∀ seconds, ¬SaysSeconds text seconds) : Lasts (some text) none
  | absent : Lasts none none

theorem saysSeconds_iff (text : String) (seconds : UInt64) :
    SaysSeconds text seconds ↔
      (Decimal.readUnsigned? Decimal.greatest64 (Text.trim text).toList).map UInt64.ofNat =
        some seconds := by
  rw [Option.map_eq_some_iff]
  constructor
  · rintro ⟨digits, hdigits, htext, hspells⟩
    refine ⟨seconds.toNat, ?_, UInt64.ofNat_toNat⟩
    rw [Decimal.readUnsigned?_eq_some_iff]
    exact ⟨digits, hdigits, htext, hspells, Nat.le_of_lt_succ seconds.toNat_lt⟩
  · rintro ⟨n, hread, rfl⟩
    rw [Decimal.readUnsigned?_eq_some_iff] at hread
    obtain ⟨digits, hdigits, htext, hspells, hle⟩ := hread
    refine ⟨digits, hdigits, htext, ?_⟩
    rwa [UInt64.toNat_ofNat_of_lt' (Nat.lt_succ_of_le hle)]

theorem lasts_iff (callback : Callback) (lifetime : Option UInt64) :
    Lasts callback.expiresIn lifetime ↔ lifetime = callback.lifetime? := by
  rw [Callback.lifetime?]
  cases callback.expiresIn with
  | none =>
      constructor
      · rintro ⟨⟩
        rfl
      · rintro rfl
        exact .absent
  | some text =>
      rw [Option.bind_some]
      constructor
      · rintro (⟨h⟩ | ⟨h⟩)
        · exact ((saysSeconds_iff text _).mp h).symm
        · rw [eq_comm, Option.eq_none_iff_forall_ne_some]
          exact fun seconds hread => h seconds ((saysSeconds_iff text seconds).mpr hread)
      · rintro rfl
        cases hread :
            (Decimal.readUnsigned? Decimal.greatest64 (Text.trim text).toList).map UInt64.ofNat with
        | none =>
            refine .unclear fun seconds h => ?_
            rw [saysSeconds_iff, hread] at h
            cases h
        | some seconds => exact .seconds ((saysSeconds_iff text seconds).mpr hread)

/-- The slots hold the tokens of a grant and when they expire.  Without a new
refresh token the old one stays. -/
structure Holds (expiry : Int) (grant : Grant) (before after : Slots) : Prop where
  accessToken : after .accessToken = some grant.accessToken
  expiresAt : after .expiresAt = some (Decimal.ofInt expiry)
  refreshToken : after .refreshToken = grant.refreshToken.or (before .refreshToken)

/-- The slots of tokens, and of when they expire. -/
def grantSlots : List Slot :=
  [.accessToken, .refreshToken, .expiresAt]

/-- The answer to a request decides a result: tokens are kept if it grants some,
and else they are left alone.  The secrets are gone. -/
structure Settles (expiry : Int64 → Option UInt64 → Int) (outcome : Outcome) (now : Int64)
    (before : Slots) (result : Except Fault (Option Identity)) (after : Slots) : Prop where
  yields : ∃ yielded, Yields outcome yielded
  granted : ∀ grant, Yields outcome (.ok grant) →
    result.isOk ∧ Holds (expiry now grant.lifetime) grant before after
  refused : ∀ fault, Yields outcome (.error fault) →
    result = .error fault ∧ ∀ slot ∈ grantSlots, after slot = before slot
  secrets : ∀ slot ∈ pendingSlots, after slot = none

/-- A token without a code is kept, and nothing is asked of a peer. -/
structure KeepsToken (expiry : Int64 → Option UInt64 → Int) (token : String)
    (lifetime : Option UInt64) (w : World Unreliable) (result : Except Fault (Option Identity))
    (w' : World Unreliable) : Prop where
  result : result.isOk
  holds : Holds (expiry w.now lifetime) ⟨token, none, lifetime⟩ w.store.slots w'.store.slots
  secrets : ∀ slot ∈ pendingSlots, w'.store.slots slot = none
  attempts : w'.attempts = w.attempts

/-- What callbacks do that pass the gate, with a code or with a token. -/
structure CallbackEffect (expiry : Int64 → Option UInt64 → Int) (app : Application)
    (callback : Callback) (w : World Unreliable) (result : Except Fault (Option Identity))
    (w' : World Unreliable) : Prop where
  exchanged : ∀ code verifier, callback.error = none →
    Fits callback w.store.slots code verifier →
    Settles expiry (w.network.outcome (tokenRequest app (codeForm app code verifier))) w.now
      w.store.slots result w'.store.slots
  implicit : ∀ token, callback.error = none → callback.code = none →
    callback.accessToken = some token →
    ∃ lifetime, Lasts callback.expiresIn lifetime ∧ KeepsToken expiry token lifetime w result w'

theorem expiryText_eq (now : Int64) (lifetime : Option UInt64) :
    expiryText now lifetime = Decimal.ofInt (boundedExpiry now lifetime) := by
  rw [expiryText, toInt_expiryAt]

theorem holds_of_storeTokens {now : Int64} {grant : Grant} {u u' : Unreliable}
    (h : (storeTokens now grant.accessToken grant.refreshToken grant.lifetime).runFrom u =
      (.ok (), u')) :
    Holds (boundedExpiry now grant.lifetime) grant u.slots u'.slots := by
  obtain ⟨haccess, hrefresh, hexpiry⟩ := storeTokens_of_ok h
  exact ⟨haccess, hexpiry.trans (congrArg some (expiryText_eq now grant.lifetime)), hrefresh⟩

/-- What is held is still held after changes to other slots. -/
theorem Holds.congr {expiry : Int} {grant : Grant} {before before' after after' : Slots}
    (h : Holds expiry grant before after)
    (hbefore : before' .refreshToken = before .refreshToken)
    (hafter : ∀ slot ∈ grantSlots, after' slot = after slot) :
    Holds expiry grant before' after' where
  accessToken := (hafter _ (by decide)).trans h.accessToken
  expiresAt := (hafter _ (by decide)).trans h.expiresAt
  refreshToken := by rw [hafter _ (by decide), h.refreshToken, hbefore]

theorem Settles.of_grant {expiry : Int64 → Option UInt64 → Int} {outcome : Outcome} {now : Int64}
    {before after : Slots} {grant : Grant} (h : Yields outcome (.ok grant))
    (hholds : Holds (expiry now grant.lifetime) grant before after)
    (hgone : ∀ slot ∈ pendingSlots, after slot = none) (user : Option Identity) :
    Settles expiry outcome now before (.ok user) after where
  yields := ⟨_, h⟩
  granted other hother := by
    obtain rfl : grant = other := Except.ok.inj (h.unique hother)
    exact ⟨rfl, hholds⟩
  refused fault hfault := nomatch h.unique hfault
  secrets := hgone

theorem Settles.of_fault {expiry : Int64 → Option UInt64 → Int} {outcome : Outcome} {now : Int64}
    {before after : Slots} {fault : Fault} (h : Yields outcome (.error fault))
    (hsame : ∀ slot ∈ grantSlots, after slot = before slot)
    (hgone : ∀ slot ∈ pendingSlots, after slot = none) :
    Settles expiry outcome now before (.error fault) after where
  yields := ⟨_, h⟩
  granted grant hgrant := nomatch h.unique hgrant
  refused other hother := by
    obtain rfl : fault = other := Except.error.inj (h.unique hother)
    exact ⟨rfl, hsame⟩
  secrets := hgone

/-- Slots of tokens are no slots of secrets. -/
theorem not_mem_pendingSlots {slot : Slot} (h : slot ∈ grantSlots) : slot ∉ pendingSlots := by
  revert slot
  decide

theorem clearPending_of_neverFails {u : Unreliable} (hu : u.NeverFails) :
    ∃ u', clearPending.runFrom u = (.ok (), u') ∧ ChangesOnly pendingSlots u u' ∧
      ∀ slot ∈ pendingSlots, u'.slots slot = none := by
  have hok : (clearPending.runFrom u).1 = .ok () :=
    removeAll_of_onlyWritesFail hu.onlyWritesFail pendingSlots
  have hkeeps := clearPending_keeps u
  rcases hrun : clearPending.runFrom u with ⟨result, u'⟩
  rw [hrun] at hok hkeeps
  obtain rfl : result = .ok () := hok
  exact ⟨u', rfl, hkeeps, fun _ hslot => removeAll_of_ok hrun hslot⟩

theorem storeTokens_pending (now : Int64) (access : String) (refresh : Option String)
    (lifetime : Option UInt64) (u : Unreliable) {slot : Slot} (hslot : slot ∈ pendingSlots) :
    ((storeTokens now access refresh lifetime).runFrom u).2.slots slot = u.slots slot :=
  (storeTokens_keeps now access refresh lifetime u).2 slot (not_mem_tokenSlots refresh hslot)

/-- A grant is kept, and the secrets are left alone. -/
theorem storeGrant_of_neverFails (grant : Grant) {w : World Unreliable}
    (hw : w.store.NeverFails) :
    ∃ w', (storeGrant grant).runFrom w = (.ok (), w') ∧
      Holds (boundedExpiry w.now grant.lifetime) grant w.store.slots w'.store.slots ∧
      ∀ slot ∈ pendingSlots, w'.store.slots slot = w.store.slots slot := by
  have hrun := runFrom_storeGrant grant w
  obtain ⟨kept, hstore⟩ := storeTokens_of_neverFails hw w.now grant.accessToken
    grant.refreshToken grant.lifetime
  refine ⟨_, hrun.trans (by rw [hstore]), holds_of_storeTokens hstore, ?_⟩
  intro slot hslot
  have hpending := storeTokens_pending w.now grant.accessToken grant.refreshToken
    grant.lifetime w.store hslot
  rwa [hstore] at hpending

theorem exchangeCode_settles (app : Application) (code verifier : String) {w : World Unreliable}
    (hw : w.store.NeverFails) :
    Settles boundedExpiry (w.network.outcome (tokenRequest app (codeForm app code verifier)))
      w.now w.store.slots ((exchangeCode app code verifier).runFrom w).1
      ((exchangeCode app code verifier).runFrom w).2.store.slots := by
  obtain ⟨cleared, hclear, hkeeps, hgone⟩ := clearPending_of_neverFails hw
  have hfirst : (World.onStore clearPending).runFrom w = (.ok (), { w with store := cleared }) := by
    rw [runFrom_onStore, hclear]
  obtain ⟨yielded, hyields⟩ := exists_yields
    (w.network.outcome (tokenRequest app (codeForm app code verifier)))
  obtain ⟨network, attempt, hrequest, -⟩ := hyields.exists_runFrom_requestGrant
    (w := { w with store := cleared })
  rw [exchangeCode, runFrom_bind_of_ok hfirst]
  cases yielded with
  | error fault =>
      rw [runFrom_bind_of_error hrequest]
      exact .of_fault hyields (fun _ hslot => hkeeps.2 _ (not_mem_pendingSlots hslot)) hgone
  | ok grant =>
      obtain ⟨kept, hstore, hholds, hpending⟩ := storeGrant_of_neverFails grant
        (w := { w with
          store := cleared, attempts := w.attempts ++ [attempt], network := network })
        (hkeeps.neverFails hw)
      rw [runFrom_bind_of_ok hrequest, runFrom_bind_of_ok hstore, runFrom_always,
        currentUser_slots]
      refine .of_grant hyields ?_ ?_ _
      · exact hholds.congr (hkeeps.2 _ (by decide)).symm fun _ _ => rfl
      · intro slot hslot
        rw [hpending slot hslot]
        exact hgone slot hslot

section

variable {callback : Callback} {u : Unreliable} {code verifier : String}

/-- What fits is found to fit. -/
theorem Fits.stateFits (h : Fits callback u.slots code verifier) (hu : u.NeverFails) :
    StateFits callback u := by
  have hreads : ReadsNeverFail u := fun n slot => hu n (.get slot)
  obtain ⟨state, hbrings, hheld⟩ := h.state
  exact ⟨state, hbrings, (hreads.readable .state).trans hheld⟩

theorem Fits.heldVerifier_eq (h : Fits callback u.slots code verifier) (hu : u.NeverFails) :
    heldVerifier u = some verifier := by
  have hreads : ReadsNeverFail u.counted := fun n slot => hu n (.get slot)
  exact (hreads.readable .codeVerifier).trans h.verifier

end

/-- The gate lets through what fits, and the code is exchanged. -/
theorem processCallback_settles (app : Application) {callback : Callback} {w : World Unreliable}
    {code verifier : String} (hw : w.store.NeverFails) (herror : callback.error = none)
    (hfits : Fits callback w.store.slots code verifier) :
    Settles boundedExpiry (w.network.outcome (tokenRequest app (codeForm app code verifier)))
      w.now w.store.slots ((processCallback app callback).runFrom w).1
      ((processCallback app callback).runFrom w).2.store.slots := by
  rw [processCallback_of_code app ⟨herror, hfits.code⟩,
    exchangeChecked_of_fits app code (hfits.stateFits hw), hfits.heldVerifier_eq hw]
  exact exchangeCode_settles app code verifier
    (w := { w with store := w.store.counted.counted }) hw

/-- It is exchanged by one request. -/
theorem processCallback_exchanged (app : Application) {callback : Callback} {w : World Unreliable}
    {code verifier : String} (hw : w.store.NeverFails) (herror : callback.error = none)
    (hfits : Fits callback w.store.slots code verifier) :
    Exchanged app code verifier w ((processCallback app callback).runFrom w).2 := by
  have hnever : w.store.counted.counted.NeverFails := hw
  obtain ⟨cleared, hclear, -⟩ := clearPending_of_neverFails hnever
  have hgate := processCallback_gate app callback w
  exact hgate.exchanged code verifier ⟨herror, hfits.code⟩ (hfits.stateFits hw)
    (hfits.heldVerifier_eq hw) (congrArg Prod.fst hclear)

/-- Settling a callback changes neither its result nor a token, and brings no
secrets back. -/
theorem Settles.handled {expiry : Int64 → Option UInt64 → Int} {outcome : Outcome} {now : Int64}
    {before : Slots} {result : Except Fault (Option Identity)} {decided : World Unreliable}
    (h : Settles expiry outcome now before result decided.store.slots) :
    Settles expiry outcome now before ((settle result).runFrom decided).1
      ((settle result).runFrom decided).2.store.slots := by
  have hharmless := (settle_harmless result decided).store
  have hfades := (settle_silent (removeAll_fades _) result decided).store
  have hsame : ∀ slot ∈ grantSlots,
      ((settle result).runFrom decided).2.store.slots slot = decided.store.slots slot :=
    fun slot hslot => hharmless.2 slot (not_mem_pendingSlots hslot)
  rw [settle_result]
  constructor
  case yields => exact h.yields
  case granted =>
    intro grant hgrant
    obtain ⟨hok, hholds⟩ := h.granted grant hgrant
    exact ⟨hok, hholds.congr rfl hsame⟩
  case refused =>
    intro fault hfault
    obtain ⟨hresult, hkept⟩ := h.refused fault hfault
    exact ⟨hresult, fun slot hslot => (hsame slot hslot).trans (hkept slot hslot)⟩
  case secrets => exact hfades.secretless h.secrets

theorem keepToken_of_neverFails {u : Unreliable} (hu : u.NeverFails) (now : Int64)
    (token : String) (lifetime : Option UInt64) :
    ((keepToken now token lifetime).runFrom u).1 = .ok () := by
  obtain ⟨kept, hstore⟩ := storeTokens_of_neverFails hu now token none lifetime
  have hkeeps := storeTokens_keeps now token none lifetime u
  rw [hstore] at hkeeps
  obtain ⟨cleared, hclear, -⟩ := clearPending_of_neverFails (hkeeps.neverFails hu)
  rw [keepToken, runFrom_bind_of_ok hstore, hclear]

theorem Accepted.keepsToken {token : String} {lifetime : Option UInt64} {w w' : World Unreliable}
    {result : Except Fault (Option Identity)} (h : Accepted token lifetime w result w')
    (hw : w.store.NeverFails) : KeepsToken boundedExpiry token lifetime w result w' := by
  have hok : result.isOk := by
    have houtcome := h.outcome.trans (keepToken_of_neverFails hw w.now token lifetime)
    cases result with
    | ok user => rfl
    | error fault => cases houtcome
  obtain ⟨haccess, hexpiry, hgone⟩ := h.kept hok
  exact {
    result := hok
    holds := ⟨haccess, hexpiry.trans (congrArg some (expiryText_eq w.now lifetime)),
      h.refreshToken⟩
    secrets := hgone
    attempts := h.attempts }

/-- A callback on a store that never fails: what its code is exchanged for
decides what is kept and what comes of it, and a token without a code is kept.
An expiry beyond the last time is the last time. -/
theorem callback_settles (app : Application) (url : Url) (w : World Unreliable)
    (hw : w.store.NeverFails) :
    CallbackEffect boundedExpiry app (Callback.ofUrl url) w ((handleCallback app url).runFrom w).1
      ((handleCallback app url).runFrom w).2 := by
  rw [runFrom_handleCallback]
  constructor
  case exchanged =>
    intro code verifier herror hfits
    exact (processCallback_settles app (w := { w with stage := .callbackPending })
      hw herror hfits).handled
  case implicit =>
    intro token herror hcode htoken
    have hgate := processCallback_gate app (Callback.ofUrl url)
      { w with stage := .callbackPending }
    refine ⟨(Callback.ofUrl url).lifetime?, (lasts_iff _ _).mpr rfl, ?_⟩
    exact (hgate.handled.implicitGrant token herror hcode htoken).keepsToken hw

/-- A sign-in is under way, and the token endpoint answers with a text. -/
def returning (answer : String) : World Unreliable where
  store := ⟨(Slots.empty.put .state (some "s")).put .codeVerifier (some "v"), fun _ _ => none, 0⟩
  now := 5
  random := ⟨fun _ => 0, 0⟩
  network := { reply := fun _ => .answer 200 (some (Utf8.ofString answer)) }

/-- The lifetime of the token that is granted goes beyond the last time, so the
token expires at the last time. -/
theorem callback_settles_at_last_time :
    let app : Application := ⟨"http://iam", "web", "http://app/callback", defaultScopes⟩
    let url : Url := { scheme := "http", query := some "code=c&state=s" }
    let w := returning "\x7b\"access_token\":\"a\",\"expires_in\":18446744073709551615\x7d"
    let grant : Grant := ⟨"a", none, some 18446744073709551615⟩
    w.store.NeverFails ∧
      Yields (w.network.outcome (tokenRequest app (codeForm app "c" "v"))) (.ok grant) ∧
      ((handleCallback app url).runFrom w).1.isOk ∧
      Holds lastTime grant w.store.slots ((handleCallback app url).runFrom w).2.store.slots := by
  intro app url w grant
  have hnever : w.store.NeverFails := fun _ _ => rfl
  have hfits : Fits (Callback.ofUrl url) w.store.slots "c" "v" :=
    ⟨by decide +kernel, ⟨"s", by decide +kernel, rfl⟩, rfl⟩
  have hyields : Yields (w.network.outcome (tokenRequest app (codeForm app "c" "v"))) (.ok grant) :=
    (yields_ok_iff _ _).mpr (by decide +kernel)
  have heffect := callback_settles app url w hnever
  have hsettles := heffect.exchanged "c" "v" (by decide +kernel) hfits
  obtain ⟨hok, hholds⟩ := hsettles.granted grant hyields
  have hlast : boundedExpiry w.now grant.lifetime = lastTime := by decide
  rw [hlast] at hholds
  exact ⟨hnever, hyields, hok, hholds⟩

/-- A token without a code brings a lifetime beyond the last time, and does not
expire when that ends. -/
theorem endless_lifetime_ends :
    let app : Application := ⟨"http://iam", "web", "http://app/callback", defaultScopes⟩
    let url : Url :=
      { scheme := "http", fragment := some "access_token=b&expires_in=18446744073709551615" }
    let w := returning ""
    w.store.NeverFails ∧
      ¬CallbackEffect endlessExpiry app (Callback.ofUrl url) w
        ((handleCallback app url).runFrom w).1 ((handleCallback app url).runFrom w).2 := by
  intro app url w
  refine ⟨fun _ _ => rfl, fun h => ?_⟩
  have htoken : (Callback.ofUrl url).accessToken = some "b" := by decide +kernel
  obtain ⟨lifetime, hlasts, hkeeps⟩ :=
    h.implicit "b" (by decide +kernel) (by decide +kernel) htoken
  obtain rfl := (lasts_iff _ _).mp hlasts
  exact absurd hkeeps.holds.expiresAt (by decide +kernel)

end BillingAccess.SignIn
