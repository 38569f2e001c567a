/-
What a callback has to bring before its code is exchanged.

The guards stand one behind the other: an error of the provider, a token
without a code, the code, the state, the verifier, and the removal of both
secrets.  Whichever of them refuses a callback, nothing has been asked of a
peer by then, and no token has been touched.  What a callback brings is what
counts in the query of its URL; only a token may stand in the fragment.
-/
import BillingAccess.Proofs.SignIn.Delivery
import BillingAccess.Proofs.Url.Form

namespace BillingAccess.SignIn

open BillingAccess.Action Unreliable Session

/-- The value that counts for a name is the first one that is not empty. -/
inductive Counts (name : String) (pairs : List (String × String)) : Option String → Prop
  | first {earlier later : List (String × String)} {value : String}
      (hpairs : pairs = earlier ++ (name, value) :: later) (hvalue : value ≠ "")
      (hearlier : ∀ other, (name, other) ∈ earlier → other = "") : Counts name pairs (some value)
  | absent (hempty : ∀ value, (name, value) ∈ pairs → value = "") : Counts name pairs none

/-- What counts in the first pairs, or in the second if nothing does there. -/
def CountsInEither (name : String) (pairs others : List (String × String))
    (value : Option String) : Prop :=
  (value.isSome ∧ Counts name pairs value) ∨ (Counts name pairs none ∧ Counts name others value)

/-- A callback brings what counts in the pairs of a query and of a fragment.  A
lifetime is looked for beside the token first. -/
structure Brings (query fragment : List (String × String)) (callback : Callback) : Prop where
  error : Counts "error" query callback.error
  errorDescription : Counts "error_description" query callback.errorDescription
  code : Counts "code" query callback.code
  state : Counts "state" query callback.state
  accessToken : CountsInEither "access_token" query fragment callback.accessToken
  lifetimeInQuery : ¬Counts "access_token" query none →
    Counts "expires_in" query callback.expiresIn
  lifetimeInFragment : Counts "access_token" query none →
    CountsInEither "expires_in" fragment query callback.expiresIn

/-- An empty value is passed over wherever it stands. -/
theorem firstValue?_eq_none_iff (name : String) (pairs : List (String × String)) :
    firstValue? name pairs = none ↔ ∀ value, (name, value) ∈ pairs → value = "" := by
  rw [firstValue?, Option.map_eq_none_iff, List.find?_eq_none]
  constructor
  · intro h value hmem
    simpa using h (name, value) hmem
  · rintro h ⟨other, value⟩ hmem
    simp only [Bool.and_eq_true, beq_iff_eq, bne_iff_ne, not_and, Decidable.not_not]
    rintro rfl
    exact h value hmem

theorem counts_iff (name : String) (pairs : List (String × String)) (value : Option String) :
    Counts name pairs value ↔ value = firstValue? name pairs := by
  constructor
  · rintro (⟨rfl, hvalue, hearlier⟩ | hempty)
    · have hnone := (firstValue?_eq_none_iff name _).mpr hearlier
      rw [firstValue?, Option.map_eq_none_iff] at hnone
      rw [firstValue?, List.find?_append, hnone, Option.none_or, List.find?_cons_of_pos]
      · rfl
      · simpa using hvalue
    · exact ((firstValue?_eq_none_iff name pairs).mpr hempty).symm
  · rintro rfl
    cases hfirst : firstValue? name pairs with
    | none => exact .absent ((firstValue?_eq_none_iff name pairs).mp hfirst)
    | some value =>
        obtain ⟨⟨other, _⟩, hfind, rfl⟩ := Option.map_eq_some_iff.mp hfirst
        obtain ⟨hmatch, earlier, later, rfl, hearlier⟩ := List.find?_eq_some_iff_append.mp hfind
        obtain ⟨hname, hvalue⟩ := Bool.and_eq_true_iff.mp hmatch
        obtain rfl := eq_of_beq hname
        refine .first rfl (bne_iff_ne.mp hvalue) fun value hmem => ?_
        simpa using hearlier _ hmem

theorem countsInEither_iff (name : String) (pairs others : List (String × String))
    (value : Option String) :
    CountsInEither name pairs others value ↔
      value = (firstValue? name pairs).or (firstValue? name others) := by
  rw [CountsInEither, counts_iff, counts_iff, counts_iff]
  cases firstValue? name pairs with
  | none => cases value <;> simp
  | some first => cases value <;> simp

theorem brings_ofPairs (query fragment : List (String × String)) :
    Brings query fragment (Callback.ofPairs query fragment) where
  error := (counts_iff _ _ _).mpr rfl
  errorDescription := (counts_iff _ _ _).mpr rfl
  code := (counts_iff _ _ _).mpr rfl
  state := (counts_iff _ _ _).mpr rfl
  accessToken := (countsInEither_iff _ _ _ _).mpr rfl
  lifetimeInQuery h := by
    rw [counts_iff, eq_comm, ← Option.not_isSome_iff_eq_none, Decidable.not_not] at h
    rw [counts_iff, Callback.ofPairs, if_pos h]
  lifetimeInFragment h := by
    rw [counts_iff, eq_comm, ← Option.not_isSome_iff_eq_none] at h
    rw [countsInEither_iff, Callback.ofPairs, if_neg h]

theorem runFrom_readStore_readable (slot : Slot) (w : World Unreliable) :
    (always (World.readStore (read slot))).runFrom w =
      (.ok (w.store.readable slot), { w with store := w.store.counted }) := by
  rw [always_readStore, runFrom_onStore, runFrom_always, run_read_readable]

/-- The verifier is read right after the state. -/
def heldVerifier (u : Unreliable) : Option String :=
  u.counted.readable .codeVerifier

/-- The callback brings the state that can be read. -/
def StateFits (callback : Callback) (u : Unreliable) : Prop :=
  ∃ state, callback.state = some state ∧ u.readable .state = some state

theorem stateFits_iff (callback : Callback) (u : Unreliable) :
    StateFits callback u ↔
      ¬((u.readable .state).isNone ∨ callback.state ≠ u.readable .state) := by
  rw [StateFits]
  cases u.readable .state with
  | none => simp
  | some state => simp

/-- No request is made, and nothing but the secrets is touched. -/
abbrev Harmless : World Unreliable → World Unreliable → Prop :=
  Silent (ChangesOnly pendingSlots)

structure Refused (fault : Fault) (w : World Unreliable)
    (result : Except Fault (Option Identity)) (w' : World Unreliable) : Prop where
  result : result = .error fault
  harmless : Harmless w w'

/-- A token that came without a code is kept for its lifetime, and the secrets
are removed. -/
def keepToken (now : Int64) (token : String) (lifetime : Option UInt64) :
    Action Unreliable Unit := do
  storeTokens now token none lifetime
  clearPending

/-- No request is made.  The token is kept with its expiry and the secrets are
gone, unless the store fails to do so, which is the result then. -/
structure Accepted (token : String) (lifetime : Option UInt64) (w : World Unreliable)
    (result : Except Fault (Option Identity)) (w' : World Unreliable) : Prop where
  attempts : w'.attempts = w.attempts
  network : w'.network = w.network
  outcome : result.map (fun _ => ()) = ((keepToken w.now token lifetime).runFrom w.store).1
  refreshToken : w'.store.slots .refreshToken = w.store.slots .refreshToken
  kept : result.isOk → w'.store.slots .accessToken = some token ∧
    w'.store.slots .expiresAt = some (expiryText w.now lifetime) ∧ Secretless w'.store

/-- A request puts the code and the verifier to the token endpoint. -/
structure AsksFor (app : Application) (code verifier : String) (request : Request) : Prop where
  method : request.method = .post
  address : request.address = Url.parse app.tokenEndpoint
  form : ∃ pairs, request.payload = .form pairs ∧ Form.decode (Form.encode pairs) =
    [("grant_type", "authorization_code"), ("client_id", app.clientId), ("code", code),
      ("redirect_uri", app.redirectUri), ("code_verifier", verifier)]

/-- Exactly one request is made, for a code and a verifier. -/
def Exchanged (app : Application) (code verifier : String) (w w' : World Unreliable) : Prop :=
  ∃ attempt, w'.attempts = w.attempts ++ [attempt] ∧
    AsksFor app code verifier attempt.request

structure BringsCode (callback : Callback) (code : String) : Prop where
  error : callback.error = none
  code : callback.code = some code

/-- The guards in their order, each for callbacks that pass those before it. -/
structure Gate (app : Application) (callback : Callback) (w : World Unreliable)
    (result : Except Fault (Option Identity)) (w' : World Unreliable) : Prop where
  provider : ∀ error, callback.error = some error →
    Refused (.signIn (.provider error (callback.errorDescription.getD error))) w result w'
  implicitGrant : ∀ token, callback.error = none → callback.code = none →
    callback.accessToken = some token → Accepted token callback.lifetime? w result w'
  missingCode : callback.error = none → callback.code = none → callback.accessToken = none →
    Refused (.signIn .missingCode) w result w'
  stateMismatch : ∀ code, BringsCode callback code → ¬StateFits callback w.store →
    Refused (.signIn .stateMismatch) w result w'
  missingVerifier : ∀ code, BringsCode callback code → StateFits callback w.store →
    heldVerifier w.store = none → Refused (.signIn .missingVerifier) w result w'
  blocked : ∀ code verifier fault, BringsCode callback code → StateFits callback w.store →
    heldVerifier w.store = some verifier →
    (clearPending.runFrom w.store.counted.counted).1 = .error fault → Refused fault w result w'
  exchanged : ∀ code verifier, BringsCode callback code → StateFits callback w.store →
    heldVerifier w.store = some verifier →
    (clearPending.runFrom w.store.counted.counted).1 = .ok () →
    Exchanged app code verifier w w'

theorem counted_harmless (w : World Unreliable) :
    Harmless w { w with store := w.store.counted } :=
  ⟨rfl, rfl, rfl, fun _ _ => rfl⟩

theorem exchangeChecked_of_mismatch (app : Application) {callback : Callback} (code : String)
    {w : World Unreliable} (h : ¬StateFits callback w.store) :
    (exchangeChecked app callback code).runFrom w =
      (.error (.signIn .stateMismatch), { w with store := w.store.counted }) := by
  have hmismatch := Decidable.not_not.mp (mt (stateFits_iff callback w.store).mpr h)
  rw [exchangeChecked, pendingState, runFrom_bind_of_ok (runFrom_readStore_readable .state w),
    if_pos hmismatch]
  rfl

theorem exchangeChecked_of_fits (app : Application) {callback : Callback} (code : String)
    {w : World Unreliable} (h : StateFits callback w.store) :
    (exchangeChecked app callback code).runFrom w =
      match heldVerifier w.store with
      | none => (.error (.signIn .missingVerifier), { w with store := w.store.counted.counted })
      | some verifier =>
          (exchangeCode app code verifier).runFrom
            { w with store := w.store.counted.counted } := by
  rw [stateFits_iff] at h
  have hsecond := runFrom_readStore_readable .codeVerifier { w with store := w.store.counted }
  rw [exchangeChecked, pendingState, pendingVerifier,
    runFrom_bind_of_ok (runFrom_readStore_readable .state w), if_neg h,
    runFrom_bind_of_ok hsecond, heldVerifier]
  cases w.store.counted.readable .codeVerifier <;> rfl

theorem exchangeCode_refused (app : Application) (code verifier : String) {w : World Unreliable}
    {fault : Fault} (h : (clearPending.runFrom w.store).1 = .error fault) :
    Refused fault w ((exchangeCode app code verifier).runFrom w).1
      ((exchangeCode app code verifier).runFrom w).2 := by
  have hclear : Keeps Harmless (World.onStore clearPending) :=
    onStore_silent clearPending_keeps
  have hharmless := hclear w
  rcases hrun : (World.onStore (clearPending (σ := Unreliable))).runFrom w with ⟨result, w'⟩
  rw [hrun] at hharmless
  obtain rfl : result = .error fault := (congrArg Prod.fst hrun).symm.trans h
  rw [exchangeCode, runFrom_bind_of_error hrun]
  exact ⟨rfl, hharmless⟩

theorem exchanged_of_sends {app : Application} {code verifier : String}
    {w w' : World Unreliable} {attempt : Attempt Unreliable}
    (h : Sends (tokenRequest app (codeForm app code verifier)) w w' attempt) :
    Exchanged app code verifier w w' := by
  refine ⟨attempt, h.attempts, ?_⟩
  rw [h.request]
  exact {
    method := rfl
    address := by rw [tokenRequest]
    form := ⟨codeForm app code verifier, rfl, Form.decode_encode _⟩ }

theorem exchangeCode_exchanged (app : Application) (code verifier : String)
    {w : World Unreliable} (h : (clearPending.runFrom w.store).1 = .ok ()) :
    Exchanged app code verifier w ((exchangeCode app code verifier).runFrom w).2 := by
  have hclear := clearPending_quiet w
  rcases hrun : (World.onStore (clearPending (σ := Unreliable))).runFrom w with ⟨result, w'⟩
  rw [hrun] at hclear
  obtain rfl : result = .ok () := (congrArg Prod.fst hrun).symm.trans h
  rw [exchangeCode, runFrom_bind_of_ok hrun]
  obtain ⟨attempt, -, hsends⟩ := requestGrant_sends app (codeForm app code verifier)
    (fun grant => Keeps.bind (storeGrant_quiet grant) fun _ => currentUser_quiet) w'
  exact exchanged_of_sends (hsends.of_quiet_left hclear)

/-- What is kept when a token without a code is kept. -/
theorem keepToken_of_ok {now : Int64} {token : String} {lifetime : Option UInt64}
    {u u' : Unreliable} (h : (keepToken now token lifetime).runFrom u = (.ok (), u')) :
    u'.slots .accessToken = some token ∧
      u'.slots .expiresAt = some (expiryText now lifetime) ∧ Secretless u' := by
  obtain ⟨_, stored, hstore, hclear⟩ := exists_of_runFrom_bind h
  obtain ⟨haccess, -, hexpiry⟩ := storeTokens_of_ok hstore
  have hkeeps := clearPending_keeps stored
  rw [hclear] at hkeeps
  refine ⟨?_, ?_, fun _ hslot => removeAll_of_ok hclear hslot⟩
  · rw [hkeeps.2 _ (by decide), haccess]
  · rw [hkeeps.2 _ (by decide), hexpiry]

theorem acceptToken_eq (token : String) (lifetime : Option UInt64) :
    acceptToken (σ := Unreliable) token lifetime =
      always World.readClock >>= fun now =>
        World.onStore (keepToken now token lifetime) >>= fun _ => always currentUser := by
  simp only [acceptToken, keepToken, onStore_bind, bind_assoc]

theorem runFrom_acceptToken (token : String) (lifetime : Option UInt64) (w : World Unreliable) :
    (acceptToken token lifetime).runFrom w =
      match (keepToken w.now token lifetime).runFrom w.store with
      | (.ok (), u) => (always currentUser).runFrom
          { w with now := w.nextTime, later := w.later.tail, store := u }
      | (.error fault, u) =>
          (.error fault, { w with now := w.nextTime, later := w.later.tail, store := u }) := by
  have hnow : (always World.readClock).runFrom w =
      (.ok w.now, { w with now := w.nextTime, later := w.later.tail }) := by
    rw [runFrom_always, World.run_readClock]
  rw [acceptToken_eq, runFrom_bind_of_ok hnow, runFrom_bind, runFrom_onStore]
  rcases (keepToken w.now token lifetime).runFrom w.store with ⟨fault | _, u⟩ <;> rfl

/-- Reading who is signed in changes no slot. -/
theorem currentUser_slots (w : World Unreliable) :
    (currentUser.run w).2.store.slots = w.store.slots := by
  have hread := (currentUser_silent read_keeps w).store
  funext slot
  exact hread.2 slot List.not_mem_nil

theorem acceptToken_accepted (token : String) (lifetime : Option UInt64) (w : World Unreliable) :
    Accepted token lifetime w ((acceptToken token lifetime).runFrom w).1
      ((acceptToken token lifetime).runFrom w).2 := by
  have hcalm : Calm w ((acceptToken token lifetime).runFrom w).2 :=
    acceptToken_silent read_others (storeTokens_others · token lifetime) clearPending_others w
  have hrun := runFrom_acceptToken token lifetime w
  rcases hkeep : (keepToken w.now token lifetime).runFrom w.store with ⟨fault | _, u⟩ <;>
    rw [hkeep] at hrun
  · refine ⟨hcalm.attempts, hcalm.network, ?_, hcalm.slot, ?_⟩ <;> rw [hrun]
    · exact (congrArg Prod.fst hkeep).symm
    · exact nofun
  · have hsame := congrFun (currentUser_slots
      { w with now := w.nextTime, later := w.later.tail, store := u })
    obtain ⟨haccess, hexpiry, hgone⟩ := keepToken_of_ok hkeep
    refine ⟨hcalm.attempts, hcalm.network, ?_, hcalm.slot, fun _ => ?_⟩ <;> rw [hrun]
    · exact (congrArg Prod.fst hkeep).symm
    · exact ⟨(hsame _).trans haccess, (hsame _).trans hexpiry,
        fun slot hslot => (hsame slot).trans (hgone slot hslot)⟩

theorem processCallback_of_code (app : Application) {callback : Callback} {code : String}
    (h : BringsCode callback code) (w : World Unreliable) :
    (processCallback app callback).runFrom w =
      (exchangeChecked app callback code).runFrom w := by
  rw [processCallback, h.error, h.code]

theorem processCallback_gate (app : Application) (callback : Callback) (w : World Unreliable) :
    Gate app callback w ((processCallback app callback).runFrom w).1
      ((processCallback app callback).runFrom w).2 where
  provider error herror := by
    rw [processCallback, herror]
    exact ⟨rfl, refl_of Harmless w⟩
  implicitGrant token herror hcode htoken := by
    rw [processCallback, herror, hcode, htoken]
    exact acceptToken_accepted token _ w
  missingCode herror hcode htoken := by
    rw [processCallback, herror, hcode, htoken]
    exact ⟨rfl, refl_of Harmless w⟩
  stateMismatch code hbrings hmismatch := by
    rw [processCallback_of_code app hbrings, exchangeChecked_of_mismatch app code hmismatch]
    exact ⟨rfl, counted_harmless w⟩
  missingVerifier code hbrings hfits hnone := by
    rw [processCallback_of_code app hbrings, exchangeChecked_of_fits app code hfits, hnone]
    exact ⟨rfl, trans_of Harmless (counted_harmless w) (counted_harmless _)⟩
  blocked code verifier fault hbrings hfits hheld hfails := by
    rw [processCallback_of_code app hbrings, exchangeChecked_of_fits app code hfits, hheld]
    have hrefused := exchangeCode_refused app code verifier
      (w := { w with store := w.store.counted.counted }) hfails
    exact ⟨hrefused.result, trans_of Harmless (counted_harmless w)
      (trans_of Harmless (counted_harmless _) hrefused.harmless)⟩
  exchanged code verifier hbrings hfits hheld hcleared := by
    rw [processCallback_of_code app hbrings, exchangeChecked_of_fits app code hfits, hheld]
    exact exchangeCode_exchanged app code verifier
      (w := { w with store := w.store.counted.counted }) hcleared

section

variable {app : Application} {callback : Callback} {w w' : World Unreliable}
  {result : Except Fault (Option Identity)}

/-- A callback is settled as it was decided. -/
theorem settle_result (result : Except Fault (Option Identity)) (w : World Unreliable) :
    ((settle result).runFrom w).1 = result := by
  cases result <;> rfl

theorem settle_harmless (result : Except Fault (Option Identity)) :
    Keeps Harmless (settle result) :=
  settle_silent clearPending_keeps result

/-- What is decided while a callback is pending is what comes of it. -/
theorem Refused.handled {fault : Fault}
    (h : Refused fault { w with stage := .callbackPending } result w') :
    Refused fault w ((settle result).runFrom w').1 ((settle result).runFrom w').2 := by
  have hharmless : Harmless w w' := trans_of Harmless (setStage_silent _ w) h.harmless
  exact ⟨(settle_result result w').trans h.result,
    trans_of Harmless hharmless (settle_harmless result w')⟩

theorem Accepted.handled {token : String} {lifetime : Option UInt64}
    (h : Accepted token lifetime { w with stage := .callbackPending } result w') :
    Accepted token lifetime w ((settle result).runFrom w').1 ((settle result).runFrom w').2 := by
  have hharmless := settle_harmless result w'
  rw [settle_result]
  refine ⟨hharmless.attempts.trans h.attempts, hharmless.network.trans h.network, h.outcome,
    (hharmless.store.2 _ (by decide)).trans h.refreshToken, ?_⟩
  cases result with
  | ok user => exact h.kept
  | error fault => exact nofun

theorem Exchanged.handled {code verifier : String}
    (h : Exchanged app code verifier { w with stage := .callbackPending } w') :
    Exchanged app code verifier w ((settle result).runFrom w').2 := by
  obtain ⟨attempt, hattempts, hasks⟩ := h
  exact ⟨attempt, (settle_harmless result w').attempts.trans hattempts, hasks⟩

theorem Gate.handled (h : Gate app callback { w with stage := .callbackPending } result w') :
    Gate app callback w ((settle result).runFrom w').1 ((settle result).runFrom w').2 where
  provider error herror := (h.provider error herror).handled
  implicitGrant token herror hcode htoken := (h.implicitGrant token herror hcode htoken).handled
  missingCode herror hcode htoken := (h.missingCode herror hcode htoken).handled
  stateMismatch code hbrings hmismatch := (h.stateMismatch code hbrings hmismatch).handled
  missingVerifier code hbrings hfits hnone := (h.missingVerifier code hbrings hfits hnone).handled
  blocked code verifier fault hbrings hfits hheld hfails :=
    (h.blocked code verifier fault hbrings hfits hheld hfails).handled
  exchanged code verifier hbrings hfits hheld hcleared :=
    (h.exchanged code verifier hbrings hfits hheld hcleared).handled

end

/-- Every callback meets the guards in their order with what counts in its URL,
whatever is kept, whatever the peer answers and whichever calls of the store
fail. -/
theorem handleCallback_gate (app : Application) (url : Url) (w : World Unreliable) :
    Brings (Form.decode (url.query.getD "")) (Form.decode (url.fragment.getD ""))
        (Callback.ofUrl url) ∧
      Gate app (Callback.ofUrl url) w ((handleCallback app url).runFrom w).1
        ((handleCallback app url).runFrom w).2 := by
  refine ⟨brings_ofPairs _ _, ?_⟩
  rw [handleCallback, runFrom_bind_of_ok (runFrom_always _ w),
    runFrom_bind_of_ok (runFrom_outcome _ _)]
  apply Gate.handled
  exact processCallback_gate app (Callback.ofUrl url) { w with stage := .callbackPending }

end BillingAccess.SignIn
