/-
What each operation does to the refresh token, on a store that never fails.

A refresh token is kept from the moment it is delivered.  An answer without one
leaves the slot as it was, at a sign-in as much as at a refresh; only signing
out empties it.
-/
import BillingAccess.Proofs.SignIn.Secrets

namespace BillingAccess.SignIn

open BillingAccess.Action Unreliable Session

variable {α β σ : Type}

/-- The grant that was received on the way from one world to another. -/
def granted (w w' : World σ) : Option Grant :=
  (repliesBetween w.network w'.network).findSome? grantOf?

/-- The refresh token that was received on the way. -/
def delivered (w w' : World σ) : Option String :=
  (granted w w').bind Grant.refreshToken

theorem granted_of_network {w w' : World σ} (h : w'.network = w.network) :
    granted w w' = none := by
  rw [granted, h, repliesBetween_self]
  rfl

theorem granted_of_delivered {w w' : World σ} (h : (delivered w w').isSome) :
    (granted w w').isSome := by
  cases hgranted : granted w w' with
  | none =>
      rw [delivered, hgranted] at h
      contradiction
  | some grant => rfl

/-- All slots but that of the refresh token. -/
def otherSlots : List Slot :=
  [.accessToken, .expiresAt, .codeVerifier, .state]

/-- Nothing is heard from a peer, and the refresh token stays. -/
abbrev Calm : World Unreliable → World Unreliable → Prop :=
  Silent (ChangesOnly otherSlots)

theorem Calm.slot {w w' : World Unreliable} (h : Calm w w') :
    w'.store.slots .refreshToken = w.store.slots .refreshToken :=
  h.store.2 .refreshToken (by decide)

theorem read_others (slot : Slot) : Keeps (ChangesOnly otherSlots) (always (read slot)) :=
  fun u => (read_keeps slot u).mono (List.nil_subset _)

theorem clearPending_others : Keeps (ChangesOnly otherSlots) clearPending :=
  removeAll_keeps (by decide)

theorem setPending_others (state verifier : String) :
    Keeps (ChangesOnly otherSlots) (setPending state verifier) :=
  fun u => (setPending_keeps state verifier u).mono (by decide)

/-- A token that comes without a code is kept without a refresh token. -/
theorem storeTokens_others (now : Int64) (access : String) (lifetime : Option UInt64) :
    Keeps (ChangesOnly otherSlots) (storeTokens now access none lifetime) :=
  fun u => (storeTokens_keeps now access none lifetime u).mono (by decide)

theorem readStore_calm (slot : Slot) : Keeps Calm (always (World.readStore (read slot))) :=
  readStore_silent (read_others slot)

theorem setStage_calm (stage : Stage) : Keeps Calm (always (World.setStage stage)) :=
  setStage_silent stage

theorem clearPending_calm : Keeps Calm (World.onStore clearPending) :=
  onStore_silent clearPending_others

theorem currentUser_calm : Keeps Calm (always currentUser) :=
  currentUser_silent read_others

/-- The refresh token that was delivered is kept, or the old one if there was
none; where something was granted, the step succeeds. -/
structure Keeping (w : World Unreliable) (result : Except Fault α) (w' : World Unreliable) :
    Prop where
  neverFails : w'.store.NeverFails
  slot : w'.store.slots .refreshToken = (delivered w w').or (w.store.slots .refreshToken)
  ok : (granted w w').isSome → result.isOk

namespace Keeping

variable {w w' w'' : World Unreliable} {result : Except Fault α} {result' : Except Fault β}

theorem of_calm (h : Calm w w') (hw : w.store.NeverFails) (result : Except Fault α) :
    Keeping w result w' where
  neverFails := h.store.neverFails hw
  slot := by
    rw [h.slot, delivered, granted_of_network h.network]
    rfl
  ok hgranted := by
    rw [granted_of_network h.network] at hgranted
    contradiction

theorem calm_left (hcalm : Calm w w') (h : Keeping w' result w'') : Keeping w result w'' where
  neverFails := h.neverFails
  slot := by
    rw [h.slot, hcalm.slot, delivered, delivered, granted, granted, hcalm.network]
  ok hgranted := h.ok (by rwa [granted, hcalm.network])

theorem calm_right (h : Keeping w result w') (hcalm : Calm w' w'')
    (hok : result.isOk → result'.isOk) : Keeping w result' w'' where
  neverFails := hcalm.store.neverFails h.neverFails
  slot := by
    rw [hcalm.slot, h.slot, delivered, delivered, granted, granted, hcalm.network]
  ok hgranted := by
    rw [granted, hcalm.network] at hgranted
    exact hok (h.ok hgranted)

end Keeping

/-- A request for tokens that brings none. -/
theorem keeping_of_refused {request : Request} {w sent : World Unreliable} {outcome : Outcome}
    {attempt : Attempt Unreliable} (hsent : Sent request w outcome sent attempt) {fault : Fault}
    (hgrant : Grant.ofOutcome outcome = .error fault) (hw : w.store.NeverFails)
    (result : Except Fault α) : Keeping w result sent := by
  have hnone : granted w sent = none := by
    rw [granted, ← hsent.granted, hgrant]
    rfl
  constructor
  · rwa [hsent.store]
  · rw [delivered, hnone, hsent.store]
    rfl
  · intro hgranted
    rw [hnone] at hgranted
    contradiction

/-- A request for tokens whose grant is kept. -/
theorem keeping_of_granted {request : Request} {w sent : World Unreliable} {outcome : Outcome}
    {attempt : Attempt Unreliable} (hsent : Sent request w outcome sent attempt) {grant : Grant}
    (hgrant : Grant.ofOutcome outcome = .ok grant) (hw : w.store.NeverFails) :
    ∃ stored, (storeGrant grant).runFrom sent = (.ok (), stored) ∧
      Keeping w (.ok () : Except Fault Unit) stored := by
  have hgranted : (repliesBetween w.network sent.network).findSome? grantOf? = some grant := by
    rw [← hsent.granted, hgrant]
    rfl
  rw [← hsent.store] at hw
  have hrun := runFrom_storeGrant grant sent
  obtain ⟨u, hstore⟩ := storeTokens_of_neverFails hw sent.now grant.accessToken
    grant.refreshToken grant.lifetime
  have hkeeps := storeTokens_keeps sent.now grant.accessToken grant.refreshToken grant.lifetime
    sent.store
  rw [hstore] at hkeeps
  refine ⟨{ sent with now := sent.nextTime, later := sent.later.tail, store := u }, ?_, ?_⟩
  · rw [hrun, hstore]
  · constructor
    · exact hkeeps.neverFails hw
    · change u.slots .refreshToken = _
      rw [(storeTokens_of_ok hstore).2.1, delivered, granted, hgranted, hsent.store]
      rfl
    · exact fun _ => rfl

theorem exchangeCode_keeping (app : Application) (code verifier : String)
    {w : World Unreliable} (hw : w.store.NeverFails) :
    Keeping w ((exchangeCode app code verifier).runFrom w).1
      ((exchangeCode app code verifier).runFrom w).2 := by
  have hclear := clearPending_calm w
  rcases hrun : (World.onStore (clearPending (σ := Unreliable))).runFrom w with ⟨fault | _, w'⟩ <;>
    rw [hrun] at hclear
  · rw [exchangeCode, runFrom_bind_of_error hrun]
    exact .of_calm hclear hw _
  · rw [exchangeCode, runFrom_bind_of_ok hrun]
    have hw' := hclear.store.neverFails hw
    obtain ⟨outcome, sent, attempt, hrequest, hsent⟩ :=
      exists_requested app (codeForm app code verifier) w'
    apply Keeping.calm_left hclear
    cases hgrant : Grant.ofOutcome outcome with
    | error fault =>
        rw [hgrant] at hrequest
        rw [runFrom_bind_of_error hrequest]
        exact keeping_of_refused hsent hgrant hw' _
    | ok grant =>
        obtain ⟨stored, hstore, hkeeping⟩ := keeping_of_granted hsent hgrant hw'
        rw [hgrant] at hrequest
        rw [runFrom_bind_of_ok hrequest, runFrom_bind_of_ok hstore]
        exact hkeeping.calm_right (currentUser_calm stored) fun _ => rfl

theorem exchangeChecked_keeping (app : Application) (callback : Callback) (code : String)
    {w : World Unreliable} (hw : w.store.NeverFails) :
    Keeping w ((exchangeChecked app callback code).runFrom w).1
      ((exchangeChecked app callback code).runFrom w).2 := by
  have hfirst := readStore_calm .state w
  rw [exchangeChecked, pendingState, pendingVerifier, runFrom_bind_of_ok (runFrom_always _ w)]
  split
  · exact .of_calm hfirst hw _
  · have hsecond := readStore_calm .codeVerifier
      ((World.readStore (read (σ := Unreliable) .state)).run w).2
    have hcalm := trans_of Calm hfirst hsecond
    rw [runFrom_bind_of_ok (runFrom_always _ _)]
    split
    · exact .of_calm hcalm hw _
    · exact (exchangeCode_keeping app code _ (hcalm.store.neverFails hw)).calm_left hcalm

theorem processCallback_keeping (app : Application) (callback : Callback)
    {w : World Unreliable} (hw : w.store.NeverFails) :
    Keeping w ((processCallback app callback).runFrom w).1
      ((processCallback app callback).runFrom w).2 := by
  obtain ⟨code, state, error, description, token, lifetime⟩ := callback
  cases error with
  | some error => exact .of_calm (refl_of Calm w) hw _
  | none =>
      cases code with
      | some code => exact exchangeChecked_keeping app _ code hw
      | none =>
          cases token with
          | none => exact .of_calm (refl_of Calm w) hw _
          | some token =>
              exact .of_calm (acceptToken_silent read_others (storeTokens_others · token _)
                clearPending_others w) hw _

theorem handleCallback_keeping (app : Application) (url : Url) {w : World Unreliable}
    (hw : w.store.NeverFails) :
    Keeping w ((handleCallback app url).runFrom w).1 ((handleCallback app url).runFrom w).2 := by
  have hstage : Calm w { w with stage := .callbackPending } := setStage_calm .callbackPending w
  have hkeeping := processCallback_keeping app (Callback.ofUrl url) (hstage.store.neverFails hw)
  rw [runFrom_handleCallback]
  apply Keeping.calm_left hstage
  apply hkeeping.calm_right (settle_silent clearPending_others _ _)
  intro hok
  cases hresult : ((processCallback app (Callback.ofUrl url)).runFrom
    { w with stage := .callbackPending }).1 with
  | ok user => rfl
  | error fault =>
      rw [hresult] at hok
      contradiction

theorem refresh_keeping (app : Application) {w : World Unreliable} (hw : w.store.NeverFails) :
    Keeping w ((refresh app).runFrom w).1 ((refresh app).runFrom w).2 := by
  obtain ⟨held, w', hread⟩ : ∃ held w', (always (World.readStore
      (read (σ := Unreliable) .refreshToken))).runFrom w = (.ok held, w') := ⟨_, _, rfl⟩
  have hcalm := readStore_calm .refreshToken w
  rw [hread] at hcalm
  rw [refresh, refreshToken, runFrom_bind_of_ok hread]
  cases held with
  | none => exact .of_calm hcalm hw _
  | some token =>
      have hw' := hcalm.store.neverFails hw
      obtain ⟨outcome, sent, attempt, hrun, hsent⟩ :=
        exists_requested app (refreshForm app token) w'
      apply Keeping.calm_left hcalm
      simp only [runFrom_bind_of_ok (runFrom_outcome _ _), hrun]
      cases hgrant : Grant.ofOutcome outcome with
      | error fault =>
          have hkeeping := keeping_of_refused hsent hgrant hw' (.error fault : Except Fault Unit)
          refine hkeeping.calm_right (Keeps.bind (setStage_calm _) (fun _ => ?_) sent) id
          exact Keeps.throw fault
      | ok grant =>
          obtain ⟨stored, hstore, hkeeping⟩ := keeping_of_granted hsent hgrant hw'
          simp only [runFrom_bind_of_ok hstore]
          refine hkeeping.calm_right (Keeps.bind (setStage_calm _) (fun _ => ?_) stored)
            fun _ => rfl
          exact currentUser_calm

/-- Nothing is delivered to a refresh without a token to send. -/
theorem refresh_granted (app : Application) {w : World Unreliable}
    (hheld : w.store.slots .refreshToken = none) :
    granted w ((refresh app).runFrom w).2 = none := by
  obtain ⟨held, w', hread, -, -, hsame⟩ := readStore_cases .refreshToken w
  have hcalm := readStore_calm .refreshToken w
  have hnone : held = none := by
    cases held with
    | none => rfl
    | some token => rw [hsame token rfl] at hheld; contradiction
  subst hnone
  rw [refresh, refreshToken, runFrom_bind_of_ok hread]
  rw [hread] at hcalm
  exact granted_of_network hcalm.network

/-- Signing out empties the slot. -/
theorem logout_slot {w : World Unreliable} (hw : w.store.NeverFails) :
    ((logout (σ := Unreliable)).runFrom w).2.store.NeverFails ∧
      ((logout (σ := Unreliable)).runFrom w).2.store.slots .refreshToken = none := by
  have hkeeps := removeAll_keeps (List.Subset.refl Slot.all) w.store
  have hok := removeAll_of_onlyWritesFail hw.onlyWritesFail Slot.all
  rcases hrun : (removeAll Slot.all).runFrom w.store with ⟨result, u⟩
  rw [hrun] at hkeeps hok
  obtain rfl : result = .ok () := hok
  rw [logout, clear, runFrom_bind_of_ok (by rw [runFrom_onStore, hrun])]
  exact ⟨hkeeps.neverFails hw, removeAll_of_ok hrun (Slot.mem_all _)⟩

end BillingAccess.SignIn
