/-
Who counts as signed in when calls on the store fail.

Two readings decide it, that of the token and that of its expiry, and an expiry
that cannot be read counts as none.  So a token can come to be read beside
another expiry than its own, or beside none: after a write and the removal that
follows it have both failed, after a removal of all slots that spared the token
alone, and while the expiry cannot be read.  Each theorem says what happens
whatever fails, and these are its only exceptions.
-/
import BillingAccess.Proofs.Session.Removal
import BillingAccess.SignIn.Flow

namespace BillingAccess.Session

open BillingAccess.Action Unreliable

/-! ### What two readings decide -/

/-- An expiry that is absent or lies ahead. -/
def lastsBeyond (now : Int64) : Option String → Bool
  | none => true
  | some text => (readTime? text).any fun expiry => now < expiry

/-- What has passed does not come to lie ahead later. -/
theorem lastsBeyond_of_le {now later : Int64} (hle : now ≤ later) {expiry : Option String}
    (h : lastsBeyond later expiry = true) : lastsBeyond now expiry = true := by
  cases expiry with
  | none => rfl
  | some text =>
      simp only [lastsBeyond, Option.any_eq_true, decide_eq_true_eq] at h ⊢
      obtain ⟨time, hread, hahead⟩ := h
      exact ⟨time, hread, Int64.lt_of_le_of_lt hle hahead⟩

theorem run_isLoggedIn (now : Int64) (u : Unreliable) :
    (isLoggedIn now).run u =
      match u.readable .accessToken with
      | none => (false, u.counted)
      | some _ => (lastsBeyond now (u.counted.readable .expiresAt), u.counted.counted) := by
  rw [isLoggedIn, run_bind, run_read_readable]
  cases u.readable .accessToken with
  | none => rfl
  | some token =>
      simp only [run_bind, run_read_readable]
      cases u.counted.readable .expiresAt <;> rfl

theorem isLoggedIn_eq (now : Int64) (u : Unreliable) :
    ((isLoggedIn now).run u).1 =
      ((u.readable .accessToken).isSome && lastsBeyond now (u.counted.readable .expiresAt)) := by
  rw [run_isLoggedIn]
  cases u.readable .accessToken <;> rfl

theorem accessToken_eq (now : Int64) (u : Unreliable) :
    ((accessToken now).run u).1 =
      if ((isLoggedIn now).run u).1 then u.counted.counted.readable .accessToken else none := by
  rw [accessToken, run_bind, run_isLoggedIn]
  cases u.readable .accessToken with
  | none => rfl
  | some token =>
      cases lastsBeyond now (u.counted.readable .expiresAt) with
      | false => rfl
      | true => exact congrArg Prod.fst (run_read_readable .accessToken u.counted.counted)

/-- No reading fails. -/
def ReadsNeverFail (u : Unreliable) : Prop :=
  ∀ n slot, u.failure n (.get slot) = none

theorem ReadsNeverFail.readable {u : Unreliable} (h : ReadsNeverFail u) (slot : Slot) :
    u.readable slot = u.slots slot := by
  rw [Unreliable.readable, h]
  rfl

theorem ReadsNeverFail.isLoggedIn_eq {u : Unreliable} (h : ReadsNeverFail u) (now : Int64) :
    ((isLoggedIn now).run u).1 =
      ((u.slots .accessToken).isSome && lastsBeyond now (u.slots .expiresAt)) := by
  rw [Session.isLoggedIn_eq, h.readable, ReadsNeverFail.readable (u := u.counted) h]
  rfl

theorem ReadsNeverFail.accessToken_eq {u : Unreliable} (h : ReadsNeverFail u) (now : Int64) :
    ((accessToken now).run u).1 =
      if lastsBeyond now (u.slots .expiresAt) then u.slots .accessToken else none := by
  rw [Session.accessToken_eq, h.isLoggedIn_eq, ReadsNeverFail.readable (u := u.counted.counted) h]
  change (if _ then u.slots .accessToken else none) = _
  cases u.slots .accessToken with
  | none => simp
  | some token => simp

/-- At no time is anybody signed in, whatever fails from now on. -/
def SignedOut (u : Unreliable) : Prop :=
  ∀ later : Unreliable, later.slots = u.slots → ∀ now,
    ((isLoggedIn now).run later).1 = false ∧ ((accessToken now).run later).1 = none

theorem signedOut_of_empty {u : Unreliable} (h : u.slots .accessToken = none) : SignedOut u := by
  intro later hslots now
  have hread : later.readable .accessToken = none := by
    rw [Unreliable.readable, hslots, h, ite_self]
  have hout : ((isLoggedIn now).run later).1 = false := by
    rw [isLoggedIn_eq, hread]
    rfl
  exact ⟨hout, by simp [accessToken_eq, hout]⟩

/-! ### A write that fails -/

theorem counted_of_set_of_error {slot : Slot} {value : String} {u u' : Unreliable} {fault : Fault}
    (h : (TokenStore.set slot value : Action Unreliable Unit).runFrom u = (.error fault, u')) :
    u' = u.counted := by
  rcases set_cases slot value u with ⟨_, -, hrun⟩ | ⟨-, hrun⟩ <;> rw [hrun] at h
  · exact (Prod.mk.inj h).2.symm
  · cases (Prod.mk.inj h).1

/-- What a write leaves that failed on the way: the token that was there, under
the expiry that was there or under the new one. -/
theorem writeTokens_of_error {now : Int64} {access : String} {refresh : Option String}
    {lifetime : Option UInt64} {u u' : Unreliable} {fault : Fault}
    (h : (writeTokens now access refresh lifetime).runFrom u = (.error fault, u')) :
    u'.slots .accessToken = u.slots .accessToken ∧
      u'.slots .expiresAt =
        if (u.failure u.calls (.set .expiresAt)).isSome then u.slots .expiresAt
        else some (expiryText now lifetime) := by
  rcases set_cases .expiresAt (expiryText now lifetime) u with
    ⟨_, hfails, hrun⟩ | ⟨hworks, hrun⟩
  · have hleft := (runFrom_bind_of_error hrun).symm.trans h
    obtain rfl := (Prod.mk.inj hleft).2
    rw [hfails]
    exact ⟨rfl, rfl⟩
  · have hleft := (runFrom_bind_of_ok hrun).symm.trans h
    rw [hworks]
    cases refresh with
    | none =>
        obtain rfl := counted_of_set_of_error hleft
        exact ⟨rfl, rfl⟩
    | some refresh =>
        let written := u.changed (u.slots.put .expiresAt (some (expiryText now lifetime)))
        rcases set_cases .refreshToken refresh written with ⟨_, -, hrefresh⟩ | ⟨-, hrefresh⟩
        · have hleft := (runFrom_bind_of_error hrefresh).symm.trans hleft
          obtain rfl := (Prod.mk.inj hleft).2
          exact ⟨rfl, rfl⟩
        · have hleft := (runFrom_bind_of_ok hrefresh).symm.trans hleft
          obtain rfl := counted_of_set_of_error hleft
          exact ⟨rfl, rfl⟩

/-- The removal fails that follows a write of tokens. -/
def CleanUpFails (now : Int64) (access : String) (refresh : Option String)
    (lifetime : Option UInt64) (u : Unreliable) : Prop :=
  let written := ((writeTokens now access refresh lifetime).runFrom u).2
  (written.failure written.calls (.remove .accessToken)).isSome

/-- The token that was there stays when it cannot be removed: under its own
expiry if the new one could not be written, and else under the new one. -/
structure OldTokenStays (now : Int64) (lifetime : Option UInt64) (u u' : Unreliable) : Prop where
  token : u'.slots .accessToken = u.slots .accessToken
  expiry : u'.slots .expiresAt =
    if (u.failure u.calls (.set .expiresAt)).isSome then u.slots .expiresAt
    else some (expiryText now lifetime)
  isLoggedIn (hreads : ReadsNeverFail u) (time : Int64) :
    ((isLoggedIn time).run u').1 =
      ((u.slots .accessToken).isSome && lastsBeyond time (u'.slots .expiresAt))
  accessToken (hreads : ReadsNeverFail u) (time : Int64) :
    ((accessToken time).run u').1 =
      if lastsBeyond time (u'.slots .expiresAt) then u.slots .accessToken else none

/-- After tokens could not be kept nobody is signed in, unless the removal of
the access token failed as well. -/
theorem storeTokens_refused {now : Int64} {access : String} {refresh : Option String}
    {lifetime : Option UInt64} {u u' : Unreliable} {fault : Fault}
    (h : (storeTokens now access refresh lifetime).runFrom u = (.error fault, u')) :
    (¬CleanUpFails now access refresh lifetime u → SignedOut u') ∧
      (CleanUpFails now access refresh lifetime u → OldTokenStays now lifetime u u') := by
  rcases hwrite : (writeTokens now access refresh lifetime).runFrom u with ⟨_ | _, written⟩
  · obtain ⟨htoken, hexpiry⟩ := writeTokens_of_error hwrite
    have hfailure : written.failure = u.failure := by
      have hkeeps := (writeTokens_keeps now access refresh lifetime u).1
      rwa [hwrite] at hkeeps
    rw [runFrom_storeTokens_of_error hwrite] at h
    obtain rfl := (Prod.mk.inj h).2
    rw [CleanUpFails, hwrite]
    rcases remove_cases .accessToken written with ⟨_, hfails, hrun⟩ | ⟨hworks, hrun⟩
    · rw [hrun]
      refine ⟨fun hclean => absurd (by simp [hfails]) hclean, fun _ => ?_⟩
      have hreads (h : ReadsNeverFail u) : ReadsNeverFail written.counted := by
        intro n slot
        change written.failure n (.get slot) = none
        rw [hfailure, h]
      refine ⟨htoken, hexpiry, fun h time => ?_, fun h time => ?_⟩
      · rw [(hreads h).isLoggedIn_eq, ← htoken]
        rfl
      · rw [(hreads h).accessToken_eq, ← htoken]
        rfl
    · rw [hrun]
      refine ⟨fun _ => signedOut_of_empty (written.slots.put_same .accessToken none),
        fun hclean => ?_⟩
      simp [hworks] at hclean
  · rw [runFrom_storeTokens_of_ok hwrite] at h
    cases (Prod.mk.inj h).1

/-- A token that has expired. -/
def expiredSlots : Slots
  | .accessToken => some "old"
  | .expiresAt => some "5"
  | _ => none

/-- A store that can neither write nor remove an access token. -/
def stuckStore : Unreliable where
  slots := expiredSlots
  failure _ what :=
    if what = .set .accessToken ∨ what = .remove .accessToken then
      some (.storage (.stated "stuck"))
    else none

/-- A token that has expired comes back to life under the expiry of another
that could not be kept. -/
theorem expired_token_revived :
    ((accessToken 10).run stuckStore).1 = none ∧
      ∃ fault u', (storeTokens 10 "new" none (some 60)).runFrom stuckStore = (.error fault, u') ∧
        ((isLoggedIn 11).run u').1 = true ∧ ((accessToken 11).run u').1 = some "old" :=
  ⟨by decide +kernel, _, _, rfl, by decide +kernel, by decide +kernel⟩

/-- A store that cannot write a refresh token, and holds an access token
without an expiry. -/
def readOnlyRefresh : Unreliable where
  slots := fun
    | .accessToken => some "old"
    | _ => none
  failure _ what := if what = .set .refreshToken then some (.storage (.stated "full")) else none

theorem refused_refresh_token_signs_out :
    ∃ fault u', (storeTokens 10 "new" (some "r") none).runFrom readOnlyRefresh =
        (.error fault, u') ∧
      ¬CleanUpFails 10 "new" (some "r") none readOnlyRefresh ∧ SignedOut u' := by
  have hworks : ¬CleanUpFails 10 "new" (some "r") none readOnlyRefresh :=
    fun hfails => absurd (show (none : Option Fault).isSome from hfails) (by decide)
  exact ⟨_, _, rfl, hworks, (storeTokens_refused rfl).1 hworks⟩

/-! ### A removal that fails in part -/

/-- The state after one removal, whether it fails or not. -/
def removed (u : Unreliable) (slot : Slot) : Unreliable :=
  if (u.failure u.calls (.remove slot)).isSome then u.counted
  else u.changed (u.slots.put slot none)

theorem without_eq_removed (u : Unreliable) (slot : Slot) : without u slot = removed u slot := by
  rcases remove_cases slot u with ⟨fault, hfails, hrun⟩ | ⟨hworks, hrun⟩
  · rw [without_of_run hrun, removed, hfails]
    rfl
  · rw [without_of_run hrun, removed, hworks]
    rfl

theorem runFrom_removeAll_snd (slots : List Slot) (u : Unreliable) :
    ((removeAll slots).runFrom u).2 = slots.foldl removed u := by
  have hremoved : (without : Unreliable → Slot → Unreliable) = removed := by
    funext u slot
    exact without_eq_removed u slot
  rw [state_removeAll, hremoved]

theorem removed_other {slot other : Slot} (h : other ≠ slot) (u : Unreliable) :
    (removed u slot).slots other = u.slots other := by
  rw [removed]
  split
  · rfl
  · exact u.slots.put_other none h

theorem removed_calls (u : Unreliable) (slot : Slot) :
    (removed u slot).failure = u.failure ∧ (removed u slot).calls = u.calls + 1 := by
  rw [removed]
  split <;> exact ⟨rfl, rfl⟩

/-- Each slot is emptied unless its own removal fails. -/
theorem removeAll_slot_eq {before after : List Slot} {slot : Slot} (hbefore : slot ∉ before)
    (hafter : slot ∉ after) (u : Unreliable) :
    ((removeAll (before ++ slot :: after)).runFrom u).2.slots slot =
      if (u.failure (u.calls + before.length) (.remove slot)).isSome then u.slots slot
      else none := by
  have hkept (slots : List Slot) (hslots : slot ∉ slots) (u : Unreliable) :
      (slots.foldl removed u).slots slot = u.slots slot := by
    rw [← runFrom_removeAll_snd]
    exact (removeAll_keeps (List.Subset.refl slots) u).2 slot hslots
  rw [runFrom_removeAll_snd, List.foldl_append, List.foldl_cons, hkept after hafter]
  induction before generalizing u with
  | nil =>
      rw [List.foldl_nil, removed, List.length_nil, Nat.add_zero]
      split
      · rfl
      · exact u.slots.put_same slot none
  | cons first rest ih =>
      obtain ⟨hfirst, hrest⟩ := List.ne_and_not_mem_of_not_mem_cons hbefore
      obtain ⟨hfailure, hcalls⟩ := removed_calls u first
      rw [List.foldl_cons, ih hrest, hfailure, hcalls, removed_other hfirst, List.length_cons,
        Nat.add_assoc, Nat.add_comm 1]

/-- Signing out takes the expiry off a token that it cannot remove. -/
def StripsExpiry (u : Unreliable) : Prop :=
  (u.slots .accessToken).isSome ∧ (u.failure u.calls (.remove .accessToken)).isSome ∧
    u.failure (u.calls + 2) (.remove .expiresAt) = none

theorem clear_slots (u : Unreliable) :
    ((clear).runFrom u).2.slots .accessToken =
        (if (u.failure u.calls (.remove .accessToken)).isSome then u.slots .accessToken
        else none) ∧
      ((clear).runFrom u).2.slots .expiresAt =
        if (u.failure (u.calls + 2) (.remove .expiresAt)).isSome then u.slots .expiresAt
        else none :=
  ⟨removeAll_slot_eq (show Slot.accessToken ∉ ([] : List Slot) by decide) (by decide) u,
    removeAll_slot_eq (show Slot.expiresAt ∉ [.accessToken, .refreshToken] by decide)
      (by decide) u⟩

theorem isLoggedIn_clear_iff {u : Unreliable} (hreads : ReadsNeverFail u) {now later : Int64}
    (hle : now ≤ later) (hout : ((isLoggedIn now).run u).1 = false) :
    ((isLoggedIn later).run ((clear).runFrom u).2).1 = true ↔ StripsExpiry u := by
  have hcleared : ReadsNeverFail ((clear).runFrom u).2 := by
    have hkeeps : ((clear).runFrom u).2.failure = u.failure :=
      (removeAll_keeps (List.Subset.refl Slot.all) u).1
    intro n slot
    rw [hkeeps, hreads]
  obtain ⟨htoken, hexpiry⟩ := clear_slots u
  rw [hreads.isLoggedIn_eq, Bool.and_eq_false_iff] at hout
  rw [hcleared.isLoggedIn_eq, htoken, hexpiry, Bool.and_eq_true, StripsExpiry]
  by_cases hfails : (u.failure u.calls (.remove .accessToken)).isSome
  · rw [if_pos hfails]
    cases u.failure (u.calls + 2) (.remove .expiresAt) with
    | none => exact ⟨fun h => ⟨h.1, hfails, rfl⟩, fun h => ⟨h.1, rfl⟩⟩
    | some fault =>
        -- an expiry that is kept has passed already
        refine ⟨fun ⟨hstays, hlasts⟩ => ?_, fun h => (nomatch h.2.2)⟩
        rcases hout with hnone | hpassed
        · rw [hnone] at hstays
          cases hstays
        · have hahead : lastsBeyond now (u.slots .expiresAt) = true := lastsBeyond_of_le hle hlasts
          rw [hahead] at hpassed
          cases hpassed
  · rw [if_neg hfails]
    exact ⟨fun h => (nomatch h.1), fun h => absurd h.2.1 hfails⟩

theorem store_logout (w : World Unreliable) :
    ((SignIn.logout).runFrom w).2.store = ((clear).runFrom w.store).2 := by
  rw [SignIn.logout, runFrom_bind, runFrom_onStore]
  rcases ((clear).runFrom w.store).1 with _ | _ <;> rfl

/-- Whoever was signed out is signed in after signing out, at that time or
later, exactly if that took the expiry off a token that stayed. -/
theorem signedIn_after_clear_iff {w : World Unreliable} (hreads : ReadsNeverFail w.store)
    {now later : Int64} (hle : now ≤ later)
    (hout : ((isLoggedIn now).run w.store).1 = false) :
    (((isLoggedIn later).run ((clear).runFrom w.store).2).1 = true ↔ StripsExpiry w.store) ∧
      (((isLoggedIn later).run ((SignIn.logout).runFrom w).2.store).1 = true ↔
        StripsExpiry w.store) := by
  rw [store_logout]
  exact ⟨isLoggedIn_clear_iff hreads hle hout, isLoggedIn_clear_iff hreads hle hout⟩

/-- A token that has expired never expires once its expiry is removed and it is
not. -/
theorem expired_token_outlives_clear :
    ((isLoggedIn 10).run stuckStore).1 = false ∧
      ((isLoggedIn 10).run ((clear).runFrom stuckStore).2).1 = true :=
  ⟨by decide +kernel, by decide +kernel⟩

/-- A store that can remove neither a token nor its expiry. -/
def firmStore : Unreliable where
  slots := expiredSlots
  failure _ what :=
    if what = .remove .accessToken ∨ what = .remove .expiresAt then
      some (.storage (.stated "firm"))
    else none

theorem firmStore_readsNeverFail : ReadsNeverFail firmStore := by
  intro n slot
  simp [firmStore]

theorem expired_token_stays_expired :
    let w : World Unreliable :=
      { store := firmStore, now := 10, random := ⟨fun _ => 0, 0⟩,
        network := { reply := fun _ => .silence } }
    ReadsNeverFail w.store ∧ (10 : Int64) ≤ 20 ∧ ((isLoggedIn 10).run w.store).1 = false ∧
      ((isLoggedIn 20).run ((SignIn.logout).runFrom w).2.store).1 = false := by
  intro w
  have hout : ((isLoggedIn 10).run w.store).1 = false := by decide +kernel
  refine ⟨firmStore_readsNeverFail, by decide, hout, ?_⟩
  have hiff := (signedIn_after_clear_iff (w := w) firmStore_readsNeverFail
    (show (10 : Int64) ≤ 20 by decide) hout).2
  exact Bool.eq_false_iff.mpr fun hin => nomatch (hiff.mp hin).2.2

/-! ### Readings that fail -/

theorem readable_of_fails {u : Unreliable} {slot : Slot}
    (h : (u.failure u.calls (.get slot)).isSome) : u.readable slot = none :=
  if_pos h

/-- Two stores that hold the same and have been called as often; a reading that
fails of the first also fails of the second. -/
structure FailsMore (u u' : Unreliable) : Prop where
  slots : u'.slots = u.slots
  calls : u'.calls = u.calls
  readings : ∀ n slot, (u.failure n (.get slot)).isSome → (u'.failure n (.get slot)).isSome

namespace FailsMore

variable {u u' : Unreliable}

theorem counted (h : FailsMore u u') : FailsMore u.counted u'.counted :=
  ⟨h.slots, congrArg (· + 1) h.calls, h.readings⟩

/-- What can be read although more fails can be read. -/
theorem readable (h : FailsMore u u') (slot : Slot) :
    u'.readable slot = u.readable slot ∨ (u'.failure u'.calls (.get slot)).isSome := by
  cases hfails : u'.failure u'.calls (.get slot) with
  | some fault => exact Or.inr rfl
  | none =>
      have hworks : u.failure u.calls (.get slot) = none := by
        cases hfault : u.failure u.calls (.get slot) with
        | none => rfl
        | some fault =>
            have hmore := h.readings u.calls slot (by rw [hfault]; rfl)
            rw [← h.calls, hfails] at hmore
            cases hmore
      rw [Unreliable.readable, Unreliable.readable, hfails, hworks, h.slots]
      exact Or.inl rfl

end FailsMore

/-- The second store cannot read the expiry, and the first one can: it has
passed. -/
structure HidesExpiry (now : Int64) (u u' : Unreliable) : Prop where
  token : (u'.readable .accessToken).isSome
  hidden : (u'.failure (u'.calls + 1) (.get .expiresAt)).isSome
  passed : lastsBeyond now (u.counted.readable .expiresAt) = false

variable {u u' : Unreliable} {now : Int64}

/-- A token that is read although more fails is the token that is read anyway. -/
theorem FailsMore.readable_eq (h : FailsMore u u') {slot : Slot}
    (hread : (u'.readable slot).isSome) : u'.readable slot = u.readable slot := by
  rcases h.readable slot with hsame | hfails
  · exact hsame
  · rw [readable_of_fails hfails] at hread
    cases hread

theorem isLoggedIn_of_hidden (h : HidesExpiry now u u') :
    ((isLoggedIn now).run u').1 = true ∧ ((isLoggedIn now).run u).1 = false := by
  have hnone : u'.counted.readable .expiresAt = none := readable_of_fails h.hidden
  rw [isLoggedIn_eq, isLoggedIn_eq, hnone, h.token, h.passed, Bool.and_false]
  exact ⟨rfl, rfl⟩

/-- Unless an expiry is hidden, more failing readings sign nobody in. -/
theorem isLoggedIn_of_failsMore (h : FailsMore u u') (hshown : ¬HidesExpiry now u u')
    (hin : ((isLoggedIn now).run u').1 = true) : ((isLoggedIn now).run u).1 = true := by
  rw [isLoggedIn_eq, Bool.and_eq_true] at hin
  obtain ⟨htoken, hlasts⟩ := hin
  rw [isLoggedIn_eq, ← h.readable_eq htoken, htoken, Bool.true_and]
  rcases h.counted.readable .expiresAt with hsame | hfails
  · rwa [← hsame]
  · exact eq_true_of_ne_false fun hpassed => hshown ⟨htoken, hfails, hpassed⟩

/-- More failing readings take away what was read, and change nothing else,
exactly while they hide no expiry that has passed.  A session whose expiry
cannot be read counts as signed in if it has a token. -/
theorem failing_readings_iff (h : FailsMore u u') :
    ((((isLoggedIn now).run u').1 = true → ((isLoggedIn now).run u).1 = true) ∧
        (((accessToken now).run u').1 = none ∨
          ((accessToken now).run u').1 = ((accessToken now).run u).1) ↔
      ¬HidesExpiry now u u') ∧
    ((u'.failure (u'.calls + 1) (.get .expiresAt)).isSome →
      ((isLoggedIn now).run u').1 = (u'.readable .accessToken).isSome) := by
  refine ⟨⟨fun hclosed hhidden => ?_, fun hshown => ⟨isLoggedIn_of_failsMore h hshown, ?_⟩⟩, ?_⟩
  · obtain ⟨hin, hout⟩ := isLoggedIn_of_hidden hhidden
    rw [hclosed.1 hin] at hout
    cases hout
  · cases hin : ((isLoggedIn now).run u').1 with
    | false => exact Or.inl (by simp [accessToken_eq, hin])
    | true =>
        rw [accessToken_eq, accessToken_eq, hin, isLoggedIn_of_failsMore h hshown hin]
        rcases h.counted.counted.readable .accessToken with hsame | hfails
        · exact Or.inr hsame
        · exact Or.inl (readable_of_fails hfails)
  · intro hfails
    have hnone : u'.counted.readable .expiresAt = none := readable_of_fails hfails
    rw [isLoggedIn_eq, hnone]
    exact Bool.and_true _

/-- The same store, of which the expiry cannot be read. -/
def withoutExpiry (u : Unreliable) : Unreliable :=
  { u with failure := fun n what =>
      if what = .get .expiresAt then some (.storage (.stated "unreadable")) else u.failure n what }

theorem failsMore_withoutExpiry (u : Unreliable) : FailsMore u (withoutExpiry u) := by
  refine ⟨rfl, rfl, fun n slot hfails => ?_⟩
  change (if _ then _ else u.failure n (.get slot)).isSome
  split
  · rfl
  · exact hfails

/-- A token that has expired counts while its expiry cannot be read. -/
theorem unreadable_expiry_signs_in :
    FailsMore firmStore (withoutExpiry firmStore) ∧
      ((isLoggedIn 10).run firmStore).1 = false ∧
      ((isLoggedIn 10).run (withoutExpiry firmStore)).1 = true ∧
      ((accessToken 10).run (withoutExpiry firmStore)).1 = some "old" :=
  ⟨failsMore_withoutExpiry firmStore, by decide +kernel, by decide +kernel, by decide +kernel⟩

/-- Before the token expires nothing is gained by not reading its expiry. -/
theorem unreadable_expiry_harmless :
    FailsMore firmStore (withoutExpiry firmStore) ∧
      (((accessToken 3).run (withoutExpiry firmStore)).1 = none ∨
        ((accessToken 3).run (withoutExpiry firmStore)).1 = ((accessToken 3).run firmStore).1) := by
  have hmore := failsMore_withoutExpiry firmStore
  have hshown : ¬HidesExpiry 3 firmStore (withoutExpiry firmStore) :=
    fun h => absurd h.passed (by decide +kernel)
  exact ⟨hmore, ((failing_readings_iff hmore).1.mpr hshown).2⟩

end BillingAccess.Session
