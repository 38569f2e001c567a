/-
The reads and writes of a session on a store whose calls may fail.
-/
import BillingAccess.Proofs.Storage.Unreliable
import BillingAccess.Session

namespace BillingAccess.Session

open BillingAccess.Action Unreliable

theorem run_read {σ : Type} [TokenStore σ] (slot : Slot) (s : σ) :
    (read slot).run s =
      (((TokenStore.get slot : Action σ _).runFrom s).1.toOption.join,
        ((TokenStore.get slot : Action σ _).runFrom s).2) := by
  simp only [read, StateT.run_bind, runFrom]
  rcases (TokenStore.get slot : Action σ _).run.run s with ⟨_ | _, _⟩ <;> rfl

theorem read_keeps (slot : Slot) : Keeps (ChangesOnly []) (always (read slot)) := by
  intro u
  rw [runFrom_always, run_read]
  exact get_keeps slot u

/-- What is read is what the slot holds, unless nothing is read. -/
theorem read_eq_or_none (slot : Slot) (u : Unreliable) :
    ((read slot).run u).1 = none ∨ ((read slot).run u).1 = u.slots slot := by
  rw [run_read]
  rcases get_cases slot u with ⟨fault, -, hrun⟩ | ⟨-, hrun⟩ <;> rw [hrun]
  · exact Or.inl rfl
  · exact Or.inr rfl

theorem eq_of_read {slot : Slot} {u : Unreliable} {text : String}
    (h : ((read slot).run u).1 = some text) : u.slots slot = some text := by
  rcases read_eq_or_none slot u with hnone | hheld
  · rw [hnone] at h
    contradiction
  · rw [← hheld, h]

theorem run_read_of_onlyWritesFail {u : Unreliable} (hu : u.OnlyWritesFail) (slot : Slot) :
    (read slot).run u = (u.slots slot, u.counted) := by
  rw [run_read]
  rcases get_cases slot u with ⟨fault, hfails, -⟩ | ⟨-, hrun⟩
  · rw [(hu _ slot).1] at hfails
    contradiction
  · rw [hrun]
    rfl

theorem run_read_readable (slot : Slot) (u : Unreliable) :
    (read slot).run u = (u.readable slot, u.counted) := by
  rw [run_read, readable]
  rcases get_cases slot u with ⟨fault, hfails, hrun⟩ | ⟨hworks, hrun⟩
  · rw [hrun, hfails]
    rfl
  · rw [hrun, hworks]
    rfl

section

variable {σ : Type} [TokenStore σ] {R : σ → σ → Prop} [Std.Refl R] [IsTrans σ R]

theorem isLoggedIn_keeps (hread : ∀ slot, Keeps R (always (read slot))) (now : Int64) :
    Keeps R (always (isLoggedIn now)) := by
  rw [isLoggedIn, always_bind]
  refine Keeps.bind (hread _) fun held => ?_
  cases held with
  | none => exact Keeps.pure false
  | some token =>
      rw [always_bind]
      refine Keeps.bind (hread _) fun expiry => ?_
      cases expiry with
      | none => exact Keeps.pure true
      | some time => exact Keeps.pure _

theorem accessToken_keeps (hread : ∀ slot, Keeps R (always (read slot))) (now : Int64) :
    Keeps R (always (accessToken now)) := by
  rw [accessToken, always_bind]
  refine Keeps.bind (isLoggedIn_keeps hread now) fun signedIn => ?_
  cases signedIn with
  | false => exact Keeps.pure none
  | true => exact hread _

end

theorem runFrom_removeAll_of_ok {σ : Type} [TokenStore σ] {slot : Slot} {s s' : σ}
    (h : (TokenStore.remove slot : Action σ Unit).runFrom s = (.ok (), s')) (rest : List Slot) :
    (removeAll (slot :: rest)).runFrom s = (removeAll rest).runFrom s' := by
  simp only [removeAll, runFrom, ExceptT.run, StateT.run] at h ⊢
  rw [h]

theorem runFrom_removeAll_of_error {σ : Type} [TokenStore σ] {slot : Slot} {s s' : σ}
    {fault : Fault} (h : (TokenStore.remove slot : Action σ Unit).runFrom s = (.error fault, s'))
    (rest : List Slot) :
    (removeAll (slot :: rest)).runFrom s = (.error fault, ((removeAll rest).runFrom s').2) := by
  simp only [removeAll, runFrom, ExceptT.run, StateT.run] at h ⊢
  rw [h]

theorem removeAll_keeps {touched slots : List Slot} (hslots : slots ⊆ touched) :
    Keeps (ChangesOnly touched) (removeAll slots) := by
  induction slots with
  | nil => exact Keeps.pure ()
  | cons slot rest ih =>
      rw [List.cons_subset] at hslots
      intro u
      have hremove := (remove_keeps slot u).mono
        (List.cons_subset.mpr ⟨hslots.1, List.nil_subset touched⟩)
      rcases h : (TokenStore.remove slot : Action Unreliable Unit).runFrom u with ⟨fault | _, u'⟩
      · rw [h] at hremove
        rw [runFrom_removeAll_of_error h]
        exact hremove.trans (ih hslots.2 u')
      · rw [h] at hremove
        rw [runFrom_removeAll_of_ok h]
        exact hremove.trans (ih hslots.2 u')

/-- Removing leaves each slot as it is or empty. -/
theorem removeAll_slot (slots : List Slot) (u : Unreliable) (slot : Slot) :
    ((removeAll slots).runFrom u).2.slots slot = none ∨
      ((removeAll slots).runFrom u).2.slots slot = u.slots slot := by
  induction slots generalizing u with
  | nil => exact Or.inr rfl
  | cons first rest ih =>
      rcases remove_cases first u with ⟨fault, -, hrun⟩ | ⟨-, hrun⟩
      · rw [runFrom_removeAll_of_error hrun]
        exact ih u.counted
      · rw [runFrom_removeAll_of_ok hrun]
        rcases ih (u.changed (u.slots.put first none)) with hnone | hsame
        · exact Or.inl hnone
        · by_cases hslot : slot = first
          · subst hslot
            exact Or.inl (hsame.trans (u.slots.put_same slot none))
          · exact Or.inr (hsame.trans (u.slots.put_other none hslot))

/-- If removing succeeds, every slot of the list is empty. -/
theorem removeAll_of_ok {slots : List Slot} {u u' : Unreliable}
    (h : (removeAll slots).runFrom u = (.ok (), u')) {slot : Slot} (hslot : slot ∈ slots) :
    u'.slots slot = none := by
  induction slots generalizing u with
  | nil => contradiction
  | cons first rest ih =>
      rcases remove_cases first u with ⟨fault, -, hrun⟩ | ⟨-, hrun⟩
      · rw [runFrom_removeAll_of_error hrun] at h
        injection h with hresult
        contradiction
      · rw [runFrom_removeAll_of_ok hrun] at h
        by_cases hrest : slot ∈ rest
        · exact ih h hrest
        · obtain rfl : slot = first := by simpa [hrest] using hslot
          have hleft := removeAll_slot rest (u.changed (u.slots.put slot none)) slot
          rw [h] at hleft
          rcases hleft with hnone | hsame
          · exact hnone
          · exact hsame.trans (u.slots.put_same slot none)

/-- Removing succeeds where only writes fail. -/
theorem removeAll_of_onlyWritesFail {u : Unreliable} (hu : u.OnlyWritesFail) (slots : List Slot) :
    ((removeAll slots).runFrom u).1 = .ok () := by
  induction slots generalizing u with
  | nil => rfl
  | cons slot rest ih =>
      rw [runFrom_removeAll_of_ok (remove_of_onlyWritesFail hu slot)]
      exact ih (u := u.changed (u.slots.put slot none)) hu

/-- The slots that are written when tokens are kept. -/
def tokenSlots : Option String → List Slot
  | none => [.accessToken, .expiresAt]
  | some _ => [.accessToken, .expiresAt, .refreshToken]

/-- The slots of a sign-in that is under way. -/
def pendingSlots : List Slot :=
  [.state, .codeVerifier]

/-- Keeping tokens leaves the secrets alone. -/
theorem not_mem_tokenSlots (refresh : Option String) {slot : Slot} (h : slot ∈ pendingSlots) :
    slot ∉ tokenSlots refresh := by
  revert slot
  cases refresh <;> simp [tokenSlots, pendingSlots]

theorem clearPending_keeps : Keeps (ChangesOnly pendingSlots) clearPending :=
  removeAll_keeps (List.Subset.refl pendingSlots)

/-- The text of the time at which a token expires. -/
def expiryText (now : Int64) (lifetime : Option UInt64) : String :=
  Decimal.ofInt (expiryAt now lifetime).toInt

theorem set_keeps_of_mem {slot : Slot} {touched : List Slot} (hslot : slot ∈ touched)
    (value : String) :
    Keeps (ChangesOnly touched) (TokenStore.set slot value : Action Unreliable Unit) :=
  fun u => (set_keeps slot value u).mono (List.cons_subset.mpr ⟨hslot, List.nil_subset _⟩)

theorem writeTokens_keeps (now : Int64) (access : String) (refresh : Option String)
    (lifetime : Option UInt64) :
    Keeps (ChangesOnly (tokenSlots refresh)) (writeTokens now access refresh lifetime) := by
  cases refresh with
  | none =>
      exact Keeps.bind (set_keeps_of_mem (by decide) _) fun _ =>
        set_keeps_of_mem (by decide) access
  | some refresh =>
      refine Keeps.bind (set_keeps_of_mem (by simp [tokenSlots]) _) fun _ => ?_
      refine Keeps.bind (set_keeps_of_mem (by simp [tokenSlots]) refresh) fun _ => ?_
      exact set_keeps_of_mem (by simp [tokenSlots]) access

/-- What is written if every write succeeds. -/
theorem writeTokens_of_ok {now : Int64} {access : String} {refresh : Option String}
    {lifetime : Option UInt64} {u u' : Unreliable}
    (h : (writeTokens now access refresh lifetime).runFrom u = (.ok (), u')) :
    u'.slots .accessToken = some access ∧
      u'.slots .refreshToken = refresh.or (u.slots .refreshToken) ∧
      u'.slots .expiresAt = some (expiryText now lifetime) := by
  obtain ⟨_, first, hexpiry, h⟩ := exists_of_runFrom_bind h
  have hfirst := set_of_ok hexpiry
  cases refresh with
  | none =>
      rw [set_of_ok h, hfirst]
      exact ⟨rfl, rfl, rfl⟩
  | some refresh =>
      obtain ⟨_, second, hrefresh, h⟩ := exists_of_runFrom_bind h
      rw [set_of_ok h, set_of_ok hrefresh, hfirst]
      exact ⟨rfl, rfl, rfl⟩

theorem runFrom_storeTokens_of_ok {σ : Type} [TokenStore σ] {now : Int64} {access : String}
    {refresh : Option String} {lifetime : Option UInt64} {s s' : σ}
    (h : (writeTokens now access refresh lifetime).runFrom s = (.ok (), s')) :
    (storeTokens now access refresh lifetime).runFrom s = (.ok (), s') := by
  simp only [storeTokens, runFrom, ExceptT.run, StateT.run] at h ⊢
  rw [h]

theorem runFrom_storeTokens_of_error {σ : Type} [TokenStore σ] {now : Int64} {access : String}
    {refresh : Option String} {lifetime : Option UInt64} {s s' : σ} {fault : Fault}
    (h : (writeTokens now access refresh lifetime).runFrom s = (.error fault, s')) :
    (storeTokens now access refresh lifetime).runFrom s =
      (.error fault, ((TokenStore.remove .accessToken : Action σ Unit).runFrom s').2) := by
  simp only [storeTokens, runFrom, ExceptT.run, StateT.run] at h ⊢
  rw [h]

theorem storeTokens_keeps (now : Int64) (access : String) (refresh : Option String)
    (lifetime : Option UInt64) :
    Keeps (ChangesOnly (tokenSlots refresh)) (storeTokens now access refresh lifetime) := by
  intro u
  have hwrite := writeTokens_keeps now access refresh lifetime u
  rcases h : (writeTokens now access refresh lifetime).runFrom u with ⟨fault | _, u'⟩
  · rw [h] at hwrite
    rw [runFrom_storeTokens_of_error h]
    refine hwrite.trans ((remove_keeps .accessToken u').mono ?_)
    cases refresh <;> simp [tokenSlots]
  · rw [h] at hwrite
    rwa [runFrom_storeTokens_of_ok h]

theorem storeTokens_of_ok {now : Int64} {access : String} {refresh : Option String}
    {lifetime : Option UInt64} {u u' : Unreliable}
    (h : (storeTokens now access refresh lifetime).runFrom u = (.ok (), u')) :
    u'.slots .accessToken = some access ∧
      u'.slots .refreshToken = refresh.or (u.slots .refreshToken) ∧
      u'.slots .expiresAt = some (expiryText now lifetime) := by
  rcases hwrite : (writeTokens now access refresh lifetime).runFrom u with ⟨fault | _, u''⟩
  · rw [runFrom_storeTokens_of_error hwrite] at h
    injection h with hresult
    contradiction
  · rw [runFrom_storeTokens_of_ok hwrite] at h
    rw [h] at hwrite
    exact writeTokens_of_ok hwrite

/-- Tokens are kept if no call fails. -/
theorem storeTokens_of_neverFails {u : Unreliable} (hu : u.NeverFails) (now : Int64)
    (access : String) (refresh : Option String) (lifetime : Option UInt64) :
    ∃ u', (storeTokens now access refresh lifetime).runFrom u = (.ok (), u') := by
  obtain ⟨u', hwrite⟩ :
      ∃ u', (writeTokens now access refresh lifetime).runFrom u = (.ok (), u') := by
    let first := u.changed (u.slots.put .expiresAt (some (expiryText now lifetime)))
    have hexpiry := set_of_neverFails hu .expiresAt (expiryText now lifetime)
    cases refresh with
    | none =>
        have haccess := set_of_neverFails (u := first) hu .accessToken access
        exact ⟨_, (runFrom_bind_of_ok hexpiry).trans haccess⟩
    | some refresh =>
        have hrefresh := set_of_neverFails (u := first) hu .refreshToken refresh
        have haccess := set_of_neverFails
          (u := first.changed (first.slots.put .refreshToken (some refresh)))
          hu .accessToken access
        exact ⟨_, (runFrom_bind_of_ok hexpiry).trans
          ((runFrom_bind_of_ok hrefresh).trans haccess)⟩
  exact ⟨u', runFrom_storeTokens_of_ok hwrite⟩

/-- A token that could not be kept with its expiry is not kept at all. -/
theorem storeTokens_of_error {now : Int64} {access : String} {refresh : Option String}
    {lifetime : Option UInt64} {u u' : Unreliable} {fault : Fault} (hu : u.OnlyWritesFail)
    (h : (storeTokens now access refresh lifetime).runFrom u = (.error fault, u')) :
    u'.slots .accessToken = none := by
  have hkeeps := writeTokens_keeps now access refresh lifetime u
  rcases hwrite : (writeTokens now access refresh lifetime).runFrom u with ⟨fault | _, u''⟩
  · rw [hwrite] at hkeeps
    rw [runFrom_storeTokens_of_error hwrite,
      remove_of_onlyWritesFail (hkeeps.onlyWritesFail hu)] at h
    injection h with _ hstate
    rw [← hstate]
    exact u''.slots.put_same .accessToken none
  · rw [runFrom_storeTokens_of_ok hwrite] at h
    injection h with hresult
    contradiction

theorem setPending_keeps (state verifier : String) :
    Keeps (ChangesOnly pendingSlots) (setPending (σ := Unreliable) state verifier) :=
  Keeps.bind (fun u => (set_keeps _ _ u).mono (by decide))
    fun _ u => (set_keeps _ _ u).mono (by decide)

/-- What is written if both writes succeed. -/
theorem setPending_of_ok {state verifier : String} {u u' : Unreliable}
    (h : (setPending state verifier).runFrom u = (.ok (), u')) :
    u'.slots .state = some state ∧ u'.slots .codeVerifier = some verifier := by
  obtain ⟨_, between, hstate, hverifier⟩ := exists_of_runFrom_bind h
  rw [set_of_ok hverifier, set_of_ok hstate]
  exact ⟨rfl, rfl⟩

end BillingAccess.Session
