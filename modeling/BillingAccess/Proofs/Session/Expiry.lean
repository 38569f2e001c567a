/-
A token and the time at which it expires belong together.

A session is followed through any course of writes, removals and moves of its
clock.  Writes may fail at any time.  Whatever happens, the token that can be
read is the one of the latest call that kept or removed tokens, and the expiry
beside it is the one which that call computed.
-/
import BillingAccess.Proofs.Session.Steps
import BillingAccess.Proofs.Text.Digits

namespace BillingAccess.Session

open BillingAccess.Action Unreliable

theorem readTime?_expiryText (now : Int64) (lifetime : Option UInt64) :
    readTime? (expiryText now lifetime) = some (expiryAt now lifetime) := by
  have htrim : Text.trim (expiryText now lifetime) = expiryText now lifetime :=
    Text.trim_of_forall fun _ hc => Text.isBlank_of_mem_writeInt hc
  rw [readTime?, htrim, expiryText, Decimal.ofInt, String.toList_ofList]
  exact Decimal.readInt64?_writeInt _

theorem accessToken_of_empty {u : Unreliable} (hu : u.OnlyWritesFail)
    (haccess : u.slots .accessToken = none) (now : Int64) :
    ((accessToken now).run u).1 = none := by
  simp only [accessToken, isLoggedIn, run_bind, run_read_of_onlyWritesFail hu, haccess]
  rfl

/-- A token with its expiry is readable up to that time. -/
theorem accessToken_of_stored {u : Unreliable} (hu : u.OnlyWritesFail) {access : String}
    (haccess : u.slots .accessToken = some access) {stored : Int64} {lifetime : Option UInt64}
    (hexpiry : u.slots .expiresAt = some (expiryText stored lifetime)) (now : Int64) :
    ((accessToken now).run u).1 =
      if now < expiryAt stored lifetime then some access else none := by
  have hcounted : u.counted.OnlyWritesFail := hu
  have hlogged : (isLoggedIn now).run u =
      (decide (now < expiryAt stored lifetime), u.counted.counted) := by
    simp only [isLoggedIn, run_bind, run_read_of_onlyWritesFail hu, haccess,
      run_read_of_onlyWritesFail hcounted]
    simp only [Unreliable.counted, hexpiry]
    change ((readTime? (expiryText stored lifetime)).any fun expiry => decide (now < expiry),
      u.counted.counted) = _
    rw [readTime?_expiryText]
    rfl
  rw [accessToken, run_bind, hlogged]
  by_cases hlt : now < expiryAt stored lifetime
  · rw [if_pos hlt, if_pos (decide_eq_true hlt),
      run_read_of_onlyWritesFail (u := u.counted.counted) hu]
    exact haccess
  · rw [if_neg hlt, if_neg (by simpa using hlt)]
    rfl

/-- What is done to a session or to its clock. -/
inductive Deed
  | storeTokens (access : String) (refresh : Option String) (lifetime : Option UInt64)
  | setPending (state verifier : String)
  | clearPending
  | clear
  | moveClock (now : Int64)
deriving Repr, DecidableEq

namespace Deed

def act (now : Int64) : Deed → Action Unreliable Unit
  | storeTokens access refresh lifetime => Session.storeTokens now access refresh lifetime
  | setPending state verifier => Session.setPending state verifier
  | clearPending => Session.clearPending
  | clear => Session.clear
  | moveClock _ => pure ()

def timeAfter (now : Int64) : Deed → Int64
  | moveClock time => time
  | _ => now

/-- The deeds that keep or remove tokens. -/
def concernsTokens : Deed → Bool
  | storeTokens .. | clear => true
  | _ => false

end Deed

/-- A deed, the time at which it was done, and how it ended. -/
structure Entry where
  deed : Deed
  now : Int64
  result : Except Fault Unit

/-- A session with its clock, and what has been done to it. -/
structure Course where
  store : Unreliable
  now : Int64
  log : List Entry := []

namespace Course

def step (course : Course) (deed : Deed) : Course where
  store := ((deed.act course.now).runFrom course.store).2
  now := deed.timeAfter course.now
  log := course.log ++ [⟨deed, course.now, ((deed.act course.now).runFrom course.store).1⟩]

def run (course : Course) (deeds : List Deed) : Course :=
  deeds.foldl step course

/-- The latest of all calls that keep or remove tokens. -/
def latest? (course : Course) : Option Entry :=
  (course.log.filter (·.deed.concernsTokens)).getLast?

end Course

/-- How a store answers to the latest call on its tokens: if that call kept a
token, the store has it beside its expiry, and if not, it has none. -/
def AnswersTo (store : Unreliable) : Option Entry → Prop
  | some ⟨.storeTokens access _ lifetime, now, .ok ()⟩ =>
      store.slots .accessToken = some access ∧
        store.slots .expiresAt = some (expiryText now lifetime)
  | _ => store.slots .accessToken = none

theorem AnswersTo.congr {store store' : Unreliable} {latest : Option Entry}
    (h : AnswersTo store latest) (haccess : store'.slots .accessToken = store.slots .accessToken)
    (hexpiry : store'.slots .expiresAt = store.slots .expiresAt) : AnswersTo store' latest := by
  unfold AnswersTo at h ⊢
  split at h
  · exact ⟨haccess.trans h.1, hexpiry.trans h.2⟩
  · exact haccess.trans h

theorem AnswersTo.exists_of_access {store : Unreliable} {latest : Option Entry} {token : String}
    (h : AnswersTo store latest) (haccess : store.slots .accessToken = some token) :
    ∃ refresh lifetime stored,
      latest = some ⟨.storeTokens token refresh lifetime, stored, .ok ()⟩ ∧
        store.slots .expiresAt = some (expiryText stored lifetime) := by
  unfold AnswersTo at h
  split at h
  · next access refresh lifetime stored =>
      obtain rfl : access = token := Option.some.inj (h.1.symm.trans haccess)
      exact ⟨refresh, lifetime, stored, rfl, h.2⟩
  · rw [h] at haccess
    contradiction

namespace Course

theorem latest?_step (course : Course) (deed : Deed) :
    (course.step deed).latest? =
      if deed.concernsTokens then
        some ⟨deed, course.now, ((deed.act course.now).runFrom course.store).1⟩
      else course.latest? := by
  rw [latest?, step, List.filter_append]
  cases h : deed.concernsTokens with
  | true => simp [List.filter, h]
  | false => simp [List.filter, h, latest?]

/-- The course so far: the failures are as they were, and the store answers to
the latest call on its tokens. -/
structure Sound (course : Course) : Prop where
  onlyWritesFail : course.store.OnlyWritesFail
  answers : AnswersTo course.store course.latest?

/-- A deed that does not concern tokens leaves them as they are. -/
theorem Sound.of_pending {course : Course} (h : course.Sound) {deed : Deed}
    (hdeed : deed.concernsTokens = false)
    (hkeeps : Keeps (ChangesOnly pendingSlots) (deed.act course.now)) :
    (course.step deed).Sound := by
  have hchange := hkeeps course.store
  refine ⟨hchange.onlyWritesFail h.onlyWritesFail, ?_⟩
  rw [latest?_step, hdeed]
  exact h.answers.congr (hchange.2 _ (by decide)) (hchange.2 _ (by decide))

theorem Sound.step {course : Course} (h : course.Sound) (deed : Deed) :
    (course.step deed).Sound := by
  cases deed with
  | setPending state verifier => exact h.of_pending rfl (setPending_keeps state verifier)
  | clearPending => exact h.of_pending rfl (removeAll_keeps (List.Subset.refl _))
  | moveClock now => exact h.of_pending rfl (Keeps.pure ())
  | clear =>
      have hkeeps := removeAll_keeps (List.Subset.refl Slot.all) course.store
      refine ⟨hkeeps.onlyWritesFail h.onlyWritesFail, ?_⟩
      have hok := removeAll_of_onlyWritesFail h.onlyWritesFail Slot.all
      rw [latest?_step]
      exact removeAll_of_ok (Prod.ext hok rfl) (Slot.mem_all _)
  | storeTokens access refresh lifetime =>
      have hkeeps := storeTokens_keeps course.now access refresh lifetime course.store
      refine ⟨hkeeps.onlyWritesFail h.onlyWritesFail, ?_⟩
      rw [latest?_step]
      change AnswersTo ((storeTokens course.now access refresh lifetime).runFrom course.store).2
        (some ⟨_, _, ((storeTokens course.now access refresh lifetime).runFrom course.store).1⟩)
      rcases hrun : (storeTokens course.now access refresh lifetime).runFrom course.store with
        ⟨fault | _, after⟩
      · exact storeTokens_of_error h.onlyWritesFail hrun
      · have hstored := storeTokens_of_ok hrun
        exact ⟨hstored.1, hstored.2.2⟩

theorem Sound.run {course : Course} (h : course.Sound) (deeds : List Deed) :
    (course.run deeds).Sound := by
  induction deeds generalizing course with
  | nil => exact h
  | cons deed rest ih => exact ih (h.step deed)

end Course

/-- After any course a token can be read exactly while the latest call on tokens
is one that kept it and its expiry lies ahead; and a token that is kept has that
expiry beside it. -/
theorem accessToken_eq_some_iff_latest (store : Unreliable) (start : Int64) (deeds : List Deed)
    (hempty : store.slots = Slots.empty) (hfail : store.OnlyWritesFail) :
    let course := (Course.mk store start []).run deeds
    (∀ now token, ((accessToken now).run course.store).1 = some token ↔
      ∃ refresh lifetime stored,
        course.latest? = some ⟨.storeTokens token refresh lifetime, stored, .ok ()⟩ ∧
          now < expiryAt stored lifetime) ∧
    ∀ token, course.store.slots .accessToken = some token →
      ∃ refresh lifetime stored,
        course.latest? = some ⟨.storeTokens token refresh lifetime, stored, .ok ()⟩ ∧
          course.store.slots .expiresAt =
            some (Decimal.ofInt (expiryAt stored lifetime).toInt) := by
  intro course
  have hstart : (Course.mk store start []).Sound := by
    refine ⟨hfail, ?_⟩
    change store.slots .accessToken = none
    rw [hempty]
    rfl
  have hsound : course.Sound := hstart.run deeds
  refine ⟨fun now token => ⟨fun hread => ?_, ?_⟩, fun token => hsound.answers.exists_of_access⟩
  · cases haccess : course.store.slots .accessToken with
    | none =>
        rw [accessToken_of_empty hsound.onlyWritesFail haccess] at hread
        contradiction
    | some access =>
        obtain ⟨refresh, lifetime, stored, hlatest, hexpiry⟩ :=
          hsound.answers.exists_of_access haccess
        rw [accessToken_of_stored hsound.onlyWritesFail haccess hexpiry] at hread
        by_cases hlt : now < expiryAt stored lifetime
        · obtain rfl : access = token := by simpa [hlt] using hread
          exact ⟨refresh, lifetime, stored, hlatest, hlt⟩
        · simp [hlt] at hread
  · rintro ⟨refresh, lifetime, stored, hlatest, hlt⟩
    have hanswers := hsound.answers
    rw [hlatest] at hanswers
    rw [accessToken_of_stored hsound.onlyWritesFail hanswers.1 hanswers.2, if_pos hlt]

/-- The second of three tokens is lost in a failing write, and the clock is set
back at the end. -/
theorem third_token_readable :
    let failure : Nat → StoreCall → Option Fault := fun n what =>
      if n = 4 ∧ what = .set .accessToken then some (.storage (.stated "full")) else none
    let store : Unreliable := ⟨Slots.empty, failure, 0⟩
    let deeds : List Deed := [.storeTokens "a" (some "r") (some 60), .moveClock 1000,
      .storeTokens "b" none (some 5), .storeTokens "c" none none, .setPending "s" "v",
      .moveClock (-7)]
    store.slots = Slots.empty ∧ store.OnlyWritesFail ∧
      ((accessToken 3600999).run ((Course.mk store 0 []).run deeds).store).1 = some "c" := by
  intro failure store deeds
  have hfail : store.OnlyWritesFail := by
    intro n slot
    simp [store, failure]
  refine ⟨rfl, hfail, ?_⟩
  exact ((accessToken_eq_some_iff_latest store 0 deeds rfl hfail).1 3600999 "c").mpr
    ⟨none, none, 1000, rfl, by decide⟩

end BillingAccess.Session
