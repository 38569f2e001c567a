/-
Until when a session is signed in that has just kept a token.

The expiry goes a long way: it is computed in 64 bits, kept as a decimal text,
and read again from that text whenever somebody asks.  The time that is read is
the time that was computed, and it alone decides, until something is written
again.
-/
import BillingAccess.Proofs.Session.Expiry
import BillingAccess.Proofs.Session.Failures
import BillingAccess.Proofs.Session.Lifetime

namespace BillingAccess.Session

open BillingAccess.Action Unreliable

/-- A token that is kept now for a lifetime lasts until a time, and the store
says so.  Whatever is read from the store later says the same, at any time that
the clock may show then. -/
structure LastsUntil (now : Int64) (lifetime : Option UInt64) (time : Int64)
    (kept : Unreliable) : Prop where
  not_before : now.toInt ≤ time.toInt
  not_after : time.toInt ≤ endlessExpiry now lifetime
  exact : 0 ≤ now.toInt → time.toInt = min lastTime (endlessExpiry now lifetime)
  stored : kept.slots .expiresAt = some (Decimal.ofInt time.toInt)
  reread : ∀ later, ChangesOnly [] kept later → (expiry.run later).1 = some time
  signedIn_iff : ∀ later, ChangesOnly [] kept later → ∀ clock,
    ((isLoggedIn clock).run later).1 = true ↔ clock < time

theorem ReadsNeverFail.congr {touched : List Slot} {u u' : Unreliable}
    (h : ChangesOnly touched u u') (hu : ReadsNeverFail u) : ReadsNeverFail u' := by
  intro n slot
  rw [h.1, hu n slot]

theorem ReadsNeverFail.expiry_eq {u : Unreliable} (h : ReadsNeverFail u) :
    (expiry.run u).1 = (u.slots .expiresAt).bind readTime? := by
  rw [expiry, run_bind, run_read_readable, h.readable]
  rfl

theorem lastsBeyond_expiryText (clock now : Int64) (lifetime : Option UInt64) :
    lastsBeyond clock (some (expiryText now lifetime)) =
      decide (clock < expiryAt now lifetime) := by
  rw [lastsBeyond, readTime?_expiryText, Option.any_some]

theorem lastsUntil_of_stored {u : Unreliable} (hreads : ReadsNeverFail u) {access : String}
    {now : Int64} {lifetime : Option UInt64} (haccess : u.slots .accessToken = some access)
    (hexpiry : u.slots .expiresAt = some (expiryText now lifetime)) :
    LastsUntil now lifetime (expiryAt now lifetime) u where
  not_before := by
    rw [toInt_expiryAt]
    exact le_boundedExpiry now lifetime
  not_after := by
    rw [toInt_expiryAt]
    exact boundedExpiry_le now lifetime
  exact hnow := by
    rw [toInt_expiryAt, boundedExpiry_of_nonneg hnow]
  stored := hexpiry
  reread later hlater := by
    have hsame := hlater.2 .expiresAt List.not_mem_nil
    rw [(hreads.congr hlater).expiry_eq, hsame, hexpiry, Option.bind_some, readTime?_expiryText]
  signedIn_iff later hlater clock := by
    have htoken := hlater.2 .accessToken List.not_mem_nil
    have htime := hlater.2 .expiresAt List.not_mem_nil
    rw [(hreads.congr hlater).isLoggedIn_eq, htoken, haccess, htime, hexpiry,
      lastsBeyond_expiryText, Option.isSome_some, Bool.true_and, decide_eq_true_eq]

/-- On a store that never fails tokens are kept, and they last until the time
that is computed for them: no longer than was said, and up to the last time
exactly as long. -/
theorem stored_tokens_last_until (u : Unreliable) (hu : u.NeverFails) (now : Int64)
    (access : String) (refresh : Option String) (lifetime : Option UInt64) :
    ∃ kept time, (storeTokens now access refresh lifetime).runFrom u = (.ok (), kept) ∧
      LastsUntil now lifetime time kept := by
  obtain ⟨kept, hstore⟩ := storeTokens_of_neverFails hu now access refresh lifetime
  obtain ⟨haccess, -, hexpiry⟩ := storeTokens_of_ok hstore
  have hkeeps := storeTokens_keeps now access refresh lifetime u
  rw [hstore] at hkeeps
  have hreads : ReadsNeverFail kept := ReadsNeverFail.congr hkeeps fun n slot => hu n (.get slot)
  exact ⟨kept, expiryAt now lifetime, hstore, lastsUntil_of_stored hreads haccess hexpiry⟩

/-- A token of an hour that is kept less than an hour before the last time
expires then, and until then it counts. -/
theorem last_hour_of_time :
    let u : Unreliable := ⟨Slots.empty, fun _ _ => none, 0⟩
    let now : Int64 := 0x7FFFFFFFFFFFFF00
    u.NeverFails ∧ ∃ kept, (storeTokens now "a" none none).runFrom u = (.ok (), kept) ∧
      (expiry.run kept).1 = some 0x7FFFFFFFFFFFFFFF ∧
      ((isLoggedIn 0x7FFFFFFFFFFFFFFE).run kept).1 = true ∧
      ((isLoggedIn 0x7FFFFFFFFFFFFFFF).run kept).1 = false := by
  intro u now
  have hnever : u.NeverFails := fun _ _ => rfl
  obtain ⟨kept, time, hstore, hlasts⟩ := stored_tokens_last_until u hnever now "a" none none
  have hlast : time.toInt = lastTime := (hlasts.exact (by decide)).trans (by decide)
  have htime : time = 0x7FFFFFFFFFFFFFFF := Int64.toInt_inj.mp hlast
  subst htime
  have hsame : ChangesOnly [] kept kept := ChangesOnly.refl kept
  refine ⟨hnever, kept, hstore, hlasts.reread kept hsame, ?_, ?_⟩
  · exact (hlasts.signedIn_iff kept hsame _).mpr (by decide)
  · rw [← Bool.not_eq_true, hlasts.signedIn_iff kept hsame]
    decide

end BillingAccess.Session
