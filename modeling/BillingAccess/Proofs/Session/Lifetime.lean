/-
When tokens expire, in whole numbers without a bound.

Times and lifetimes have 64 bits.  A lifetime beyond them lasts as long as they
can say, and a time beyond them is the last one that they can say; all others
are exact.
-/
import BillingAccess.Session

namespace BillingAccess.Session

/-- The first time that 64 bits can say. -/
def firstTime : Int := -0x8000000000000000

/-- The last time that 64 bits can say, and the longest lifetime. -/
def lastTime : Int := 0x7FFFFFFFFFFFFFFF

/-- The milliseconds that a token lasts, an hour if nothing is said. -/
def millisecondsOf (lifetime : Option UInt64) : Int :=
  1000 * (lifetime.getD 3600).toNat

/-- When a token expires if times go on without end. -/
def endlessExpiry (now : Int64) (lifetime : Option UInt64) : Int :=
  now.toInt + millisecondsOf lifetime

/-- When a token expires if neither its lifetime nor the time goes beyond the
last one. -/
def boundedExpiry (now : Int64) (lifetime : Option UInt64) : Int :=
  min lastTime (now.toInt + min lastTime (millisecondsOf lifetime))

/-- A number within 64 bits is kept, and any other becomes the nearest one. -/
theorem toInt_clamp (n : Int) : (clamp n).toInt = max firstTime (min lastTime n) := by
  have hleast : Int64.minValue.toInt = -0x8000000000000000 := by decide
  have hgreatest : Int64.maxValue.toInt = 0x7FFFFFFFFFFFFFFF := by decide
  rw [clamp, hleast, hgreatest, firstTime, lastTime]
  split
  · omega
  · split
    · omega
    · rw [Int64.toInt_ofInt_of_le (by omega) (by omega)]
      omega

theorem toInt_lifetimeMilliseconds (seconds : UInt64) :
    (lifetimeMilliseconds seconds).toInt = min lastTime (1000 * seconds.toNat) := by
  rw [lifetimeMilliseconds, toInt_clamp, firstTime, lastTime, Int.ofNat_eq_natCast]
  omega

/-- What counts as the expiry of a token is bounded from above alone: no
lifetime is negative. -/
theorem toInt_expiryAt (now : Int64) (lifetime : Option UInt64) :
    (expiryAt now lifetime).toInt = boundedExpiry now lifetime := by
  have hleast : -0x8000000000000000 ≤ now.toInt := now.minValue_le_toInt
  have hmilliseconds := toInt_lifetimeMilliseconds (lifetime.getD defaultLifetime)
  rw [expiryAt, toInt_clamp, hmilliseconds, boundedExpiry, millisecondsOf, defaultLifetime,
    firstTime, lastTime]
  omega

/-- No token has expired before it is kept. -/
theorem le_boundedExpiry (now : Int64) (lifetime : Option UInt64) :
    now.toInt ≤ boundedExpiry now lifetime := by
  have hgreatest : now.toInt ≤ 0x7FFFFFFFFFFFFFFF := now.toInt_le
  rw [boundedExpiry, millisecondsOf, lastTime]
  omega

/-- No token lasts longer than was said. -/
theorem boundedExpiry_le (now : Int64) (lifetime : Option UInt64) :
    boundedExpiry now lifetime ≤ endlessExpiry now lifetime := by
  rw [boundedExpiry, endlessExpiry]
  omega

/-- A token that has expired when it is kept lasts no time at all, or is kept at
the last time. -/
theorem boundedExpiry_le_now {now : Int64} {lifetime : Option UInt64}
    (h : boundedExpiry now lifetime ≤ now.toInt) : lifetime = some 0 ∨ now.toInt = lastTime := by
  have hgreatest : now.toInt ≤ 0x7FFFFFFFFFFFFFFF := now.toInt_le
  rw [boundedExpiry, millisecondsOf, lastTime] at h
  rw [lastTime]
  cases lifetime with
  | none =>
      have hhour : (3600 : UInt64).toNat = 3600 := rfl
      rw [Option.getD_none, hhour] at h
      exact Or.inr (by omega)
  | some seconds =>
      rw [Option.getD_some] at h
      by_cases hzero : seconds.toNat = 0
      · exact Or.inl (congrArg some (UInt64.toNat_inj.mp hzero))
      · exact Or.inr (by omega)

/-- A lifetime beyond the last one matters only before the time zero. -/
theorem boundedExpiry_of_nonneg {now : Int64} (hnow : 0 ≤ now.toInt) (lifetime : Option UInt64) :
    boundedExpiry now lifetime = min lastTime (endlessExpiry now lifetime) := by
  rw [boundedExpiry, endlessExpiry]
  omega

example : boundedExpiry 5 (some 0xFFFFFFFFFFFFFFFF) = lastTime := by decide
example : boundedExpiry 5 (some 60) = 60005 := by decide

end BillingAccess.Session
