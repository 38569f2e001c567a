/-
A whole number is read back from its numeral, as long as it fits 64 bits.

The reader takes as many digits as there are, so what follows the numeral must
not go on with it.  A numeral of a whole number has no point and no exponent,
and its value is summed up digit by digit without ever leaving the 64 bits.
-/
import BillingAccess.Json.Reader
import BillingAccess.Proofs.Text.Digits
import Mathlib.Tactic.IntervalCases

namespace BillingAccess.Json

open BillingAccess.Decimal

/-- What follows a numeral is no part of it. -/
def EndsNumeral (after : List Char) : Prop :=
  ∀ c ∈ after.head?, digit? c = none ∧ c ≠ '.' ∧ c ≠ 'e' ∧ c ≠ 'E'

/-- The digits that a number is written with. -/
structure Places (n : Nat) (digits : List Nat) : Prop where
  written : writeNat n = digits.map digit
  small : ∀ d ∈ digits, d < 10
  leading : digits.head? = some 0 → n = 0
  sum : n ≤ greatest64 → digits.foldl Mantissa.whole ⟨0, 0, false⟩ = ⟨n, 0, false⟩

namespace Places

variable {n : Nat} {digits : List Nat}

theorem single (h : n < 10) : Places n [n] where
  written := by rw [writeNat, if_pos h]; rfl
  small d hd := by rwa [List.mem_singleton.mp hd]
  leading hhead := Option.some.inj hhead
  sum hn := by
    rw [List.foldl_cons, List.foldl_nil, Mantissa.whole, if_neg Bool.false_ne_true,
      if_pos (by simpa)]
    simp

theorem ne_nil (h : Places n digits) : digits ≠ [] := by
  rintro rfl
  exact writeNat_ne_nil n h.written

theorem append (hn : ¬n < 10) (h : Places (n / 10) digits) :
    Places n (digits ++ [n % 10]) where
  written := by rw [writeNat, if_neg hn, h.written, List.map_append, List.map_singleton]
  small d hd := by
    rcases List.mem_append.mp hd with hfront | hlast
    · exact h.small d hfront
    · rw [List.mem_singleton.mp hlast]
      exact Nat.mod_lt n (by decide)
  leading hhead := by
    rw [List.head?_append, Option.or_of_isSome (List.isSome_head?.mpr h.ne_nil)] at hhead
    have hfront := h.leading hhead
    omega
  sum hgreatest := by
    have hvalue : n / 10 * 10 + n % 10 = n := Nat.div_add_mod' n 10
    rw [List.foldl_append, h.sum (by omega), List.foldl_cons, List.foldl_nil, Mantissa.whole,
      if_neg Bool.false_ne_true, if_pos (by rwa [hvalue]), hvalue]

end Places

theorem exists_places (n : Nat) : ∃ digits, Places n digits := by
  induction n using writeNat.induct with
  | case1 n hn => exact ⟨[n], .single hn⟩
  | case2 n hn ih =>
      obtain ⟨digits, hdigits⟩ := ih
      exact ⟨digits ++ [n % 10], hdigits.append hn⟩

theorem takeDigits_append {digits : List Nat} (hsmall : ∀ d ∈ digits, d < 10)
    {after : List Char} (hafter : EndsNumeral after) :
    takeDigits (digits.map digit ++ after) = (digits, after) := by
  induction digits with
  | nil =>
      cases after with
      | nil => rfl
      | cons c rest => rw [List.map_nil, List.nil_append, takeDigits, (hafter c rfl).1]
  | cons d digits ih =>
      have hd := digit?_digit (hsmall d List.mem_cons_self)
      have hrest := ih fun d hd => hsmall d (List.mem_cons_of_mem _ hd)
      rw [List.map_cons, List.cons_append, takeDigits, hd]
      simp only [hrest]

/-- The numeral of a whole number ends where its digits end. -/
theorem readNumeral_writeNat {n : Nat} {digits : List Nat} (h : Places n digits)
    (negative : Bool) {after : List Char} (hafter : EndsNumeral after) :
    readNumeral negative (writeNat n ++ after) =
      .ok (⟨negative, digits, none, none⟩, after) := by
  have hzero : ¬(digits.head? = some 0 ∧ digits.length ≠ 1) := by
    rintro ⟨hhead, hlength⟩
    have hwritten := congrArg List.length h.written
    rw [h.leading hhead, writeNat, if_pos (by decide), List.length_map] at hwritten
    exact hlength hwritten.symm
  rw [readNumeral, h.written, takeDigits_append h.small hafter]
  simp only [if_neg h.ne_nil, if_neg hzero]
  cases after with
  | nil => rfl
  | cons c rest =>
      obtain ⟨-, hpoint, hsmall, hcapital⟩ := hafter c rfl
      simp [hpoint, hsmall, hcapital, pure, Except.pure, bind, Except.bind]

/-- A number without a sign is whole if it fits 64 bits. -/
theorem readNumber_ofNat {n : Nat} (hn : n ≤ greatest64) {after : List Char}
    (hafter : EndsNumeral after) :
    readNumber false (writeNat n ++ after) = (.number (.whole n), some after) := by
  obtain ⟨digits, hdigits⟩ := exists_places n
  rw [readNumber, readNumeral_writeNat hdigits false hafter]
  simp only [Numeral.number?, hdigits.sum hn]
  rfl

/-- A number with a minus is whole if it fits 64 bits with its sign. -/
theorem readNumber_negSucc {n : Nat} (hn : Int64.minValue.toInt ≤ .negSucc n)
    {after : List Char} (hafter : EndsNumeral after) :
    readNumber true (writeNat (n + 1) ++ after) =
      (.number (.whole (.negSucc n)), some after) := by
  have hleast : Int64.minValue.toInt = -9223372036854775808 := by decide
  rw [hleast] at hn
  obtain ⟨digits, hdigits⟩ := exists_places (n + 1)
  have hgreatest : n + 1 ≤ greatest64 := by
    rw [greatest64]
    omega
  have hfits : ¬(n + 1 = 0 ∨ -Int.ofNat (n + 1) < Int64.minValue.toInt) := by
    rw [hleast]
    simp only [Int.ofNat_eq_natCast]
    omega
  rw [readNumber, readNumeral_writeNat hdigits true hafter]
  simp only [Numeral.number?, hdigits.sum hgreatest, if_neg hfits]
  rfl

/-- A value starts as a number if it starts with a digit. -/
theorem readValue_digit (fuel depth : Nat) {d : Nat} (hd : d < 10) (rest : List Char) :
    readValue (fuel + 1) depth (digit d :: rest) = readNumber false (digit d :: rest) := by
  have hskip : skipSpace (digit d :: rest) = digit d :: rest := by
    interval_cases d <;> rfl
  rw [readValue, hskip]
  interval_cases d <;> rfl

theorem readValue_minus (fuel depth : Nat) (rest : List Char) :
    readValue (fuel + 1) depth ('-' :: rest) = readNumber true rest := by
  have hskip : skipSpace ('-' :: rest) = '-' :: rest := rfl
  rw [readValue, hskip]
  rfl

/-- A whole number that fits 64 bits is read back from its numeral. -/
theorem readValue_writeInt (fuel depth : Nat) {n : Int} (hleast : Int64.minValue.toInt ≤ n)
    (hgreatest : n ≤ greatest64) {after : List Char} (hafter : EndsNumeral after) :
    readValue (fuel + 1) depth (writeInt n ++ after) = (.number (.whole n), some after) := by
  cases n with
  | ofNat n =>
      obtain ⟨digits, hdigits⟩ := exists_places n
      obtain ⟨d, digits, rfl⟩ := List.exists_cons_of_ne_nil hdigits.ne_nil
      have hread := readNumber_ofNat (Int.ofNat_le.mp hgreatest) hafter
      rw [hdigits.written] at hread
      rw [writeInt, hdigits.written]
      exact (readValue_digit fuel depth (hdigits.small d List.mem_cons_self) _).trans hread
  | negSucc n =>
      exact (readValue_minus fuel depth _).trans (readNumber_negSucc hleast hafter)

end BillingAccess.Json
