/-
What the random texts of a sign-in keep of the bytes they are made of.

Each byte becomes two digits, so a text tells the bytes of its whole pairs and
needs those of its last half pair, no others.  The state and the verifier are
made of bytes of their own, and every state goes with every verifier.
-/
import BillingAccess.SignIn.Pkce
import Mathlib.Data.List.Basic

namespace BillingAccess.SignIn

/-- A digit or a small letter. -/
def IsBase36 (c : Char) : Prop :=
  ('0' ≤ c ∧ c ≤ '9') ∨ ('a' ≤ c ∧ c ≤ 'z')

instance (c : Char) : Decidable (IsBase36 c) :=
  inferInstanceAs (Decidable (_ ∨ _))

theorem isBase36_digit {n : Nat} (h : n < 36) : IsBase36 (base36Digit n) := by
  have all : ∀ m ∈ List.range 36, IsBase36 (base36Digit m) := by decide
  exact all n (List.mem_range.mpr h)

theorem toNat_base36Digit {n : Nat} (h : n < 36) :
    (base36Digit n).toNat = if n < 10 then 48 + n else 87 + n := by
  have all : ∀ m ∈ List.range 36, (base36Digit m).toNat = if m < 10 then 48 + m else 87 + m := by
    decide
  exact all n (List.mem_range.mpr h)

theorem base36Digit_inj {m n : Nat} (hm : m < 36) (hn : n < 36)
    (h : base36Digit m = base36Digit n) : m = n := by
  have hcode := congrArg Char.toNat h
  rw [toNat_base36Digit hm, toNat_base36Digit hn] at hcode
  split at hcode <;> split at hcode <;> omega

theorem base36Pair_injective : Function.Injective base36Pair := by
  intro a b h
  have ha := a.toNat_lt
  have hb := b.toNat_lt
  rw [base36Pair, base36Pair, List.cons.injEq, List.cons.injEq] at h
  have hhigh := base36Digit_inj (by omega) (by omega) h.1
  have hlow := base36Digit_inj (by omega) (by omega) h.2.1
  apply UInt8.toNat_inj.mp
  omega

/-- The digits of the bytes, in order. -/
def digitsOf (bytes : List UInt8) : List Char :=
  bytes.flatMap base36Pair

theorem digitsOf_cons (b : UInt8) (bytes : List UInt8) :
    digitsOf (b :: bytes) = base36Pair b ++ digitsOf bytes :=
  List.flatMap_cons

theorem length_digitsOf (bytes : List UInt8) : (digitsOf bytes).length = 2 * bytes.length := by
  induction bytes with
  | nil => rfl
  | cons b bytes ih =>
      rw [digitsOf_cons, List.length_append, ih, List.length_cons]
      change 2 + _ = _
      omega

theorem isBase36_of_mem_digitsOf {bytes : List UInt8} {c : Char} (h : c ∈ digitsOf bytes) :
    IsBase36 c := by
  obtain ⟨b, -, hc⟩ := List.mem_flatMap.mp h
  have hb := b.toNat_lt
  rw [base36Pair, List.mem_pair] at hc
  rcases hc with rfl | rfl
  · exact isBase36_digit (by omega)
  · exact isBase36_digit (by omega)

/-- The first pairs are those of the first bytes. -/
theorem take_digitsOf (count : Nat) (bytes : List UInt8) :
    (digitsOf bytes).take (2 * count) = digitsOf (bytes.take count) := by
  induction bytes generalizing count with
  | nil => rw [List.take_nil]; exact List.take_nil
  | cons b bytes ih =>
      cases count with
      | zero => rfl
      | succ count =>
          rw [digitsOf_cons, List.take_succ_cons, digitsOf_cons, ← ih count]
          rfl

theorem digitsOf_injective : Function.Injective digitsOf := by
  intro bytes others h
  induction bytes generalizing others with
  | nil =>
      have hlength := congrArg List.length h
      rw [length_digitsOf, length_digitsOf, List.length_nil] at hlength
      exact (List.length_eq_zero_iff.mp (by omega)).symm
  | cons b bytes ih =>
      cases others with
      | nil => cases h
      | cons c others =>
          rw [digitsOf_cons, digitsOf_cons] at h
          obtain ⟨hpair, hrest⟩ := List.append_inj h rfl
          rw [base36Pair_injective hpair, ih hrest]

theorem toList_randomText (length : Nat) (bytes : List UInt8) :
    (randomText length bytes).toList = (digitsOf bytes).take length :=
  String.toList_ofList

/-- What a text of that length tells of the bytes that it is made of: all of its
whole pairs, and nothing beyond the last half pair. -/
structure Tells (length : Nat) (bytes : List UInt8) : Prop where
  exact : (randomText length bytes).length = length
  digits : ∀ c ∈ (randomText length bytes).toList, IsBase36 c
  needs (others : List UInt8) :
    others.take ((length + 1) / 2) = bytes.take ((length + 1) / 2) →
      randomText length others = randomText length bytes
  keeps (others : List UInt8) :
    randomText length others = randomText length bytes →
      others.take (length / 2) = bytes.take (length / 2)

theorem randomText_take (length : Nat) (bytes : List UInt8) :
    randomText length (bytes.take ((length + 1) / 2)) = randomText length bytes := by
  apply String.toList_inj.mp
  rw [toList_randomText, toList_randomText, ← take_digitsOf, List.take_take,
    Nat.min_eq_left (by omega)]

theorem take_eq_of_randomText_eq {length : Nat} {bytes others : List UInt8}
    (h : randomText length bytes = randomText length others) :
    bytes.take (length / 2) = others.take (length / 2) := by
  have hdigits := congrArg (fun text => text.toList.take (2 * (length / 2))) h
  simp only [toList_randomText, List.take_take] at hdigits
  rw [Nat.min_eq_left (by omega), take_digitsOf, take_digitsOf] at hdigits
  exact digitsOf_injective hdigits

theorem tells_of_length {length : Nat} {bytes : List UInt8} (h : bytes.length = length) :
    Tells length bytes where
  exact := by
    rw [← String.length_toList, toList_randomText, List.length_take, length_digitsOf]
    omega
  digits c hc := by
    rw [toList_randomText] at hc
    exact isBase36_of_mem_digitsOf (List.mem_of_mem_take hc)
  needs others hsame := by
    rw [← randomText_take length others, hsame, randomText_take]
  keeps others hsame := take_eq_of_randomText_eq hsame

theorem length_draw (source : RandomSource) (count : Nat) :
    (source.draw count).1.length = count := by
  simp [RandomSource.draw]

theorem take_draw_eq_iff {source other : RandomSource} {count n : Nat} (h : n ≤ count) :
    (source.draw count).1.take n = (other.draw count).1.take n ↔
      ∀ i < n, source.byte (source.drawn + i) = other.byte (other.drawn + i) := by
  simp only [RandomSource.draw, ← List.map_take, List.take_range, Nat.min_eq_left h,
    List.map_inj_left, List.mem_range]

/-- A text of an even length tells half as many bytes and needs no others. -/
theorem randomText_draw_eq_iff (source other : RandomSource) (n : Nat) :
    randomText (2 * n) (source.draw (2 * n)).1 = randomText (2 * n) (other.draw (2 * n)).1 ↔
      ∀ i < n, source.byte (source.drawn + i) = other.byte (other.drawn + i) := by
  have htells := tells_of_length (length_draw other (2 * n))
  have hneeds := htells.needs (source.draw (2 * n)).1
  have hkeeps := htells.keeps (source.draw (2 * n)).1
  rw [show (2 * n + 1) / 2 = n by omega] at hneeds
  rw [show 2 * n / 2 = n by omega] at hkeeps
  rw [← take_draw_eq_iff (show n ≤ 2 * n by omega)]
  exact ⟨hkeeps, hneeds⟩

theorem state_eq_iff (source other : RandomSource) :
    (Pkce.generate source).1.state = (Pkce.generate other).1.state ↔
      ∀ i < 16, source.byte (source.drawn + i) = other.byte (other.drawn + i) :=
  randomText_draw_eq_iff source other 16

theorem verifier_eq_iff (source other : RandomSource) :
    (Pkce.generate source).1.verifier = (Pkce.generate other).1.verifier ↔
      ∀ i < 32, source.byte (source.drawn + 32 + i) = other.byte (other.drawn + 32 + i) :=
  randomText_draw_eq_iff (source.draw stateLength).2 (other.draw stateLength).2 32

/-- The bytes of one state followed by those of another verifier. -/
def RandomSource.spliced (source other : RandomSource) : RandomSource where
  byte i := if i < 32 then source.byte (source.drawn + i) else other.byte (other.drawn + i)

/-- Any state goes with any verifier. -/
theorem exists_state_verifier (source other : RandomSource) :
    ∃ both : RandomSource, (Pkce.generate both).1.state = (Pkce.generate source).1.state ∧
      (Pkce.generate both).1.verifier = (Pkce.generate other).1.verifier := by
  refine ⟨source.spliced other, (state_eq_iff _ _).mpr ?_, (verifier_eq_iff _ _).mpr ?_⟩
  · intro i hi
    simp only [RandomSource.spliced, Nat.zero_add, if_pos (show i < 32 by omega)]
  · intro i hi
    simp only [RandomSource.spliced, Nat.zero_add, if_neg (show ¬32 + i < 32 by omega),
      Nat.add_assoc]

/-- A random text tells the bytes of its whole pairs.  The state tells and needs
the first sixteen of its bytes and the verifier the first thirty-two of its own,
so that the state shows nothing of the verifier. -/
theorem secrets_tell_their_bytes :
    (∀ (length : Nat) (bytes : List UInt8), bytes.length = length → Tells length bytes) ∧
      (∀ source other : RandomSource,
        (Pkce.generate source).1.state = (Pkce.generate other).1.state ↔
          ∀ i < 16, source.byte (source.drawn + i) = other.byte (other.drawn + i)) ∧
      (∀ source other : RandomSource,
        (Pkce.generate source).1.verifier = (Pkce.generate other).1.verifier ↔
          ∀ i < 32, source.byte (source.drawn + 32 + i) = other.byte (other.drawn + 32 + i)) ∧
      ∀ source other : RandomSource, ∃ both : RandomSource,
        (Pkce.generate both).1.state = (Pkce.generate source).1.state ∧
          (Pkce.generate both).1.verifier = (Pkce.generate other).1.verifier :=
  ⟨fun _ _ => tells_of_length, state_eq_iff, verifier_eq_iff, exists_state_verifier⟩

/-- Five digits need three bytes and tell two of them. -/
theorem five_digits_tell_two_bytes :
    [255, 1, 2, 3, 4].length = 5 ∧ randomText 5 [255, 1, 2, 3, 4] = "73010" ∧
      randomText 5 [255, 1, 35, 9, 9] = "73010" ∧
      ∀ others, randomText 5 others = "73010" → others.take 2 = [255, 1] := by
  have htells := secrets_tell_their_bytes.1 5 [255, 1, 2, 3, 4] rfl
  have htext : randomText 5 [255, 1, 2, 3, 4] = "73010" := by decide +kernel
  refine ⟨rfl, htext, by decide +kernel, ?_⟩
  intro others hothers
  exact htells.keeps others (hothers.trans htext.symm)

end BillingAccess.SignIn
