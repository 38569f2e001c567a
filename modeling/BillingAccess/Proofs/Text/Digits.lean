/-
Which texts are read as numbers.  A number that was written is read again.
-/
import BillingAccess.Text.Blank
import BillingAccess.Text.Digits

namespace BillingAccess.Decimal

theorem digit?_digit {n : Nat} (h : n < 10) : digit? (digit n) = some n := by
  have all : ∀ m ∈ List.range 10, digit? (digit m) = some m := by decide
  exact all n (List.mem_range.mpr h)

theorem readDigits_append (value : Nat) (front back : List Char) :
    readDigits value (front ++ back) =
      (readDigits value front).bind fun value => readDigits value back := by
  induction front generalizing value with
  | nil => rfl
  | cons c rest ih =>
      simp only [List.cons_append, readDigits]
      cases digit? c with
      | none => rfl
      | some d => exact ih (value * 10 + d)

theorem readDigits_digit (value : Nat) {n : Nat} (h : n < 10) :
    readDigits value [digit n] = some (value * 10 + n) := by
  simp [readDigits, digit?_digit h]

theorem readDigits_writeNat (n : Nat) : readDigits 0 (writeNat n) = some n := by
  induction n using writeNat.induct with
  | case1 n hn =>
      rw [writeNat, if_pos hn, readDigits_digit 0 hn]
      simp
  | case2 n hn ih =>
      rw [writeNat, if_neg hn, readDigits_append, ih, Option.bind_some,
        readDigits_digit _ (Nat.mod_lt n (by decide))]
      congr 1
      omega

/-- Writing gives digits and nothing else. -/
theorem exists_digit_of_mem_writeNat {n : Nat} {c : Char} (hc : c ∈ writeNat n) :
    ∃ d < 10, c = digit d := by
  induction n using writeNat.induct with
  | case1 n hn =>
      rw [writeNat, if_pos hn, List.mem_singleton] at hc
      exact ⟨n, hn, hc⟩
  | case2 n hn ih =>
      rw [writeNat, if_neg hn, List.mem_append, List.mem_singleton] at hc
      rcases hc with hfront | rfl
      · exact ih hfront
      · exact ⟨n % 10, Nat.mod_lt n (by decide), rfl⟩

theorem writeNat_ne_nil (n : Nat) : writeNat n ≠ [] := by
  rw [writeNat]
  split <;> simp

theorem readNat?_writeNat (n : Nat) : readNat? (writeNat n) = some n := by
  cases h : writeNat n with
  | nil => exact absurd h (writeNat_ne_nil n)
  | cons c rest =>
      rw [readNat?, ← h]
      exact readDigits_writeNat n

theorem digit_ne_sign {d : Nat} (h : d < 10) : digit d ≠ '+' ∧ digit d ≠ '-' := by
  have all : ∀ m ∈ List.range 10, digit m ≠ '+' ∧ digit m ≠ '-' := by decide
  exact all d (List.mem_range.mpr h)

theorem readInt?_writeInt (n : Int) : readInt? (writeInt n) = some n := by
  cases n with
  | ofNat n =>
      rw [writeInt]
      have hread := readNat?_writeNat n
      cases h : writeNat n with
      | nil => exact absurd h (writeNat_ne_nil n)
      | cons c rest =>
          obtain ⟨d, hd, rfl⟩ := exists_digit_of_mem_writeNat (n := n) (h ▸ List.mem_cons_self)
          rw [h] at hread
          have hsign := digit_ne_sign hd
          rw [readInt?, hread]
          · rfl
          · exact fun _ heq => hsign.1 (List.cons.inj heq).1
          · exact fun _ heq => hsign.2 (List.cons.inj heq).1
  | negSucc n =>
      rw [writeInt, readInt?, readNat?_writeNat]
      rfl

/-- A number of 64 bits that was written is read as itself. -/
theorem readInt64?_writeInt (n : Int64) : readInt64? (writeInt n.toInt) = some n := by
  have hrange : Int64.minValue.toInt ≤ n.toInt ∧ n.toInt ≤ Int64.maxValue.toInt :=
    ⟨n.minValue_le_toInt, n.toInt_le⟩
  rw [readInt64?, readSigned?, readInt?_writeInt]
  simp only [Option.filter, decide_eq_true hrange, ↓reduceIte, Option.map_some, Int64.ofInt_toInt]

/-- The number with some digits, the most significant one first, behind those of
another number. -/
def appendDigits (value : Nat) (digits : List Nat) : Nat :=
  digits.foldl (fun value d => value * 10 + d) value

/-- The characters are the digits of a number. -/
def Spells (text : List Char) (n : Nat) : Prop :=
  ∃ digits : List Nat, text.map digit? = digits.map some ∧ n = appendDigits 0 digits

theorem readDigits_eq_some_iff (value : Nat) (text : List Char) (n : Nat) :
    readDigits value text = some n ↔
      ∃ digits : List Nat, text.map digit? = digits.map some ∧ n = appendDigits value digits := by
  induction text generalizing value with
  | nil =>
      constructor
      · rintro ⟨⟩
        exact ⟨[], rfl, rfl⟩
      · rintro ⟨digits, hdigits, rfl⟩
        obtain rfl := List.map_eq_nil_iff.mp hdigits.symm
        rfl
  | cons c rest ih =>
      rw [readDigits]
      cases hdigit : digit? c with
      | none =>
          constructor
          · exact nofun
          · rintro ⟨_ | ⟨d, digits⟩, hdigits, -⟩ <;> simp [hdigit] at hdigits
      | some d =>
          simp only
          rw [ih]
          constructor
          · rintro ⟨digits, hdigits, rfl⟩
            exact ⟨d :: digits, by simp [hdigit, hdigits], rfl⟩
          · rintro ⟨_ | ⟨other, digits⟩, hdigits, rfl⟩
            · cases hdigits
            · simp only [List.map_cons, hdigit, List.cons.injEq, Option.some.injEq] at hdigits
              obtain ⟨rfl, hdigits⟩ := hdigits
              exact ⟨digits, hdigits, rfl⟩

theorem readNat?_eq_some_iff (text : List Char) (n : Nat) :
    readNat? text = some n ↔ text ≠ [] ∧ Spells text n := by
  cases text with
  | nil => simp [readNat?]
  | cons c rest =>
      rw [readNat?, readDigits_eq_some_iff]
      simp [Spells]

theorem spells_plus {rest : List Char} {n : Nat} : ¬Spells ('+' :: rest) n := by
  rintro ⟨_ | ⟨d, digits⟩, hdigits, -⟩
  · cases hdigits
  · cases (List.cons.inj hdigits).1

theorem filter_readNat?_eq_some_iff (greatest : Nat) (text : List Char) (n : Nat) :
    (readNat? text).filter (· ≤ greatest) = some n ↔
      text ≠ [] ∧ Spells text n ∧ n ≤ greatest := by
  rw [Option.filter_eq_some_iff, readNat?_eq_some_iff, decide_eq_true_eq, and_assoc]

/-- What is read is digits, perhaps after a plus, of a number that is not too
great. -/
theorem readUnsigned?_eq_some_iff (greatest : Nat) (text : List Char) (n : Nat) :
    readUnsigned? greatest text = some n ↔
      ∃ digits, digits ≠ [] ∧ (text = digits ∨ text = '+' :: digits) ∧ Spells digits n ∧
        n ≤ greatest := by
  by_cases hplus : ∃ rest, text = '+' :: rest
  · obtain ⟨rest, rfl⟩ := hplus
    rw [readUnsigned?, filter_readNat?_eq_some_iff]
    constructor
    · rintro ⟨hrest, hnumber⟩
      exact ⟨rest, hrest, Or.inr rfl, hnumber⟩
    · rintro ⟨digits, hdigits, rfl | hrest, hspells, hle⟩
      · exact absurd hspells spells_plus
      · obtain rfl := (List.cons.inj hrest).2
        exact ⟨hdigits, hspells, hle⟩
  · rw [readUnsigned?, filter_readNat?_eq_some_iff]
    · constructor
      · rintro ⟨htext, hnumber⟩
        exact ⟨text, htext, Or.inl rfl, hnumber⟩
      · rintro ⟨digits, hdigits, rfl | rfl, hnumber⟩
        · exact ⟨hdigits, hnumber⟩
        · exact absurd ⟨_, rfl⟩ hplus
    · exact fun rest h => hplus ⟨rest, h⟩

end BillingAccess.Decimal

namespace BillingAccess.Text

/-- A text without blanks is not changed by taking away the blanks at its ends. -/
theorem trim_of_forall {text : List Char} (h : ∀ c ∈ text, isBlank c = false) :
    trim (String.ofList text) = String.ofList text := by
  have keep : ∀ l : List Char, (∀ c ∈ l, isBlank c = false) → l.dropWhile isBlank = l := by
    intro l hl
    cases l with
    | nil => rfl
    | cons c rest => simp [List.dropWhile, hl c List.mem_cons_self]
  rw [trim, trimBy, String.toList_ofList, keep text h,
    keep text.reverse fun c hc => h c (List.mem_reverse.mp hc), List.reverse_reverse]

theorem isBlank_digit {d : Nat} (h : d < 10) : isBlank (Decimal.digit d) = false := by
  have all : ∀ m ∈ List.range 10, isBlank (Decimal.digit m) = false := by decide
  exact all d (List.mem_range.mpr h)

theorem isBlank_of_mem_writeInt {n : Int} {c : Char} (hc : c ∈ Decimal.writeInt n) :
    isBlank c = false := by
  have digits : ∀ {m : Nat}, c ∈ Decimal.writeNat m → isBlank c = false := by
    intro m hm
    obtain ⟨d, hd, rfl⟩ := Decimal.exists_digit_of_mem_writeNat hm
    exact isBlank_digit hd
  cases n with
  | ofNat n => exact digits hc
  | negSucc n =>
      rcases List.mem_cons.mp hc with rfl | hrest
      · decide
      · exact digits hrest

end BillingAccess.Text
