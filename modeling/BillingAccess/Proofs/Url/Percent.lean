/-
Percent-encoding can be undone.

A text is read back from its escaped form, whichever characters are escaped, as
long as percent signs are among them.
-/
import BillingAccess.Proofs.Text.Utf8
import BillingAccess.Url.Percent

namespace BillingAccess.Percent

variable {escaped : Char → Bool}

theorem decode_cons {c : Char} (h : c ≠ '%') (rest : List Char) :
    decode (c :: rest) = Utf8.encodeChar c ++ decode rest := by
  rw [decode]
  exact fun _ _ _ hpercent => absurd hpercent h

theorem decode_encodeByte (b : UInt8) (rest : List Char) :
    decode (encodeByte b ++ rest) = b :: decode rest := by
  have hhigh : b.toNat / 16 < 16 := Nat.div_lt_of_lt_mul b.toNat_lt
  have hlow : b.toNat % 16 < 16 := Nat.mod_lt _ (by decide)
  rw [encodeByte, List.cons_append, List.cons_append, List.cons_append, List.nil_append, decode]
  simp only [Hex.value?_digit hhigh, Hex.value?_digit hlow, Nat.div_add_mod', UInt8.ofNat_toNat]

theorem decode_encodeBytes (bytes : List UInt8) (rest : List Char) :
    decode (bytes.flatMap encodeByte ++ rest) = bytes ++ decode rest := by
  induction bytes with
  | nil => rfl
  | cons b bytes ih =>
      rw [List.flatMap_cons, List.append_assoc, decode_encodeByte, ih, List.cons_append]

/-- Escapes are made of percent signs and digits. -/
theorem mem_encodeBytes {bytes : List UInt8} {d : Char} (h : d ∈ bytes.flatMap encodeByte) :
    d = '%' ∨ ∃ n < 16, d = Hex.digit n := by
  obtain ⟨b, -, hd⟩ := List.mem_flatMap.mp h
  simp only [encodeByte, List.mem_cons, List.not_mem_nil, or_false] at hd
  rcases hd with rfl | rfl | rfl
  · exact Or.inl rfl
  · exact Or.inr ⟨_, Nat.div_lt_of_lt_mul b.toNat_lt, rfl⟩
  · exact Or.inr ⟨_, Nat.mod_lt _ (by decide), rfl⟩

theorem encodeChar_cases (escaped : Char → Bool) (c : Char) :
    (escaped c = false ∧ encodeChar escaped c = [c]) ∨
      encodeChar escaped c = (Utf8.encodeChar c).flatMap encodeByte := by
  rw [encodeChar]
  by_cases hkept : (decide (c.toNat < 0x80) && !escaped c) = true
  · rw [if_pos hkept]
    rw [Bool.and_eq_true, Bool.not_eq_true'] at hkept
    exact Or.inl ⟨hkept.2, rfl⟩
  · rw [if_neg hkept]
    exact Or.inr rfl

/-- Only the empty text is written as nothing. -/
theorem encode_eq_nil_iff {text : List Char} : encode escaped text = [] ↔ text = [] := by
  have hchar (c : Char) : encodeChar escaped c ≠ [] := by
    rcases encodeChar_cases escaped c with ⟨-, hwritten⟩ | hwritten <;> rw [hwritten]
    · exact List.cons_ne_nil _ _
    · rw [Utf8.encodeChar]
      split
      · exact List.cons_ne_nil _ _
      · split
        · exact List.cons_ne_nil _ _
        · split
          · exact List.cons_ne_nil _ _
          · exact List.cons_ne_nil _ _
  rw [encode, List.flatMap_eq_nil_iff]
  constructor
  · intro h
    exact List.eq_nil_iff_forall_not_mem.mpr fun c hc => hchar c (h c hc)
  · rintro rfl
    exact fun c hc => absurd hc List.not_mem_nil

/-- A text is read back from its escaped form, if percent signs are escaped. -/
theorem decode_encode (hpercent : escaped '%' = true) (text : List Char) :
    decode (encode escaped text) = Utf8.encode text := by
  have hread (text rest : List Char) :
      decode (encode escaped text ++ rest) = Utf8.encode text ++ decode rest := by
    induction text with
    | nil => rfl
    | cons c text ih =>
        rw [encode, Utf8.encode, List.flatMap_cons, List.flatMap_cons, List.append_assoc,
          List.append_assoc]
        rw [encode, Utf8.encode] at ih
        rcases encodeChar_cases escaped c with ⟨hkept, hwritten⟩ | hwritten <;> rw [hwritten]
        · have hc : c ≠ '%' := by
            rintro rfl
            rw [hpercent] at hkept
            contradiction
          rw [List.singleton_append, decode_cons hc, ih]
        · rw [decode_encodeBytes, ih]
  have hall := hread text []
  rwa [List.append_nil, decode, List.append_nil] at hall

/-- What is escaped does not show, apart from percent signs and digits. -/
theorem not_mem_encode {d : Char} (hescaped : escaped d = true)
    (hdigit : d ≠ '%' ∧ ∀ n < 16, d ≠ Hex.digit n) (text : List Char) :
    d ∉ encode escaped text := by
  intro hmem
  obtain ⟨c, -, hd⟩ := List.mem_flatMap.mp hmem
  rcases encodeChar_cases escaped c with ⟨hkept, hwritten⟩ | hwritten <;> rw [hwritten] at hd
  · rw [List.mem_singleton.mp hd, hkept] at hescaped
    contradiction
  · rcases mem_encodeBytes hd with hpercent | ⟨n, hn, hsame⟩
    · exact hdigit.1 hpercent
    · exact hdigit.2 n hn hsame

end BillingAccess.Percent
