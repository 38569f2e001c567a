/-
A byte string is read back from its text in base64, in either alphabet, and
from no other text.

Each symbol stands for one value, and the values of a group hold the bits of
its bytes.  Only symbols of the alphabet are written, so nothing is padded.
-/
import BillingAccess.Base64
import Mathlib.Data.List.Basic

namespace BillingAccess.Base64

/-- The symbols stand for all values below 64, each for its own. -/
theorem value?_symbol (alphabet : Alphabet) {n : Nat} (h : n < 64) :
    alphabet.value? (alphabet.symbol n) = some n := by
  have all : ∀ m ∈ List.range 64, alphabet.value? (alphabet.symbol m) = some m := by
    cases alphabet <;> decide
  exact all n (List.mem_range.mpr h)

theorem mapM_value?_symbol (alphabet : Alphabet) {values : List Nat} (h : ∀ n ∈ values, n < 64) :
    (values.map alphabet.symbol).mapM alphabet.value? = some values := by
  induction values with
  | nil => rfl
  | cons n rest ih =>
      rw [List.forall_mem_cons] at h
      rw [List.map_cons, List.mapM_cons, value?_symbol alphabet h.1, ih h.2]
      rfl

/-- Which characters are symbols, and of which values. -/
theorem value?_cases {alphabet : Alphabet} {c : Char} {n : Nat} (h : alphabet.value? c = some n) :
    (65 ≤ c.toNat ∧ c.toNat ≤ 90 ∧ n = c.toNat - 65) ∨
      (97 ≤ c.toNat ∧ c.toNat ≤ 122 ∧ n = c.toNat - 97 + 26) ∨
      (48 ≤ c.toNat ∧ c.toNat ≤ 57 ∧ n = c.toNat - 48 + 52) ∨
      (c = alphabet.lastTwo.1 ∧ n = 62) ∨ (c = alphabet.lastTwo.2 ∧ n = 63) := by
  dsimp only [Alphabet.value?] at h
  split at h
  · cases h
    omega
  · split at h
    · cases h
      omega
    · split at h
      · cases h
        omega
      · split at h
        · next hfirst =>
            exact .inr (.inr (.inr (.inl ⟨hfirst, (Option.some.inj h).symm⟩)))
        · split at h
          · next hsecond =>
              exact .inr (.inr (.inr (.inr ⟨hsecond, (Option.some.inj h).symm⟩)))
          · cases h

/-- A value has one symbol. -/
theorem symbol_of_value? {alphabet : Alphabet} {c : Char} {n : Nat}
    (h : alphabet.value? c = some n) : n < 64 ∧ alphabet.symbol n = c := by
  obtain ⟨hlow, hhigh, rfl⟩ | ⟨hlow, hhigh, rfl⟩ | ⟨hlow, hhigh, rfl⟩ | ⟨rfl, rfl⟩ | ⟨rfl, rfl⟩ :=
    value?_cases h
  · refine ⟨by omega, ?_⟩
    rw [Alphabet.symbol, if_pos (by omega), Nat.sub_add_cancel hlow, Char.ofNat_toNat]
  · refine ⟨by omega, ?_⟩
    rw [Alphabet.symbol, if_neg (by omega), if_pos (by omega), Nat.add_sub_cancel,
      Nat.sub_add_cancel hlow, Char.ofNat_toNat]
  · refine ⟨by omega, ?_⟩
    rw [Alphabet.symbol, if_neg (by omega), if_neg (by omega), if_pos (by omega),
      Nat.add_sub_cancel, Nat.sub_add_cancel hlow, Char.ofNat_toNat]
  · exact ⟨by omega, rfl⟩
  · exact ⟨by omega, rfl⟩

theorem toNat_lastTwo (alphabet : Alphabet) :
    (alphabet.lastTwo.1.toNat = 45 ∨ alphabet.lastTwo.1.toNat = 43) ∧
      (alphabet.lastTwo.2.toNat = 95 ∨ alphabet.lastTwo.2.toNat = 47) := by
  cases alphabet <;> decide

/-- The alphabets agree on the symbols that they share. -/
theorem value?_agree {alphabet other : Alphabet} {c : Char} {m n : Nat}
    (hm : alphabet.value? c = some m) (hn : other.value? c = some n) : m = n := by
  have hlast := toNat_lastTwo alphabet
  have hotherLast := toNat_lastTwo other
  have hm := value?_cases hm
  have hn := value?_cases hn
  grind

/-- A text of symbols is read symbol by symbol. -/
theorem exists_of_mapM_value?_cons {alphabet : Alphabet} {c : Char} {text : List Char}
    {values : List Nat} (h : (c :: text).mapM alphabet.value? = some values) :
    ∃ n rest, alphabet.value? c = some n ∧ text.mapM alphabet.value? = some rest ∧
      values = n :: rest := by
  rw [List.mapM_cons] at h
  obtain ⟨n, hn, h⟩ := Option.bind_eq_some_iff.mp h
  obtain ⟨rest, hrest, h⟩ := Option.bind_eq_some_iff.mp h
  exact ⟨n, rest, hn, hrest, (Option.some.inj h).symm⟩

theorem eq_map_symbol_of_mapM {alphabet : Alphabet} {text : List Char} {values : List Nat}
    (h : text.mapM alphabet.value? = some values) :
    (∀ n ∈ values, n < 64) ∧ values.map alphabet.symbol = text := by
  induction text generalizing values with
  | nil =>
      cases h
      exact ⟨List.forall_mem_nil _, rfl⟩
  | cons c text ih =>
      obtain ⟨n, rest, hn, hrest, rfl⟩ := exists_of_mapM_value?_cons h
      obtain ⟨hlt, hsymbol⟩ := symbol_of_value? hn
      obtain ⟨hrestLt, hrestSymbols⟩ := ih hrest
      exact ⟨List.forall_mem_cons.mpr ⟨hlt, hrestLt⟩, by rw [List.map_cons, hsymbol, hrestSymbols]⟩

/-- A text of symbols that both alphabets have is read alike. -/
theorem mapM_value?_agree {alphabet other : Alphabet} {text : List Char} {values others : List Nat}
    (h : text.mapM alphabet.value? = some values) (hother : text.mapM other.value? = some others) :
    values = others := by
  induction text generalizing values others with
  | nil =>
      cases h
      cases hother
      rfl
  | cons c text ih =>
      obtain ⟨n, rest, hn, hrest, rfl⟩ := exists_of_mapM_value?_cons h
      obtain ⟨m, more, hm, hmore, rfl⟩ := exists_of_mapM_value?_cons hother
      rw [value?_agree hn hm, ih hrest hmore]

theorem sextets_lt (bytes : List UInt8) : ∀ n ∈ sextets bytes, n < 64 := by
  induction bytes using sextets.induct with
  | case1 => simp [sextets]
  | case2 a =>
      have ha := a.toNat_lt
      simp only [sextets, List.forall_mem_cons]
      exact ⟨by omega, by omega, List.forall_mem_nil _⟩
  | case3 a b =>
      have ha := a.toNat_lt
      have hb := b.toNat_lt
      simp only [sextets, List.forall_mem_cons]
      exact ⟨by omega, by omega, by omega, List.forall_mem_nil _⟩
  | case4 a b c rest ih =>
      have ha := a.toNat_lt
      have hb := b.toNat_lt
      have hc := c.toNat_lt
      simp only [sextets, List.forall_mem_cons]
      exact ⟨by omega, by omega, by omega, by omega, ih⟩

/-- A byte is known by its number. -/
theorem ofNat_of_eq_toNat {b : UInt8} {n : Nat} (h : n = b.toNat) : UInt8.ofNat n = b := by
  rw [h, UInt8.ofNat_toNat]

theorem ofSextets_sextets (bytes : List UInt8) : ofSextets (sextets bytes) = some bytes := by
  induction bytes using sextets.induct with
  | case1 => rfl
  | case2 a =>
      rw [sextets, ofSextets, if_pos (by omega), ofNat_of_eq_toNat (b := a) (by omega)]
  | case3 a b =>
      have hb := b.toNat_lt
      rw [sextets, ofSextets, if_pos (by omega), ofNat_of_eq_toNat (b := a) (by omega),
        ofNat_of_eq_toNat (b := b) (by omega)]
  | case4 a b c rest ih =>
      have hb := b.toNat_lt
      have hc := c.toNat_lt
      rw [sextets, ofSextets, ih, Option.map_some, ofNat_of_eq_toNat (b := a) (by omega),
        ofNat_of_eq_toNat (b := b) (by omega), ofNat_of_eq_toNat (b := c) (by omega)]

/-- Values that are read are those that the bytes are written as: spare bits are zero. -/
theorem sextets_of_ofSextets {values : List Nat} (hlt : ∀ n ∈ values, n < 64)
    {bytes : List UInt8} (h : ofSextets values = some bytes) : sextets bytes = values := by
  induction values using ofSextets.induct generalizing bytes with
  | case1 =>
      cases h
      rfl
  | case2 n => cases h
  | case3 p q hq =>
      simp only [List.forall_mem_cons] at hlt
      rw [ofSextets, if_pos hq] at h
      cases h
      simp only [sextets, UInt8.toNat_ofNat', List.cons.injEq, and_true]
      omega
  | case4 => simp [ofSextets, *] at h
  | case5 p q r hr =>
      simp only [List.forall_mem_cons] at hlt
      rw [ofSextets, if_pos hr] at h
      cases h
      simp only [sextets, UInt8.toNat_ofNat', List.cons.injEq, and_true]
      omega
  | case6 => simp [ofSextets, *] at h
  | case7 p q r s rest ih =>
      simp only [List.forall_mem_cons] at hlt
      obtain ⟨hp, hq, hr, hs, hrest⟩ := hlt
      rw [ofSextets] at h
      obtain ⟨more, hmore, rfl⟩ := Option.map_eq_some_iff.mp h
      simp only [sextets, UInt8.toNat_ofNat', List.cons.injEq]
      exact ⟨by omega, by omega, by omega, by omega, ih hrest hmore⟩

theorem length_sextets (bytes : List UInt8) :
    (sextets bytes).length = (4 * bytes.length + 2) / 3 := by
  induction bytes using sextets.induct with
  | case1 => rfl
  | case2 a => simp [sextets]
  | case3 a b => simp [sextets]
  | case4 a b c rest ih =>
      simp only [sextets, List.length_cons, ih]
      omega

/-- A byte string is read back from its text. -/
theorem decode?_encode (alphabet : Alphabet) (bytes : List UInt8) :
    decode? alphabet (encode alphabet bytes).toList = some bytes := by
  rw [decode?, encode, String.toList_ofList, mapM_value?_symbol alphabet (sextets_lt bytes),
    Option.bind_some, ofSextets_sextets]

/-- What is written are symbols. -/
theorem exists_value_of_mem_encode {alphabet : Alphabet} {bytes : List UInt8} {c : Char}
    (h : c ∈ (encode alphabet bytes).toList) : ∃ n < 64, c = alphabet.symbol n := by
  rw [encode, String.toList_ofList] at h
  obtain ⟨n, hn, rfl⟩ := List.mem_map.mp h
  exact ⟨n, sextets_lt bytes n hn, rfl⟩

theorem not_mem_encode {alphabet : Alphabet} {c : Char} (h : alphabet.value? c = none)
    (bytes : List UInt8) : c ∉ (encode alphabet bytes).toList := by
  intro hmem
  obtain ⟨n, hn, rfl⟩ := exists_value_of_mem_encode hmem
  rw [value?_symbol alphabet hn] at h
  cases h

/-- The sign that pads is no symbol. -/
theorem padding_not_mem_encode (alphabet : Alphabet) (bytes : List UInt8) :
    '=' ∉ (encode alphabet bytes).toList :=
  not_mem_encode (by cases alphabet <;> decide) bytes

/-- A text is read if it is the one that is written for the bytes. -/
theorem decode?_eq_some_iff {alphabet : Alphabet} {text : List Char} {bytes : List UInt8} :
    decode? alphabet text = some bytes ↔ text = (encode alphabet bytes).toList := by
  constructor
  · intro h
    obtain ⟨values, hvalues, h⟩ := Option.bind_eq_some_iff.mp h
    obtain ⟨hlt, hsymbols⟩ := eq_map_symbol_of_mapM hvalues
    rw [encode, String.toList_ofList, sextets_of_ofSextets hlt h, hsymbols]
  · rintro rfl
    exact decode?_encode alphabet bytes

/-- A text that is one in either alphabet spells the same bytes in both. -/
theorem decode?_agree {alphabet other : Alphabet} {text : List Char} {bytes others : List UInt8}
    (h : decode? alphabet text = some bytes) (hother : decode? other text = some others) :
    bytes = others := by
  obtain ⟨values, hvalues, h⟩ := Option.bind_eq_some_iff.mp h
  obtain ⟨more, hmore, hother⟩ := Option.bind_eq_some_iff.mp hother
  rw [mapM_value?_agree hvalues hmore] at h
  exact Option.some.inj (h.symm.trans hother)

theorem Form.exists_toList_encode (form : Form) (bytes : List UInt8) :
    ∃ n, (form.encode bytes).toList =
      (Base64.encode form.alphabet bytes).toList ++ List.replicate n '=' := by
  rw [Form.encode]
  cases form.padded with
  | false => exact ⟨0, (List.append_nil _).symm⟩
  | true => exact ⟨padding bytes, by simp⟩

end BillingAccess.Base64
