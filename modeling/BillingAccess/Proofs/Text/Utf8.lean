/-
A text is read back from its bytes.

The bytes of a character are those that `scan` takes together: the first byte
says how many follow, and the bounds of the second leave room for every
character that is written with as many.
-/
import BillingAccess.Text.Utf8

namespace BillingAccess.Utf8

theorem toNat_ofNat {n : Nat} (h : n < 256) : (UInt8.ofNat n).toNat = n :=
  Nat.mod_eq_of_lt h

theorem tails_step {owed value low high n : Nat} (h : n < 64) (hlow : low ≤ 0x80 + n)
    (hhigh : 0x80 + n ≤ high) (rest : List UInt8) :
    tails (owed + 1) value low high (UInt8.ofNat (0x80 + n) :: rest) =
      ((tails owed (value * 64 + n) 0x80 0xBF rest).1 + 1,
        (tails owed (value * 64 + n) 0x80 0xBF rest).2) := by
  rw [tails, toNat_ofNat (by omega), if_pos ⟨hlow, hhigh⟩, Nat.add_sub_cancel_left]

theorem tails_one {value low high n : Nat} (h : n < 64) (hlow : low ≤ 0x80 + n)
    (hhigh : 0x80 + n ≤ high) (rest : List UInt8) :
    tails 1 value low high (UInt8.ofNat (0x80 + n) :: rest) = (1, some (value * 64 + n)) := by
  rw [tails_step h hlow hhigh]
  rfl

theorem tails_two {value low high m n : Nat} (hm : m < 64) (hn : n < 64)
    (hlow : low ≤ 0x80 + m) (hhigh : 0x80 + m ≤ high) (rest : List UInt8) :
    tails 2 value low high (UInt8.ofNat (0x80 + m) :: UInt8.ofNat (0x80 + n) :: rest) =
      (2, some ((value * 64 + m) * 64 + n)) := by
  rw [tails_step hm hlow hhigh, tails_one hn (by omega) (by omega)]

theorem tails_three {value low high l m n : Nat} (hl : l < 64) (hm : m < 64) (hn : n < 64)
    (hlow : low ≤ 0x80 + l) (hhigh : 0x80 + l ≤ high) (rest : List UInt8) :
    tails 3 value low high (UInt8.ofNat (0x80 + l) :: UInt8.ofNat (0x80 + m) ::
        UInt8.ofNat (0x80 + n) :: rest) =
      (3, some (((value * 64 + l) * 64 + m) * 64 + n)) := by
  rw [tails_step hl hlow hhigh, tails_two hm hn (by omega) (by omega)]

theorem ofByte?_two {n : Nat} (hlow : 2 ≤ n) (hhigh : n < 32) :
    Lead.ofByte? (0xC0 + n) = some ⟨1, n, 0x80, 0xBF⟩ := by
  rw [Lead.ofByte?, if_pos (by omega), Nat.add_sub_cancel_left]

/-- The narrowed bounds leave room for all but overlong forms and surrogates. -/
theorem exists_ofByte?_three {n m : Nat} (hn : n < 16) (hm : m < 64) (hlong : n = 0 → 32 ≤ m)
    (hpair : n = 13 → m < 32) :
    ∃ low high, Lead.ofByte? (0xE0 + n) = some ⟨2, n, low, high⟩ ∧
      low ≤ 0x80 + m ∧ 0x80 + m ≤ high := by
  rw [Lead.ofByte?, if_neg (by omega)]
  by_cases hfirst : n = 0
  · subst hfirst
    exact ⟨0xA0, 0xBF, by rw [if_pos rfl], by omega, by omega⟩
  · rw [if_neg (by omega)]
    by_cases hthirteen : n = 13
    · subst hthirteen
      exact ⟨0x80, 0x9F, by rw [if_pos rfl], by omega, by omega⟩
    · rw [if_neg (by omega), if_pos (by omega), Nat.add_sub_cancel_left]
      exact ⟨0x80, 0xBF, rfl, by omega, by omega⟩

/-- The narrowed bounds leave room for all but overlong forms and values beyond
the last character. -/
theorem exists_ofByte?_four {n m : Nat} (hn : n < 5) (hm : m < 64) (hlong : n = 0 → 16 ≤ m)
    (hlast : n = 4 → m < 16) :
    ∃ low high, Lead.ofByte? (0xF0 + n) = some ⟨3, n, low, high⟩ ∧
      low ≤ 0x80 + m ∧ 0x80 + m ≤ high := by
  rw [Lead.ofByte?, if_neg (by omega), if_neg (by omega), if_neg (by omega), if_neg (by omega)]
  by_cases hfirst : n = 0
  · subst hfirst
    exact ⟨0x90, 0xBF, by rw [if_pos rfl], by omega, by omega⟩
  · rw [if_neg (by omega)]
    by_cases hfour : n = 4
    · subst hfour
      exact ⟨0x80, 0x8F, by rw [if_neg (by omega), if_pos rfl], by omega, by omega⟩
    · rw [if_pos (by omega), Nat.add_sub_cancel_left]
      exact ⟨0x80, 0xBF, rfl, by omega, by omega⟩

theorem scan_of_lead {b value tailCount low high n : Nat} {more : List UInt8} (hb : b < 256)
    (hbig : 0x80 ≤ b) (hlead : Lead.ofByte? b = some ⟨tailCount, value, low, high⟩)
    (htails : tails tailCount value low high more = (tailCount, some n)) :
    scan (UInt8.ofNat b) more = (tailCount, some (Char.ofNat n)) := by
  rw [scan, toNat_ofNat hb, if_neg (by omega), hlead]
  simp only [htails, Option.map_some]

/-- The bytes of a character are taken together, whatever follows them. -/
theorem exists_scan_encodeChar (c : Char) (rest : List UInt8) :
    ∃ b more, encodeChar c = b :: more ∧ scan b (more ++ rest) = (more.length, some c) := by
  have hvalid : c.toNat < 0xD800 ∨ 0xDFFF < c.toNat ∧ c.toNat < 0x110000 := c.valid
  have hchar : Char.ofNat c.toNat = c := Char.ofNat_toNat c
  rw [encodeChar]
  generalize c.toNat = n at hvalid hchar
  subst hchar
  by_cases hone : n < 0x80
  · refine ⟨UInt8.ofNat n, [], by rw [if_pos hone], ?_⟩
    rw [scan, toNat_ofNat (by omega), if_pos hone]
    rfl
  · rw [if_neg hone]
    by_cases htwo : n < 0x800
    · refine ⟨_, _, by rw [if_pos htwo], ?_⟩
      have htails : tails 1 (n / 64) 0x80 0xBF (UInt8.ofNat (0x80 + n % 64) :: rest) =
          (1, some (n / 64 * 64 + n % 64)) := tails_one (by omega) (by omega) (by omega) rest
      rw [Nat.div_add_mod'] at htails
      exact scan_of_lead (by omega) (by omega) (ofByte?_two (by omega) (by omega)) htails
    · rw [if_neg htwo]
      by_cases hthree : n < 0x10000
      · refine ⟨_, _, by rw [if_pos hthree], ?_⟩
        obtain ⟨low, high, hlead, hlow, hhigh⟩ := exists_ofByte?_three (n := n / 4096)
          (m := n / 64 % 64) (by omega) (by omega) (by omega) (by omega)
        have hsum : (n / 4096 * 64 + n / 64 % 64) * 64 + n % 64 = n := by omega
        have htails : tails 2 (n / 4096) low high (UInt8.ofNat (0x80 + n / 64 % 64) ::
            UInt8.ofNat (0x80 + n % 64) :: rest) = (2, some n) := by
          rw [tails_two (by omega) (by omega) hlow hhigh, hsum]
        exact scan_of_lead (by omega) (by omega) hlead htails
      · rw [if_neg hthree]
        refine ⟨_, _, rfl, ?_⟩
        obtain ⟨low, high, hlead, hlow, hhigh⟩ := exists_ofByte?_four (n := n / 262144)
          (m := n / 4096 % 64) (by omega) (by omega) (by omega) (by omega)
        have hsum : ((n / 262144 * 64 + n / 4096 % 64) * 64 + n / 64 % 64) * 64 + n % 64 = n := by
          omega
        have htails : tails 3 (n / 262144) low high (UInt8.ofNat (0x80 + n / 4096 % 64) ::
            UInt8.ofNat (0x80 + n / 64 % 64) :: UInt8.ofNat (0x80 + n % 64) :: rest) =
              (3, some n) := by
          rw [tails_three (by omega) (by omega) (by omega) hlow hhigh, hsum]
        exact scan_of_lead (by omega) (by omega) hlead htails

theorem decode?_encode (text : List Char) : decode? (encode text) = some text := by
  induction text with
  | nil => simp [encode, decode?]
  | cons c rest ih =>
      obtain ⟨b, more, hbytes, hscan⟩ := exists_scan_encodeChar c (encode rest)
      have hencode : encode (c :: rest) = b :: (more ++ encode rest) := by
        rw [encode, List.flatMap_cons, hbytes, List.cons_append, ← encode]
      rw [hencode, decode?, hscan]
      simp only [List.drop_left, ih, Option.map_some]

/-- Where no character is broken, nothing is replaced. -/
theorem decodeLossy_encode (text : List Char) : decodeLossy (encode text) = text := by
  induction text with
  | nil => simp [encode, decodeLossy]
  | cons c rest ih =>
      obtain ⟨b, more, hbytes, hscan⟩ := exists_scan_encodeChar c (encode rest)
      have hencode : encode (c :: rest) = b :: (more ++ encode rest) := by
        rw [encode, List.flatMap_cons, hbytes, List.cons_append, ← encode]
      rw [hencode, decodeLossy, hscan]
      simp only [List.drop_left, ih, Option.getD_some]

/-- A string is read back from its bytes. -/
theorem toString?_ofString (s : String) : toString? (ofString s) = some s := by
  rw [toString?, ofString, decode?_encode, Option.map_some, String.ofList_toList]

/-- What follows a first byte adds six bits. -/
theorem exists_of_tails {owed value low high count result : Nat} {bytes : List UInt8}
    (hlow : 0x80 ≤ low) (hhigh : high ≤ 0xBF)
    (h : tails (owed + 1) value low high bytes = (count, some result)) :
    ∃ n rest m, n < 64 ∧ bytes = UInt8.ofNat (0x80 + n) :: rest ∧ low ≤ 0x80 + n ∧
      0x80 + n ≤ high ∧ count = m + 1 ∧
      tails owed (value * 64 + n) 0x80 0xBF rest = (m, some result) := by
  cases bytes with
  | nil => cases h
  | cons b rest =>
      rw [tails] at h
      split at h
      case isTrue hb =>
        obtain ⟨hcount, hresult⟩ := Prod.mk.inj h
        have hsum : 0x80 + (b.toNat - 0x80) = b.toNat := by omega
        refine ⟨b.toNat - 0x80, rest, _, by omega, ?_, by omega, by omega, hcount.symm,
          Prod.ext rfl hresult⟩
        rw [hsum, UInt8.ofNat_toNat]
      case isFalse => cases h

theorem exists_of_tails_last {value low high count result : Nat} {bytes : List UInt8}
    (hlow : 0x80 ≤ low) (hhigh : high ≤ 0xBF)
    (h : tails 1 value low high bytes = (count, some result)) :
    ∃ n rest, n < 64 ∧ bytes = UInt8.ofNat (0x80 + n) :: rest ∧ low ≤ 0x80 + n ∧
      0x80 + n ≤ high ∧ count = 1 ∧ result = value * 64 + n := by
  obtain ⟨n, rest, m, hn, hbytes, habove, hbelow, hcount, hresult⟩ := exists_of_tails hlow hhigh h
  obtain ⟨rfl, hvalue⟩ := Prod.mk.inj hresult
  exact ⟨n, rest, hn, hbytes, habove, hbelow, hcount, (Option.some.inj hvalue).symm⟩

/-- The first bytes that there are, by how many follow. -/
inductive Leads : Nat → Lead → Prop
  | two {n : Nat} (hlow : 2 ≤ n) (hhigh : n < 32) : Leads (0xC0 + n) ⟨1, n, 0x80, 0xBF⟩
  | three {n low high : Nat} (hn : n < 16) (hlow : 0x80 ≤ low) (hhigh : high ≤ 0xBF)
      (hlong : n = 0 → 0xA0 ≤ low) (hpair : n = 13 → high ≤ 0x9F) :
      Leads (0xE0 + n) ⟨2, n, low, high⟩
  | four {n low high : Nat} (hn : n < 5) (hlow : 0x80 ≤ low) (hhigh : high ≤ 0xBF)
      (hlong : n = 0 → 0x90 ≤ low) (hlast : n = 4 → high ≤ 0x8F) :
      Leads (0xF0 + n) ⟨3, n, low, high⟩

theorem leads_of_ofByte? {b : Nat} {lead : Lead} (h : Lead.ofByte? b = some lead) :
    Leads b lead := by
  rw [Lead.ofByte?] at h
  split at h
  case isTrue hb =>
    cases h
    obtain ⟨n, rfl⟩ := Nat.exists_eq_add_of_le (show 0xC0 ≤ b by omega)
    rw [Nat.add_sub_cancel_left]
    exact .two (by omega) (by omega)
  split at h
  case isTrue hb =>
    cases h
    rw [hb]
    exact .three (n := 0) (by omega) (by omega) (by omega) (by omega) (by omega)
  split at h
  case isTrue hb =>
    cases h
    rw [hb]
    exact .three (n := 13) (by omega) (by omega) (by omega) (by omega) (by omega)
  split at h
  case isTrue hb =>
    cases h
    obtain ⟨n, rfl⟩ := Nat.exists_eq_add_of_le (show 0xE0 ≤ b by omega)
    rw [Nat.add_sub_cancel_left]
    exact .three (by omega) (by omega) (by omega) (by omega) (by omega)
  split at h
  case isTrue hb =>
    cases h
    rw [hb]
    exact .four (n := 0) (by omega) (by omega) (by omega) (by omega) (by omega)
  split at h
  case isTrue hb =>
    cases h
    obtain ⟨n, rfl⟩ := Nat.exists_eq_add_of_le (show 0xF0 ≤ b by omega)
    rw [Nat.add_sub_cancel_left]
    exact .four (by omega) (by omega) (by omega) (by omega) (by omega)
  split at h
  case isTrue hb =>
    cases h
    rw [hb]
    exact .four (n := 4) (by omega) (by omega) (by omega) (by omega) (by omega)
  case isFalse => cases h

theorem toNat_char {n : Nat} (h : n < 0xD800 ∨ 0xDFFF < n ∧ n < 0x110000) :
    (Char.ofNat n).toNat = n := by
  rw [Char.ofNat, dif_pos h]
  rfl

theorem encodeChar_of_lead {b count result : Nat} {lead : Lead} {rest : List UInt8}
    (hlead : Leads b lead)
    (h : tails lead.tails lead.value lead.low lead.high rest = (count, some result)) :
    UInt8.ofNat b :: rest.take count = encodeChar (Char.ofNat result) := by
  cases hlead with
  | @two n hlow hhigh =>
      have hread : tails 1 n 0x80 0xBF rest = (count, some result) := h
      clear h
      obtain ⟨x, after, hx, rfl, -, -, rfl, rfl⟩ :=
        exists_of_tails_last (by omega) (by omega) hread
      have hfirst : (n * 64 + x) / 64 = n := by omega
      have hsecond : (n * 64 + x) % 64 = x := by omega
      rw [encodeChar, toNat_char (by omega), if_neg (by omega), if_pos (by omega), hfirst,
        hsecond]
      rfl
  | @three n low high hn hlow hhigh hlong hpair =>
      have hread : tails 2 n low high rest = (count, some result) := h
      clear h
      obtain ⟨x, mid, m, hx, rfl, habove, hbelow, rfl, hlast⟩ :=
        exists_of_tails hlow hhigh hread
      obtain ⟨y, after, hy, rfl, -, -, rfl, rfl⟩ :=
        exists_of_tails_last (by omega) (by omega) hlast
      have hfirst : ((n * 64 + x) * 64 + y) / 4096 = n := by omega
      have hsecond : ((n * 64 + x) * 64 + y) / 64 % 64 = x := by omega
      have hthird : ((n * 64 + x) * 64 + y) % 64 = y := by omega
      rw [encodeChar, toNat_char (by omega), if_neg (by omega), if_neg (by omega),
        if_pos (by omega), hfirst, hsecond, hthird]
      rfl
  | @four n low high hn hlow hhigh hlong hlast =>
      have hread : tails 3 n low high rest = (count, some result) := h
      clear h
      obtain ⟨x, second, m, hx, rfl, habove, hbelow, rfl, hthree⟩ :=
        exists_of_tails hlow hhigh hread
      obtain ⟨y, third, k, hy, rfl, -, -, rfl, hfour⟩ :=
        exists_of_tails (by omega) (by omega) hthree
      obtain ⟨z, after, hz, rfl, -, -, rfl, rfl⟩ :=
        exists_of_tails_last (by omega) (by omega) hfour
      have hfirst : (((n * 64 + x) * 64 + y) * 64 + z) / 262144 = n := by omega
      have hsecond : (((n * 64 + x) * 64 + y) * 64 + z) / 4096 % 64 = x := by omega
      have hthird : (((n * 64 + x) * 64 + y) * 64 + z) / 64 % 64 = y := by omega
      have hfourth : (((n * 64 + x) * 64 + y) * 64 + z) % 64 = z := by omega
      rw [encodeChar, toNat_char (by omega), if_neg (by omega), if_neg (by omega),
        if_neg (by omega), hfirst, hsecond, hthird, hfourth]
      rfl

/-- The bytes that are taken together are those of the character. -/
theorem encodeChar_of_scan {b : UInt8} {rest : List UInt8} {count : Nat} {c : Char}
    (h : scan b rest = (count, some c)) : b :: rest.take count = encodeChar c := by
  rw [scan] at h
  split at h
  case isTrue hb =>
    cases h
    rw [encodeChar, toNat_char (by omega), if_pos hb, UInt8.ofNat_toNat]
    rfl
  case isFalse =>
    cases hlead : Lead.ofByte? b.toNat with
    | none =>
        rw [hlead] at h
        cases h
    | some lead =>
        simp only [hlead] at h
        obtain ⟨hcount, hresult⟩ := Prod.mk.inj h
        obtain ⟨result, htails, rfl⟩ := Option.map_eq_some_iff.mp hresult
        have hchar := encodeChar_of_lead (leads_of_ofByte? hlead) (Prod.ext hcount htails)
        rwa [UInt8.ofNat_toNat] at hchar

theorem encode_of_decode? {bytes : List UInt8} {text : List Char} (h : decode? bytes = some text) :
    bytes = encode text := by
  induction bytes using decode?.induct generalizing text with
  | case1 =>
      rw [decode?] at h
      cases h
      rfl
  | case2 b rest count c hscan ih =>
      rw [decode?, hscan] at h
      obtain ⟨more, hmore, rfl⟩ := Option.map_eq_some_iff.mp h
      have hrest := ih hmore
      rw [encode, List.flatMap_cons, ← encode, ← hrest, ← encodeChar_of_scan hscan,
        List.cons_append, List.take_append_drop]
  | case3 b rest count hscan =>
      rw [decode?, hscan] at h
      cases h

/-- A text is read exactly from its bytes. -/
theorem decode?_eq_some_iff {bytes : List UInt8} {text : List Char} :
    decode? bytes = some text ↔ bytes = encode text := by
  constructor
  · exact encode_of_decode?
  · rintro rfl
    exact decode?_encode text

end BillingAccess.Utf8
