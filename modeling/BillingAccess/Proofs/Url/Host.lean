/-
No name of a host ends in a blank.

A blank at the end of a name is never taken away: not when the name is decoded,
not when its characters are read and put together, and not with its last label,
which is refused for it.
-/
import BillingAccess.Proofs.Text.Utf8
import BillingAccess.Url.Host
import Mathlib.Data.List.Basic

namespace BillingAccess

/-- A space or a control character of ASCII, with which no text of a URL ends. -/
def IsGap (c : Char) : Prop :=
  c.toNat ≤ 0x20

instance (c : Char) : Decidable (IsGap c) :=
  inferInstanceAs (Decidable (_ ≤ _))

namespace IsGap

variable {c : Char}

/-- What holds of each gap holds of all. -/
theorem all {p : Char → Bool} (hall : (List.range 0x21).all fun n => p (Char.ofNat n))
    (h : IsGap c) : p c = true := by
  have hmem : c.toNat ∈ List.range 0x21 := List.mem_range.mpr (Nat.lt_succ_of_le h)
  have hchar := List.all_eq_true.mp hall c.toNat hmem
  rwa [Char.ofNat_toNat] at hchar

theorem not_digit (h : IsGap c) : Punycode.digit? c = none :=
  Option.isNone_iff_eq_none.mp (h.all (p := fun c => (Punycode.digit? c).isNone) (by decide))

theorem not_hex (h : IsGap c) : Hex.value? c = none :=
  Option.isNone_iff_eq_none.mp (h.all (p := fun c => (Hex.value? c).isNone) (by decide))

theorem toLower_eq (h : IsGap c) : c.toLower = c :=
  beq_iff_eq.mp (h.all (p := fun c => c.toLower == c) (by decide))

theorem forbidden (h : IsGap c) : Domain.forbidden c = true :=
  h.all (by decide)

theorem ne_of_visible (h : IsGap c) {d : Char} (hd : 0x20 < d.toNat) : c ≠ d := by
  rintro rfl
  exact absurd h (Nat.not_le.mpr hd)

end IsGap

section

variable {α β : Type} {xs : List α} {x y : α}

theorem getLast?_cons_eq_some_iff :
    (y :: xs).getLast? = some x ↔ xs = [] ∧ y = x ∨ xs.getLast? = some x := by
  cases xs with
  | nil => simp
  | cons z xs => simp

/-- What a list ends in is what its last member is made into. -/
theorem getLast?_of_mapM {f : α → Option β} {ys : List β} {z : β} (h : xs.mapM f = some ys)
    (hlast : xs.getLast? = some x) (hx : f x = some z) : ys.getLast? = some z := by
  induction xs generalizing ys with
  | nil => cases hlast
  | cons a rest ih =>
      rw [List.mapM_cons] at h
      obtain ⟨b, hb, h⟩ := Option.bind_eq_some_iff.mp h
      obtain ⟨more, hmore, h⟩ := Option.bind_eq_some_iff.mp h
      obtain rfl : b :: more = ys := Option.some.inj h
      rw [getLast?_cons_eq_some_iff] at hlast ⊢
      rcases hlast with ⟨rfl, rfl⟩ | hrest
      · cases hmore
        exact .inl ⟨rfl, Option.some.inj (hb.symm.trans hx)⟩
      · exact .inr (ih hmore hrest)

theorem exists_of_mapM {f : α → Option β} {ys : List β} (h : xs.mapM f = some ys)
    (hmem : x ∈ xs) : ∃ z ∈ ys, f x = some z := by
  induction xs generalizing ys with
  | nil => cases hmem
  | cons a rest ih =>
      rw [List.mapM_cons] at h
      obtain ⟨b, hb, h⟩ := Option.bind_eq_some_iff.mp h
      obtain ⟨more, hmore, h⟩ := Option.bind_eq_some_iff.mp h
      obtain rfl : b :: more = ys := Option.some.inj h
      rcases List.mem_cons.mp hmem with rfl | hrest
      · exact ⟨b, List.mem_cons_self, hb⟩
      · obtain ⟨z, hz, hfx⟩ := ih hmore hrest
        exact ⟨z, List.mem_cons_of_mem b hz, hfx⟩

end

variable {c : Char} {text : List Char}

theorem encodeChar_gap (h : IsGap c) : Utf8.encodeChar c = [UInt8.ofNat c.toNat] := by
  have hsmall : c.toNat < 0x80 := Nat.lt_of_le_of_lt h (by decide)
  rw [Utf8.encodeChar, if_pos hsmall]

theorem Percent.getLast?_decode (h : IsGap c) (hlast : text.getLast? = some c) :
    (decode text).getLast? = some (UInt8.ofNat c.toNat) := by
  induction text using decode.induct with
  | case1 a b rest high low hlow hhigh ih =>
      rw [decode, hhigh, hlow, getLast?_cons_eq_some_iff]
      simp only [getLast?_cons_eq_some_iff] at hlast
      obtain ⟨hnil, -⟩ | ⟨hnil, -⟩ | ⟨-, rfl⟩ | hrest := hlast
      · cases hnil
      · cases hnil
      · rw [h.not_hex] at hlow
        cases hlow
      · exact .inr (ih hrest)
  | case2 a b rest hbroken ih =>
      have hdecode : decode ('%' :: a :: b :: rest) = 0x25 :: decode (a :: b :: rest) := by
        rw [decode]
        split
        · next high low hhigh hlow => exact (hbroken high low hhigh hlow).elim
        · rfl
      rw [hdecode, getLast?_cons_eq_some_iff]
      rw [getLast?_cons_eq_some_iff] at hlast
      rcases hlast with ⟨hnil, -⟩ | hrest
      · cases hnil
      · exact .inr (ih hrest)
  | case3 d rest hplain ih =>
      rw [decode]
      · rw [getLast?_cons_eq_some_iff] at hlast
        rcases hlast with ⟨rfl, rfl⟩ | hrest
        · rw [encodeChar_gap h]
          rfl
        · rw [List.getLast?_append, ih hrest]
          rfl
      · exact hplain
  | case4 => cases hlast

/-- A byte of ASCII stands for its own character. -/
theorem Utf8.getLast?_of_decode? {bytes : List UInt8} (h : decode? bytes = some text)
    (hlast : bytes.getLast? = some (UInt8.ofNat c.toNat)) (hc : c.toNat < 0x80) :
    text.getLast? = some c := by
  obtain rfl := decode?_eq_some_iff.mp h
  rcases List.eq_nil_or_concat text with rfl | ⟨front, d, rfl⟩
  · cases hlast
  · have hvalid : d.toNat < 0xD800 ∨ 0xDFFF < d.toNat ∧ d.toNat < 0x110000 := d.valid
    rw [List.concat_eq_append] at hlast ⊢
    have hbytes : encode (front ++ [d]) = encode front ++ encodeChar d := by
      rw [encode, List.flatMap_append, List.flatMap_singleton, encode]
    have hsame (n : Nat) (hn : n < 256) (hbyte : UInt8.ofNat n = UInt8.ofNat c.toNat) :
        n = c.toNat := by
      rw [← toNat_ofNat hn, hbyte, toNat_ofNat (by omega)]
    rw [hbytes, encodeChar] at hlast
    rw [List.getLast?_concat, Option.some.injEq, ← Char.toNat_inj]
    split at hlast
    case isTrue hone =>
      rw [List.getLast?_concat] at hlast
      exact hsame d.toNat (by omega) (Option.some.inj hlast)
    case isFalse =>
      -- The last of several bytes is none of ASCII.
      have hmore := hsame (0x80 + d.toNat % 64) (by omega)
      split at hlast
      · have := hmore (by simpa using hlast)
        omega
      · split at hlast
        · have := hmore (by simpa using hlast)
          omega
        · have := hmore (by simpa using hlast)
          omega

namespace Text

theorem ordered_concat (h : c.toNat < firstMark) (text : List Char) :
    ordered (text ++ [c]) = ordered text ++ [c] := by
  have hplace (before : List Char) : place c before = c :: before := by
    cases before with
    | nil => rfl
    | cons d before =>
        rw [place, markClass_eq_zero h, if_neg (fun hclass => absurd hclass.1 (by decide))]
  rw [ordered, List.foldl_append, List.foldl_cons, List.foldl_nil, hplace, List.reverse_cons,
    ordered]

theorem joinFrom_concat (h : c.toNat < firstMark) (start : Char) (apart rest : List Char) :
    joinFrom start apart (rest ++ [c]) = joinFrom start apart rest ++ [c] := by
  have hstays (start : Char) : joined? start c = none := by
    rw [joined?, if_pos h]
  induction rest generalizing start apart with
  | nil => simp [joinFrom, hstays, markClass_eq_zero h]
  | cons d rest ih =>
      rw [List.cons_append, joinFrom, joinFrom]
      split
      · exact ih _ _
      · split
        · rw [ih, List.append_assoc]
        · exact ih _ _

/-- A character that is no mark and not made of several stays at the end. -/
theorem composed_concat (h : c.toNat < firstComposite) (text : List Char) :
    composed (text ++ [c]) = composed text ++ [c] := by
  have hmark : c.toNat < firstMark := Nat.lt_trans h (by decide)
  have hparts : parts c = [c] := by
    rw [parts, if_pos h]
  rw [composed, composed, List.flatMap_append, List.flatMap_singleton, hparts,
    ordered_concat hmark]
  cases ordered (text.flatMap parts) with
  | nil => rfl
  | cons d rest => exact joinFrom_concat hmark d [] rest

end Text

namespace Punycode

theorem getLast?_of_readNumber {bias k weight sum n : Nat} {rest : List Char}
    (h : readNumber bias k weight sum text = some (n, rest)) (hlast : text.getLast? = some c)
    (hc : digit? c = none) : rest.getLast? = some c := by
  induction text generalizing k weight sum with
  | nil => cases hlast
  | cons d after ih =>
      rw [readNumber] at h
      rw [getLast?_cons_eq_some_iff] at hlast
      rcases hlast with ⟨rfl, rfl⟩ | hafter
      · rw [hc] at h
        cases h
      · split at h
        case h_1 => cases h
        case h_2 =>
          dsimp only at h
          split at h
          · cases h
            exact hafter
          · split at h
            · cases h
            · exact ih h hafter

theorem readOthers_eq_none {fuel next place bias : Nat} {first : Bool} {label : List Char}
    (hlast : text.getLast? = some c) (hc : digit? c = none) :
    readOthers fuel next place bias first label text = none := by
  induction fuel generalizing next place bias first label text with
  | zero =>
      cases text with
      | nil => cases hlast
      | cons d after => rfl
  | succ fuel ih =>
      cases text with
      | nil => cases hlast
      | cons d after =>
          rw [readOthers]
          · split
            · rfl
            · rename_i delta rest hread
              dsimp only
              split
              · exact ih (getLast?_of_readNumber hread hlast hc)
              · rfl
          · exact nofun

theorem decode?_eq_none (hlast : text.getLast? = some c) (hc : digit? c = none) (hdash : c ≠ '-') :
    decode? text = none := by
  have htail : (text.reverse.takeWhile (· != '-')).reverse.getLast? = some c := by
    rw [← List.head?_reverse] at hlast
    rw [List.getLast?_reverse, List.head?_takeWhile, hlast]
    simpa using hdash
  rw [decode?]
  split
  · exact readOthers_eq_none htail hc
  · rfl

end Punycode

namespace Domain

/-- A label that ends in a blank is not shown, or is unsound. -/
theorem isSound_of_gap (h : IsGap c) (hlast : text.getLast? = some c) {shown : List Char}
    (hshown : shown? text = some shown) : isSound shown = false := by
  unfold shown? at hshown
  split at hshown
  case h_1 rest =>
    have hrest : rest.getLast? = some c := by
      simp only [getLast?_cons_eq_some_iff] at hlast
      obtain ⟨hnil, -⟩ | ⟨hnil, -⟩ | ⟨hnil, -⟩ | ⟨-, rfl⟩ | hrest := hlast
      · cases hnil
      · cases hnil
      · cases hnil
      · exact absurd rfl (h.ne_of_visible (by decide))
      · exact hrest
    rw [Punycode.decode?_eq_none hrest h.not_digit (h.ne_of_visible (by decide)),
      Option.filter_none, ite_self] at hshown
    cases hshown
  case h_2 =>
    obtain rfl := Option.some.inj hshown
    have hall : text.all (!forbidden ·) = false := by
      rw [List.all_eq_false]
      exact ⟨c, List.mem_of_getLast? hlast, by rw [h.forbidden]; exact Bool.false_ne_true⟩
    rw [isSound, hall]
    rfl

/-- The last label ends as the name does. -/
theorem exists_label (hc : c ≠ '.') (hlast : text.getLast? = some c) :
    ∃ label ∈ text.splitOn '.', label.getLast? = some c := by
  induction hlength : text.length using Nat.strongRecOn generalizing text with
  | ind n ih =>
    by_cases hdot : '.' ∈ text
    · obtain ⟨front, rest, rfl, hfront⟩ := List.eq_append_cons_of_mem hdot
      rw [List.splitOn_append_cons_self_of_not_mem hfront]
      have hrest : rest.getLast? = some c := by
        rw [List.getLast?_append_of_ne_nil _ (List.cons_ne_nil _ _),
          getLast?_cons_eq_some_iff] at hlast
        exact hlast.resolve_left fun h => hc h.2.symm
      rw [List.length_append, List.length_cons] at hlength
      obtain ⟨label, hlabel, hend⟩ := ih rest.length (by omega) hrest rfl
      exact ⟨label, List.mem_cons_of_mem front hlabel, hend⟩
    · rw [List.splitOn_eq_singleton hdot]
      exact ⟨text, List.mem_singleton_self text, hlast⟩

theorem read?_getLast? (h : IsGap c) {read : List Char} (hread : read? text = some read)
    (hlast : text.getLast? = some c) : read.getLast? = some c := by
  obtain ⟨parts, hparts, rfl⟩ := Option.map_eq_some_iff.mp hread
  have hsmall : c.toNat < 0x80 := Nat.lt_of_le_of_lt h (by decide)
  have hc : readChar? c = some [c] := by
    rw [readChar?, if_pos hsmall, h.toLower_eq]
  have hend := getLast?_of_mapM hparts hlast hc
  rcases List.eq_nil_or_concat parts with rfl | ⟨front, last, rfl⟩
  · cases hend
  · rw [List.concat_eq_append, List.getLast?_concat, Option.some.injEq] at hend
    rw [hend, List.concat_eq_append, List.flatten_append, List.flatten_singleton,
      Text.composed_concat (Nat.lt_of_le_of_lt h (by decide)), List.getLast?_concat]

/-- A name that ends in a blank has no form in ASCII. -/
theorem toAscii?_of_gap (h : IsGap c) {bytes : List UInt8}
    (hlast : bytes.getLast? = some (UInt8.ofNat c.toNat)) : toAscii? bytes = none := by
  rw [toAscii?]
  cases htext : Utf8.decode? bytes with
  | none => rfl
  | some text =>
      have hsmall : c.toNat < 0x80 := Nat.lt_of_le_of_lt h (by decide)
      have htextLast := Utf8.getLast?_of_decode? htext hlast hsmall
      rw [Option.bind_eq_bind, Option.bind_some]
      cases hread : read? text with
      | none => rfl
      | some read =>
          obtain ⟨label, hlabel, hend⟩ :=
            exists_label (h.ne_of_visible (by decide)) (read?_getLast? h hread htextLast)
          rw [Option.bind_eq_bind, Option.bind_some]
          cases hshown : (read.splitOn '.').mapM shown? with
          | none =>
              dsimp only
              rw [hshown]
              rfl
          | some shown =>
              obtain ⟨unsound, hmem, hunsound⟩ := exists_of_mapM hshown hlabel
              have hall : shown.all isSound = false := by
                rw [List.all_eq_false]
                exact ⟨unsound, hmem, ne_true_of_eq_false (isSound_of_gap h hend hunsound)⟩
              dsimp only
              rw [hshown, Option.bind_some, hall]
              rfl

end Domain

namespace Url

/-- Brackets are not closed by a blank. -/
theorem bracketed?_of_gap (h : IsGap c) (hlast : text.getLast? = some c) :
    bracketed? text = none ∨ bracketed? text = some (.error .badIpv6) := by
  unfold bracketed?
  split
  case h_2 => exact .inl rfl
  case h_1 rest =>
    have hopen : rest.getLast? ≠ some ']' := by
      intro hclose
      rw [getLast?_cons_eq_some_iff] at hlast
      rcases hlast with ⟨rfl, -⟩ | hrest
      · cases hclose
      · rw [hclose, Option.some.injEq] at hrest
        exact h.ne_of_visible (by decide) hrest.symm
    exact .inr (if_neg hopen)

/-- No host of a well-known scheme ends in a blank. -/
theorem Host.read_ne_ok_of_gap (h : IsGap c) (hlast : text.getLast? = some c) (host : Host) :
    Host.read text ≠ .ok host := by
  rw [Host.read]
  rcases bracketed?_of_gap h hlast with hbare | hopen
  · rw [hbare, Domain.toAscii?_of_gap h (Percent.getLast?_decode h hlast)]
    exact nofun
  · rw [hopen]
    exact nofun

end Url

end BillingAccess
