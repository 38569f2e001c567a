/-
URLs with pairs in their query and in their fragment.

A text of pairs is made of characters that neither part of a URL escapes, and
neither mark is among them.  So what is written behind the two marks of an
address is what the parts of its URL say, whatever the pairs hold.
-/
import BillingAccess.Proofs.Url.Continuation

namespace BillingAccess.Form

/-- A character that texts of pairs are written with. -/
def IsWritten (c : Char) : Prop :=
  plain c = true ∨ c ∈ ['+', '%', '=', '&']

theorem isWritten_of_mem_encodeText {text : List Char} {c : Char} (h : c ∈ encodeText text) :
    IsWritten c := by
  obtain ⟨d, -, hc⟩ := List.mem_flatMap.mp h
  rcases mem_encodeChar hc with rfl | rfl | hplain
  · exact .inr (by decide)
  · exact .inr (by decide)
  · exact .inl hplain

theorem isWritten_of_mem_encodePair {pair : String × String} {c : Char}
    (h : c ∈ encodePair pair) : IsWritten c := by
  rw [encodePair, List.mem_append, List.mem_cons] at h
  rcases h with hname | rfl | hvalue
  · exact isWritten_of_mem_encodeText hname
  · exact .inr (by decide)
  · exact isWritten_of_mem_encodeText hvalue

theorem isWritten_of_mem_encode {pairs : List (String × String)} {c : Char}
    (h : c ∈ (encode pairs).toList) : IsWritten c := by
  rw [encode, String.toList_ofList] at h
  induction pairs with
  | nil => exact absurd h List.not_mem_nil
  | cons pair rest ih =>
      cases rest with
      | nil =>
          rw [List.map_singleton, List.intercalate_singleton] at h
          exact isWritten_of_mem_encodePair h
      | cons next rest =>
          rw [List.map_cons, List.map_cons, List.intercalate_cons_cons, List.mem_append,
            List.mem_append] at h
          rcases h with (hpair | hsign) | hrest
          · exact isWritten_of_mem_encodePair hpair
          · rw [List.mem_singleton.mp hsign]
            exact .inr (by decide)
          · exact ih hrest

/-- What is written is visible in a URL and stands for itself there. -/
structure StandsAlone (c : Char) : Prop where
  ascii : c.toNat < 0x80
  visible : Url.IsVisible c
  inQuery : Percent.inQuery c = false
  inFragment : Percent.inFragment c = false
  unmarked : c ≠ '?' ∧ c ≠ '#' ∧ c ≠ '\''

theorem IsWritten.standsAlone {c : Char} (h : IsWritten c) : StandsAlone c := by
  have hascii : c.toNat < 0x80 := by
    rcases h with hplain | hsign
    · rw [plain, Bool.or_eq_true, List.contains_iff_mem] at hplain
      rcases hplain with halnum | hmem
      · delta Char.isAlphanum Char.isAlpha Char.isUpper Char.isLower Char.isDigit at halnum
        simp only [Bool.or_eq_true, Bool.and_eq_true, decide_eq_true_eq,
          UInt32.le_iff_toNat_le] at halnum
        change ((65 ≤ c.toNat ∧ c.toNat ≤ 90) ∨ (97 ≤ c.toNat ∧ c.toNat ≤ 122)) ∨
          (48 ≤ c.toNat ∧ c.toNat ≤ 57) at halnum
        omega
      · have hsigns : ("*-._".toList.all fun d => d.toNat < 0x80) = true := by decide
        simpa using List.all_eq_true.mp hsigns c hmem
    · have hsigns : (['+', '%', '=', '&'].all fun d => d.toNat < 0x80) = true := by decide
      simpa using List.all_eq_true.mp hsigns c hsign
  have all : ∀ n < 0x80, IsWritten (Char.ofNat n) →
      0x20 < (Char.ofNat n).toNat ∧ Percent.inQuery (Char.ofNat n) = false ∧
        Percent.inFragment (Char.ofNat n) = false ∧
        Char.ofNat n ≠ '?' ∧ Char.ofNat n ≠ '#' ∧ Char.ofNat n ≠ '\'' := by
    unfold IsWritten
    decide +kernel
  have hc := all c.toNat hascii
  rw [Char.ofNat_toNat] at hc
  obtain ⟨hvisible, hquery, hfragment, hmarks⟩ := hc h
  exact ⟨hascii, hvisible, hquery, hfragment, hmarks⟩

end BillingAccess.Form

namespace BillingAccess.Url

open BillingAccess.Form

theorem encode_of_unescaped {escaped : Char → Bool} {text : List Char}
    (h : ∀ c ∈ text, c.toNat < 0x80 ∧ escaped c = false) : Percent.encode escaped text = text := by
  induction text with
  | nil => rfl
  | cons c rest ih =>
      rw [List.forall_mem_cons] at h
      have hrest := ih h.2
      rw [Percent.encode] at hrest
      rw [Percent.encode, List.flatMap_cons, hrest, Percent.encodeChar, if_pos]
      · rfl
      · rw [Bool.and_eq_true, decide_eq_true_eq, Bool.not_eq_true']
        exact h.1

theorem queryOf_encode (scheme : String) (pairs : List (String × String)) :
    queryOf scheme (encode pairs).toList = encode pairs := by
  rw [queryOf, encode_of_unescaped, String.ofList_toList]
  intro c hc
  have halone := (isWritten_of_mem_encode hc).standsAlone
  rw [Bool.or_eq_false_iff, Bool.and_eq_false_iff, beq_eq_false_iff_ne]
  exact ⟨halone.ascii, halone.inQuery, .inr halone.unmarked.2.2⟩

theorem fragmentOf_encode (pairs : List (String × String)) :
    fragmentOf (encode pairs).toList = encode pairs := by
  rw [fragmentOf, encode_of_unescaped, String.ofList_toList]
  intro c hc
  have halone := (isWritten_of_mem_encode hc).standsAlone
  exact ⟨halone.ascii, halone.inFragment⟩

/-- Pairs are written in the query of a URL, and pairs in its fragment.  A part
that is not there says as much as one without pairs. -/
structure Bears (url : Url) (query fragment : List (String × String)) : Prop where
  query : url.query.getD "" = encode query
  fragment : url.fragment.getD "" = encode fragment

/-- What is written behind an address: a mark with pairs, or nothing for none. -/
inductive Behind (mark : Char) : List (String × String) → List Char → Prop
  | pairs (pairs : List (String × String)) : Behind mark pairs (mark :: (encode pairs).toList)
  | nothing : Behind mark [] []

variable {mark : Char} {pairs : List (String × String)} {front tail : List Char}

theorem Behind.cases_mem (h : Behind mark pairs tail) {c : Char} (hc : c ∈ tail) :
    c = mark ∨ StandsAlone c := by
  cases h with
  | pairs =>
      exact (List.mem_cons.mp hc).imp_right fun hmem => (isWritten_of_mem_encode hmem).standsAlone
  | nothing => exact absurd hc List.not_mem_nil

theorem Behind.visible (h : Behind mark pairs tail) (hmark : IsVisible mark) :
    ∀ c ∈ tail, IsVisible c := by
  intro c hc
  rcases h.cases_mem hc with rfl | halone
  · exact hmark
  · exact halone.visible

/-- A text is cut where the pairs were put behind it. -/
theorem Behind.cutAt_append (h : Behind mark pairs tail) (hfront : mark ∉ front) :
    (cutAt mark (front ++ tail)).1 = front ∧
      (cutAt mark (front ++ tail)).2.getD [] = (encode pairs).toList := by
  cases h with
  | pairs =>
      rw [cutAt_append_cons hfront]
      exact ⟨rfl, rfl⟩
  | nothing =>
      rw [List.append_nil, cutAt_of_not_mem hfront]
      exact ⟨rfl, rfl⟩

section

variable {address queryText fragmentText : List Char} {query fragment : List (String × String)}

/-- What is dropped around an address leaves the pairs behind it alone. -/
theorem exists_cleaned_behind (haddress : Unmarked address) (hquery : Behind '?' query queryText)
    (hfragment : Behind '#' fragment fragmentText) :
    ∃ front, Unmarked front ∧
      cleaned (address ++ queryText ++ fragmentText) = front ++ queryText ++ fragmentText := by
  have hvisible : ∀ c ∈ queryText ++ fragmentText, IsVisible c := fun c hc =>
    (List.mem_append.mp hc).elim (hquery.visible (by decide) c) (hfragment.visible (by decide) c)
  by_cases hnil : queryText ++ fragmentText = []
  · obtain ⟨rfl, rfl⟩ := List.append_eq_nil_iff.mp hnil
    refine ⟨cleaned address, ?_, by simp⟩
    exact ⟨fun h => haddress.1 ((mem_cleaned_iff (.inl rfl) _).mp h),
      fun h => haddress.2 ((mem_cleaned_iff (.inr rfl) _).mp h)⟩
  · refine ⟨cleanStart address, ?_, ?_⟩
    · have hsub {c : Char} (hc : c ∈ cleanStart address) : c ∈ address :=
        (List.dropWhile_suffix _).mem (List.mem_of_mem_filter hc)
      exact ⟨fun h => haddress.1 (hsub h), fun h => haddress.2 (hsub h)⟩
    · rw [List.append_assoc, cleaned_append address hvisible hnil, List.append_assoc]

/-- The parts of a reference are what was written behind its address. -/
theorem ofText_behind (haddress : Unmarked address) (hquery : Behind '?' query queryText)
    (hfragment : Behind '#' fragment fragmentText) :
    (Reference.ofText (address ++ queryText ++ fragmentText)).query.getD [] =
        (encode query).toList ∧
      (Reference.ofText (address ++ queryText ++ fragmentText)).fragment.getD [] =
        (encode fragment).toList := by
  obtain ⟨front, hfront, hcleaned⟩ := exists_cleaned_behind haddress hquery hfragment
  have hnumber : '#' ∉ front ++ queryText := by
    rw [List.mem_append, not_or]
    refine ⟨hfront.2, fun h => ?_⟩
    rcases hquery.cases_mem h with hsame | halone
    · exact absurd hsame (by decide)
    · exact halone.unmarked.2.1 rfl
  obtain ⟨hbefore, hbehind⟩ := hfragment.cutAt_append hnumber
  rw [ofText_eq, hcleaned, hbefore, hbehind]
  exact ⟨(hquery.cutAt_append hfront.1).2, rfl⟩

/-- The URL of an address says what was written behind it. -/
theorem bears_parse (haddress : Unmarked address) (hquery : Behind '?' query queryText)
    (hfragment : Behind '#' fragment fragmentText) {url : Url}
    (h : parse (String.ofList (address ++ queryText ++ fragmentText)) = .ok url) :
    url.Bears query fragment := by
  obtain ⟨hends, hends'⟩ := ends_parse _ url h
  rw [String.toList_ofList] at hends hends'
  obtain ⟨hread, hread'⟩ := ofText_behind haddress hquery hfragment
  have hempty : queryOf url.scheme [] = "" := rfl
  have hempty' : fragmentOf [] = "" := rfl
  constructor
  · rw [hends, ← hempty, Option.getD_map, hread, queryOf_encode]
  · rw [hends', ← hempty', Option.getD_map, hread', fragmentOf_encode]

end

end BillingAccess.Url
