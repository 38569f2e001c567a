/-
Pairs are read back from the text that they are written as.

A name and its value are written without `&` and `=`, so the text is split
where it was joined.  Within a name or a value a plus is a space that was
written: a plus of its own is percent-encoded.
-/
import BillingAccess.Proofs.Url.Percent
import BillingAccess.Url.Form

namespace BillingAccess.Form

/-- How a character is written. -/
def encodeChar (c : Char) : List Char :=
  if c = ' ' then ['+'] else Percent.encodeChar (fun c => !plain c) c

/-- How a character is taken before escapes are resolved. -/
def unplus (c : Char) : Char :=
  if c = '+' then ' ' else c

/-- A character stands for a space or for itself, or its bytes are escaped. -/
theorem encodeChar_cases (c : Char) :
    (c = ' ' ∧ encodeChar c = ['+']) ∨ (plain c = true ∧ encodeChar c = [c]) ∨
      encodeChar c = (Utf8.encodeChar c).flatMap Percent.encodeByte := by
  rw [encodeChar]
  by_cases hspace : c = ' '
  · rw [if_pos hspace]
    exact Or.inl ⟨hspace, rfl⟩
  · rw [if_neg hspace]
    rcases Percent.encodeChar_cases (fun c => !plain c) c with ⟨hplain, hwritten⟩ | hwritten
    · rw [Bool.not_eq_false'] at hplain
      exact Or.inr (Or.inl ⟨hplain, hwritten⟩)
    · exact Or.inr (Or.inr hwritten)

theorem plain_digit {n : Nat} (h : n < 16) : plain (Hex.digit n) = true := by
  have all : ∀ m ∈ List.range 16, plain (Hex.digit m) = true := by decide
  exact all n (List.mem_range.mpr h)

theorem mem_encodeChar {c d : Char} (h : d ∈ encodeChar c) :
    d = '+' ∨ d = '%' ∨ plain d = true := by
  rcases encodeChar_cases c with ⟨-, hwritten⟩ | ⟨hplain, hwritten⟩ | hwritten <;>
    rw [hwritten] at h
  · exact Or.inl (List.mem_singleton.mp h)
  · rw [List.mem_singleton.mp h]
    exact Or.inr (Or.inr hplain)
  · rcases Percent.mem_encodeBytes h with rfl | ⟨n, hn, rfl⟩
    · exact Or.inr (Or.inl rfl)
    · exact Or.inr (Or.inr (plain_digit hn))

theorem unplus_of_plain {c : Char} (h : plain c = true) : unplus c = c := by
  rw [unplus, if_neg]
  rintro rfl
  revert h
  decide

theorem map_unplus_encodeBytes (bytes : List UInt8) :
    (bytes.flatMap Percent.encodeByte).map unplus = bytes.flatMap Percent.encodeByte := by
  have hsame : ∀ d ∈ bytes.flatMap Percent.encodeByte, unplus d = d := by
    intro d hd
    rcases Percent.mem_encodeBytes hd with rfl | ⟨n, hn, rfl⟩
    · decide
    · exact unplus_of_plain (plain_digit hn)
  rw [List.map_congr_left hsame, List.map_id']

theorem decode_encodeChar (c : Char) (rest : List Char) :
    Percent.decode ((encodeChar c).map unplus ++ rest) =
      Utf8.encodeChar c ++ Percent.decode rest := by
  rcases encodeChar_cases c with ⟨rfl, hwritten⟩ | ⟨hplain, hwritten⟩ | hwritten <;> rw [hwritten]
  · exact Percent.decode_cons (by decide) rest
  · rw [List.map_singleton, unplus_of_plain hplain]
    apply Percent.decode_cons
    rintro rfl
    revert hplain
    decide
  · rw [map_unplus_encodeBytes, Percent.decode_encodeBytes]

theorem encodeText_eq (text : List Char) : encodeText text = text.flatMap encodeChar :=
  rfl

theorem percentDecode_encodeText (text : List Char) :
    Percent.decode ((encodeText text).map unplus) = Utf8.encode text := by
  induction text with
  | nil => rfl
  | cons c rest ih =>
      rw [encodeText_eq] at ih ⊢
      rw [List.flatMap_cons, List.map_append, decode_encodeChar, ih]
      rfl

/-- A text is read back from what is written for it. -/
theorem decodeText_encodeText (text : List Char) :
    decodeText (encodeText text) = String.ofList text := by
  have hbytes : Percent.decode ((encodeText text).map unplus) = Utf8.encode text :=
    percentDecode_encodeText text
  change Utf8.toStringLossy (Percent.decode ((encodeText text).map unplus)) = _
  rw [hbytes, Utf8.toStringLossy, Utf8.decodeLossy_encode]

theorem not_mem_encodeText {text : List Char} {separator : Char}
    (h : separator ≠ '+' ∧ separator ≠ '%' ∧ plain separator = false) :
    separator ∉ encodeText text := by
  intro hmem
  obtain ⟨c, -, hd⟩ := List.mem_flatMap.mp hmem
  rcases mem_encodeChar hd with hplus | hpercent | hplain
  · exact h.1 hplus
  · exact h.2.1 hpercent
  · rw [h.2.2] at hplain
    contradiction

theorem decodePair_encodePair (pair : String × String) :
    decodePair (encodePair pair) = pair := by
  have hname : ∀ c ∈ encodeText pair.1.toList, (c != '=') = true := by
    intro c hc
    rw [bne_iff_ne]
    rintro rfl
    exact not_mem_encodeText (by decide) hc
  rw [decodePair, encodePair, List.takeWhile_append_of_pos hname,
    List.dropWhile_append_of_pos hname, List.takeWhile_cons, List.dropWhile_cons]
  simp [decodeText_encodeText]

theorem encodePair_ne_nil (pair : String × String) : encodePair pair ≠ [] := by
  rw [encodePair]
  simp

theorem ampersand_not_mem_encodePair (pair : String × String) : '&' ∉ encodePair pair := by
  rw [encodePair, List.mem_append, List.mem_cons, not_or, not_or]
  exact ⟨not_mem_encodeText (by decide), by decide, not_mem_encodeText (by decide)⟩

/-- The pieces of a written text are the pairs that were written. -/
theorem pieces_encode (pairs : List (String × String)) :
    ((encode pairs).toList.splitOn '&').filter (· ≠ []) = pairs.map encodePair := by
  rw [encode, String.toList_ofList]
  cases pairs with
  | nil => rfl
  | cons pair rest =>
      have hapart : ∀ piece ∈ (pair :: rest).map encodePair, '&' ∉ piece := by
        intro piece hpiece
        obtain ⟨written, -, rfl⟩ := List.mem_map.mp hpiece
        exact ampersand_not_mem_encodePair written
      rw [List.splitOn_intercalate '&' hapart (List.cons_ne_nil _ _), List.filter_eq_self]
      intro piece hpiece
      obtain ⟨written, -, rfl⟩ := List.mem_map.mp hpiece
      exact decide_eq_true (encodePair_ne_nil written)

/-- Pairs are read back from what is written for them, whatever they hold. -/
theorem decode_encode (pairs : List (String × String)) : decode (encode pairs) = pairs := by
  rw [decode, pieces_encode, List.map_map]
  exact List.map_id'' (fun pair => decodePair_encodePair pair) pairs

end BillingAccess.Form
