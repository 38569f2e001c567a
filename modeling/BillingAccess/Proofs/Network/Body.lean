/-
Bodies that spell a text.

A text is read from a body in each encoding that a mark at its start names, and
without a mark in UTF-8, unless its own first character is the mark.
-/
import BillingAccess.Network.Message
import BillingAccess.Proofs.Text.Utf16

namespace BillingAccess

/-- The encodings that a mark can name. -/
inductive Encoding
  | utf8
  | utf16 (order : Utf16.Order)
deriving Repr, DecidableEq

/-- What a byte order mark is as a character. -/
def orderMark : Char := Char.ofNat 0xFEFF

/-- A text with a mark in front. -/
def Encoding.write (encoding : Encoding) (text : List Char) : List UInt8 :=
  match encoding with
  | .utf8 => Utf8.encode (orderMark :: text)
  | .utf16 order => Utf16.encode order (orderMark :: text)

/-- A body with a mark is read in the encoding that the mark names. -/
theorem bodyText_write (encoding : Encoding) (text : String) :
    bodyText (encoding.write text.toList) = text := by
  cases encoding with
  | utf8 =>
      have hread : bodyText (Encoding.utf8.write text.toList) =
          Utf8.toStringLossy (Utf8.encode text.toList) := rfl
      rw [hread, Utf8.toStringLossy, Utf8.decodeLossy_encode, String.ofList_toList]
  | utf16 order =>
      have hread : bodyText ((Encoding.utf16 order).write text.toList) =
          Utf16.toStringLossy order (Utf16.encode order text.toList) := by
        cases order <;> rfl
      rw [hread, Utf16.toStringLossy, Utf16.decodeLossy_encode, String.ofList_toList]

/-- A body without a mark is read in UTF-8. -/
theorem bodyText_ofString {text : String} (h : text.toList.head? ≠ some orderMark) :
    bodyText (Utf8.ofString text) = text := by
  have hlossy : Utf8.toStringLossy (Utf8.ofString text) = text := by
    rw [Utf8.toStringLossy, Utf8.ofString, Utf8.decodeLossy_encode, String.ofList_toList]
  cases htext : text.toList with
  | nil =>
      have hnil : Utf8.ofString text = [] := by
        rw [Utf8.ofString, htext]
        rfl
      rw [hnil] at hlossy ⊢
      exact hlossy
  | cons c rest =>
      obtain ⟨b, more, hbytes, hscan⟩ := Utf8.exists_scan_encodeChar c (Utf8.encode rest)
      have hencode : Utf8.ofString text = b :: (more ++ Utf8.encode rest) := by
        rw [Utf8.ofString, htext, Utf8.encode, List.flatMap_cons, hbytes, List.cons_append,
          ← Utf8.encode]
      rw [hencode] at hlossy ⊢
      -- Each mark would be the first character, or is the start of none.
      unfold bodyText
      split
      case h_1 after hmark =>
        rw [List.cons.injEq] at hmark
        obtain ⟨rfl, hmore⟩ := hmark
        rw [hmore] at hscan
        have hfirst : some orderMark = some c := congrArg Prod.snd hscan
        rw [htext, List.head?_cons, ← hfirst] at h
        exact absurd rfl h
      case h_2 after hmark =>
        rw [List.cons.injEq] at hmark
        obtain ⟨rfl, -⟩ := hmark
        have hbroken : none = some c := congrArg Prod.snd hscan
        cases hbroken
      case h_3 after hmark =>
        rw [List.cons.injEq] at hmark
        obtain ⟨rfl, -⟩ := hmark
        have hbroken : none = some c := congrArg Prod.snd hscan
        cases hbroken
      case h_4 => exact hlossy

end BillingAccess
