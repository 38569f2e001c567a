/-
Texts are read back from their quoted form, whatever characters they hold.
-/
import BillingAccess.Json.Printer
import BillingAccess.Json.Reader
import Mathlib.Tactic.SplitIfs

namespace BillingAccess.Json

theorem value?_hexChar {n : Nat} (h : n < 16) : Hex.value? (hexChar n) = some n := by
  have all : ∀ m ∈ List.range 16, Hex.value? (hexChar m) = some m := by decide
  exact all n (List.mem_range.mpr h)

/-- A piece is joined as one character. -/
def Piece.Spells (piece : Piece) (c : Char) : Prop :=
  ∀ ending pieces, joinPieces ending (piece :: pieces) = (joinPieces ending pieces).map (c :: ·)

theorem Piece.char_spells (c : Char) : (Piece.char c).Spells c := by
  intro ending pieces
  rw [joinPieces]

theorem Piece.unit_spells {c : Char} (h : c.toNat < 0xD800) : (Piece.unit c.toNat).Spells c := by
  intro ending pieces
  rw [joinPieces.eq_def]
  simp only [if_pos (Or.inl h), Char.ofNat_toNat]

theorem lexText_control {n : Nat} (h : n < 0x20) (rest : List Char) :
    lexText ('\\' :: 'u' :: '0' :: '0' :: hexChar (n / 16) :: hexChar (n % 16) :: rest) =
      (.unit n :: (lexText rest).1, (lexText rest).2) := by
  have hunit : hexUnit? '0' '0' (hexChar (n / 16)) (hexChar (n % 16)) = some n := by
    have hzero : Hex.value? '0' = some 0 := by decide
    simp only [hexUnit?, hzero, value?_hexChar (show n / 16 < 16 by omega),
      value?_hexChar (show n % 16 < 16 by omega), Option.bind_eq_bind, Option.bind_some]
    simp
    omega
  rw [lexText, hunit]

theorem lexText_plain {c : Char} (hquote : c ≠ '"') (hback : c ≠ '\\') (h : ¬ c.toNat < 0x20)
    (rest : List Char) :
    lexText (c :: rest) = (.char c :: (lexText rest).1, (lexText rest).2) := by
  rw [lexText]
  · rw [if_neg h]
  all_goals simp_all

/-- An escaped character is taken off the text as one piece. -/
theorem lexText_escapeChar (c : Char) (rest : List Char) :
    ∃ piece, piece.Spells c ∧
      lexText (escapeChar c ++ rest) = (piece :: (lexText rest).1, (lexText rest).2) := by
  rw [escapeChar]
  split_ifs with hquote hback hnew hreturn htab hbackspace hfeed hcontrol
  · exact ⟨.char c, Piece.char_spells c, by rw [hquote]; rfl⟩
  · exact ⟨.char c, Piece.char_spells c, by rw [hback]; rfl⟩
  · exact ⟨.char c, Piece.char_spells c, by rw [hnew]; rfl⟩
  · exact ⟨.char c, Piece.char_spells c, by rw [hreturn]; rfl⟩
  · exact ⟨.char c, Piece.char_spells c, by rw [htab]; rfl⟩
  · have hc : c = Char.ofNat 8 := by rw [← hbackspace, Char.ofNat_toNat]
    exact ⟨.char c, Piece.char_spells c, by rw [hc]; rfl⟩
  · have hc : c = Char.ofNat 12 := by rw [← hfeed, Char.ofNat_toNat]
    exact ⟨.char c, Piece.char_spells c, by rw [hc]; rfl⟩
  · exact ⟨.unit c.toNat, Piece.unit_spells (by omega), lexText_control hcontrol rest⟩
  · exact ⟨.char c, Piece.char_spells c, lexText_plain hquote hback hcontrol rest⟩

/-- The escaped characters end at the quote that follows them. -/
theorem lexText_escaped (text rest : List Char) :
    ∃ pieces, lexText (text.flatMap escapeChar ++ '"' :: rest) = (pieces, .ok rest) ∧
      joinPieces none pieces = .ok text := by
  induction text with
  | nil => exact ⟨[], rfl, rfl⟩
  | cons c text ih =>
      obtain ⟨pieces, hpieces, hjoin⟩ := ih
      obtain ⟨piece, hspells, hpiece⟩ := lexText_escapeChar c
        (text.flatMap escapeChar ++ '"' :: rest)
      refine ⟨piece :: pieces, ?_, ?_⟩
      · rw [List.flatMap_cons, List.append_assoc, hpiece, hpieces]
      · rw [hspells, hjoin]
        rfl

/-- A text is read back from its quoted form. -/
theorem readText_quoted (s : String) (rest : List Char) :
    readText (s.toList.flatMap escapeChar ++ '"' :: rest) = (.ok s, .ok rest) := by
  obtain ⟨pieces, hpieces, hjoin⟩ := lexText_escaped s.toList rest
  rw [readText, hpieces]
  simp only [hjoin, Except.map, String.ofList_toList]

end BillingAccess.Json
