/-
Texts without the run of one character at their end.

A text is what is left of it with the run put back, and only the run is cut off.
-/
import BillingAccess.Text.Blank
import Mathlib.Data.List.DropRight

namespace BillingAccess.Text

/-- Only what is added at the end is cut off. -/
theorem trimEndBy_append_replicate {c : Char} {text : List Char} (h : c ∉ text) (n : Nat) :
    trimEndBy (· == c) (text ++ List.replicate n c) = text := by
  induction n with
  | zero =>
      rw [List.replicate_zero, List.append_nil]
      apply List.rdropWhile_eq_self_iff.mpr
      intro hne hlast
      exact h (beq_iff_eq.mp hlast ▸ List.getLast_mem hne)
  | succ n ih =>
      rw [List.replicate_succ', ← List.append_assoc]
      exact (List.rdropWhile_concat_pos (· == c) _ c (beq_self_eq_true c)).trans ih

theorem exists_trimEndBy (c : Char) (text : List Char) :
    ∃ n, text = trimEndBy (· == c) text ++ List.replicate n c := by
  have hsame := List.eq_replicate_of_mem (l := text.rtakeWhile (· == c)) (a := c) fun d hd =>
    beq_iff_eq.mp (List.mem_rtakeWhile_imp (p := (· == c)) hd)
  refine ⟨(text.rtakeWhile (· == c)).length, ?_⟩
  rw [← hsame]
  exact List.rdropWhile_append_rtakeWhile.symm

theorem mem_of_mem_trimEndBy {p : Char → Bool} {c : Char} {text : List Char}
    (h : c ∈ trimEndBy p text) : c ∈ text :=
  (List.rdropWhile_prefix p text).subset h

end BillingAccess.Text
