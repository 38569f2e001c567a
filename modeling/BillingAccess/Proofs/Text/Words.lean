/-
The words of a text.
-/
import BillingAccess.Text.Blank
import Mathlib.Data.List.SplitBy
import Mathlib.Data.List.TakeWhile

namespace BillingAccess.Text

/-- A word is not empty and has no blank in it. -/
structure IsWord (word : List Char) : Prop where
  filled : word ≠ []
  solid : ∀ c ∈ word, isBlank c = false

/-- The text consists of these words, with blanks between them and perhaps
around them. -/
inductive HasWords : List Char → List (List Char) → Prop
  | blank {text : List Char} (hblank : ∀ c ∈ text, isBlank c = true) : HasWords text []
  | word {lead word rest : List Char} {words : List (List Char)}
      (hlead : ∀ c ∈ lead, isBlank c = true) (hword : IsWord word)
      (hstop : ∀ c ∈ rest.head?, isBlank c = true) (hrest : HasWords rest words) :
      HasWords (lead ++ word ++ rest) (word :: words)

/-- A run of blanks or of other characters is one piece of a text. -/
theorem words_of_run {text : List Char} {kind : Bool} (hfilled : text ≠ [])
    (h : ∀ c ∈ text, isBlank c = kind) : words text = if kind then [] else [text] := by
  have hchain : text.IsChain fun a b => (isBlank a == isBlank b) = true := by
    apply List.Pairwise.isChain
    refine List.pairwise_of_forall_mem_list fun a ha b hb => ?_
    rw [h a ha, h b hb, beq_self_eq_true]
  obtain ⟨c, rest, rfl⟩ := List.exists_cons_of_ne_nil hfilled
  have hc := h c List.mem_cons_self
  rw [words, List.splitBy_of_isChain hfilled hchain]
  cases kind <;> simp [hc]

theorem words_of_blank {text : List Char} (h : ∀ c ∈ text, isBlank c = true) : words text = [] := by
  by_cases hfilled : text = []
  · rw [hfilled]
    rfl
  · exact words_of_run hfilled h

theorem words_of_word {word : List Char} (h : IsWord word) : words word = [word] :=
  words_of_run h.filled h.solid

/-- Where a blank and another character meet, a text can be cut. -/
theorem words_append {front rest : List Char}
    (h : ∀ a ∈ front.getLast?, ∀ b ∈ rest.head?, isBlank a ≠ isBlank b) :
    words (front ++ rest) = words front ++ words rest := by
  rw [words, List.splitBy_append, List.filter_append, ← words, ← words]
  intro a ha b hb
  exact beq_eq_false_iff_ne.mpr (h a ha b hb)

theorem HasWords.words_eq {text : List Char} {found : List (List Char)} (h : HasWords text found) :
    words text = found := by
  induction h with
  | blank hblank => exact words_of_blank hblank
  | @word lead word rest _ hlead hword hstop hrest ih =>
      have hfront : words (lead ++ word) = words lead ++ words word := by
        refine words_append fun a ha b hb => ?_
        rw [hlead a (List.mem_of_getLast? ha), hword.solid b (List.mem_of_mem_head? hb)]
        exact Bool.noConfusion
      have hcut : words (lead ++ word ++ rest) = words (lead ++ word) ++ words rest := by
        refine words_append fun a ha b hb => ?_
        rw [List.getLast?_append_of_ne_nil _ hword.filled] at ha
        rw [hword.solid a (List.mem_of_getLast? ha), hstop b hb]
        exact Bool.noConfusion
      rw [hcut, hfront, words_of_blank hlead, words_of_word hword, ih]
      rfl

theorem exists_hasWords (text : List Char) : ∃ found, HasWords text found := by
  induction hlength : text.length using Nat.strong_induction_on generalizing text with
  | _ n ih =>
      cases hsolid : text.dropWhile isBlank with
      | nil => exact ⟨[], .blank (List.dropWhile_eq_nil_iff.mp hsolid)⟩
      | cons c more =>
          have htext : text = text.takeWhile isBlank ++ (c :: more.takeWhile (!isBlank ·)) ++
              more.dropWhile (!isBlank ·) := by
            rw [List.append_assoc, List.cons_append, List.takeWhile_append_dropWhile, ← hsolid,
              List.takeWhile_append_dropWhile]
          have hc : isBlank c = false := by
            have hhead := List.head?_dropWhile_not isBlank text
            rwa [hsolid] at hhead
          have hword : IsWord (c :: more.takeWhile (!isBlank ·)) := by
            refine ⟨List.cons_ne_nil _ _, ?_⟩
            rw [List.forall_mem_cons]
            exact ⟨hc, fun d hd => by simpa using List.mem_takeWhile_imp hd⟩
          have hstop : ∀ d ∈ (more.dropWhile (!isBlank ·)).head?, isBlank d = true := by
            intro d hd
            have hhead := List.head?_dropWhile_not (!isBlank ·) more
            rw [Option.mem_def.mp hd] at hhead
            simpa using hhead
          have hshorter : (more.dropWhile (!isBlank ·)).length < n := by
            rw [← hlength, htext]
            simp only [List.length_append, List.length_cons]
            omega
          obtain ⟨found, hfound⟩ := ih _ hshorter _ rfl
          have hlead : ∀ d ∈ text.takeWhile isBlank, isBlank d = true :=
            fun d hd => List.mem_takeWhile_imp hd
          have hwords := HasWords.word hlead hword hstop hfound
          rw [← htext] at hwords
          exact ⟨_, hwords⟩

theorem words_eq_iff {text : List Char} {found : List (List Char)} :
    words text = found ↔ HasWords text found := by
  constructor
  · rintro rfl
    obtain ⟨found, h⟩ := exists_hasWords text
    rwa [h.words_eq]
  · exact HasWords.words_eq

end BillingAccess.Text
