/-
Quoted texts and numerals are taken off whatever follows them.

A reader that stops within a text has taken the characters up to there, and it
takes the same characters off any other text that they stand in front of.  Only
numerals ask what comes next, and then for no more than one character.
-/
import BillingAccess.Proofs.Json.Numeral
import BillingAccess.Proofs.Json.Quoted

namespace BillingAccess.Json

open BillingAccess.Decimal

/-- After the same text may come `rest` in place of `after`: it starts as that
does, or with what is no part of a numeral. -/
def MayFollow (after rest : List Char) : Prop :=
  rest.head? = after.head? ∨ EndsNumeral rest

theorem MayFollow.append {after rest : List Char} (h : MayFollow after rest)
    (used : List Char) : MayFollow (used ++ after) (used ++ rest) := by
  cases used with
  | nil => exact h
  | cons c used => exact Or.inl rfl

/-- What starts the text that may follow starts the text that follows, or is no
part of a numeral. -/
theorem MayFollow.head {after rest : List Char} (h : MayFollow after rest) {p : Char → Prop}
    (hafter : ∀ c ∈ after.head?, p c)
    (hends : ∀ c, digit? c = none ∧ c ≠ '.' ∧ c ≠ 'e' ∧ c ≠ 'E' → p c) :
    ∀ c ∈ rest.head?, p c := by
  intro c hc
  rcases h with hsame | hnumeral
  · exact hafter c (hsame ▸ hc)
  · exact hends c (hnumeral c hc)

theorem exists_blanks (text : List Char) :
    ∃ blanks, text = blanks ++ skipSpace text ∧
      ∀ rest, skipSpace (blanks ++ rest) = skipSpace rest := by
  induction text with
  | nil => exact ⟨[], rfl, fun _ => rfl⟩
  | cons c text ih =>
      by_cases hc : isSpace c = true
      · obtain ⟨blanks, htext, hskip⟩ := ih
        refine ⟨c :: blanks, ?_, fun rest => ?_⟩
        · rw [skipSpace, List.dropWhile_cons_of_pos hc, List.cons_append]
          exact congrArg (c :: ·) htext
        · rw [List.cons_append, skipSpace, List.dropWhile_cons_of_pos hc]
          exact hskip rest
      · refine ⟨[], ?_, fun _ => rfl⟩
        rw [skipSpace, List.dropWhile_cons_of_neg hc]
        rfl

theorem skipSpace_blanks {blanks : List Char} (h : skipSpace blanks = []) (rest : List Char) :
    skipSpace (blanks ++ rest) = skipSpace rest := by
  obtain ⟨taken, htaken, hskip⟩ := exists_blanks blanks
  rw [h, List.append_nil] at htaken
  rw [htaken, hskip]

/-- A text that starts with some character, after blanks. -/
theorem exists_blanks_of_cons {text rest : List Char} {c : Char} (h : skipSpace text = c :: rest) :
    ∃ blanks, text = blanks ++ c :: rest ∧ skipSpace blanks = [] ∧
      ∀ other, skipSpace (blanks ++ c :: other) = c :: other := by
  have hc : isSpace c = false := by
    have hhead := List.head?_dropWhile_not isSpace text
    rw [show text.dropWhile isSpace = c :: rest from h] at hhead
    simpa using hhead
  obtain ⟨blanks, htext, hskip⟩ := exists_blanks text
  have hblanks : skipSpace blanks = [] := by
    have hnil := hskip []
    rwa [List.append_nil] at hnil
  rw [h] at htext
  refine ⟨blanks, htext, hblanks, fun other => ?_⟩
  rw [hskip, skipSpace, List.dropWhile_cons_of_neg (by simp [hc])]

theorem lexText_unit {a b c d : Char} {n : Nat} (h : hexUnit? a b c d = some n)
    (rest : List Char) :
    lexText ('\\' :: 'u' :: a :: b :: c :: d :: rest) =
      (.unit n :: (lexText rest).1, (lexText rest).2) := by
  rw [lexText, h]

theorem lexText_short {e c : Char} (hunit : e ≠ 'u') (h : shortEscape? e = some c)
    (rest : List Char) :
    lexText ('\\' :: e :: rest) = (.char c :: (lexText rest).1, (lexText rest).2) := by
  rw [lexText]
  · rw [h]
  all_goals simp_all

/-- Up to its closing quote, a text is taken off whatever follows. -/
def LexTakes (text : List Char) : Prop :=
  ∀ pieces after, lexText text = (pieces, .ok after) →
    ∃ used, text = used ++ after ∧ ∀ rest, lexText (used ++ rest) = (pieces, .ok rest)

/-- The characters of one piece are taken with those after them. -/
theorem LexTakes.step {front text : List Char} {piece : Piece}
    (hfront : ∀ rest, lexText (front ++ rest) = (piece :: (lexText rest).1, (lexText rest).2))
    (h : LexTakes text) : LexTakes (front ++ text) := by
  intro pieces after hlex
  rw [hfront, Prod.mk.injEq] at hlex
  obtain ⟨rfl, hafter⟩ := hlex
  obtain ⟨used, htext, hused⟩ := h _ _ (Prod.ext rfl hafter)
  refine ⟨front ++ used, ?_, fun rest => ?_⟩
  · rw [List.append_assoc, ← htext]
  · rw [List.append_assoc, hfront, hused]

theorem lexText_takes (text : List Char) : LexTakes text := by
  intro pieces after h
  fun_induction lexText text generalizing pieces after with
  | case2 rest =>
      obtain ⟨rfl, hafter⟩ := Prod.mk.inj h
      cases hafter
      exact ⟨['"'], rfl, fun _ => rfl⟩
  | case3 a b c d rest n hunit pieces after hrest ih =>
      have hfront : ∀ rest, lexText (['\\', 'u', a, b, c, d] ++ rest) = _ := lexText_unit hunit
      exact LexTakes.step hfront ih _ _
        ((hfront rest).trans (by rw [hrest]; exact h))
  | case6 e rest _ hu c hshort pieces after hrest ih =>
      have hfront : ∀ rest, lexText (['\\', e] ++ rest) = _ := lexText_short hu hshort
      exact LexTakes.step hfront ih _ _
        ((hfront rest).trans (by rw [hrest]; exact h))
  | case10 c rest hquote _ _ hescape hend hplain pieces after hrest ih =>
      have hback : c ≠ '\\' := by
        intro hc
        cases rest with
        | nil => exact hend hc rfl
        | cons e rest => exact hescape e rest hc rfl
      have hfront : ∀ rest, lexText ([c] ++ rest) = _ := lexText_plain hquote hback hplain
      exact LexTakes.step hfront ih _ _
        ((hfront rest).trans (by rw [hrest]; exact h))
  | _ => cases (Prod.mk.inj h).2

/-- What a quoted text spells does not depend on what follows it. -/
theorem readText_takes {text after : List Char} {result : Except Cause String}
    (h : readText text = (result, .ok after)) :
    ∃ used, text = used ++ after ∧ ∀ rest, readText (used ++ rest) = (result, .ok rest) := by
  rw [readText] at h
  rcases hlex : lexText text with ⟨pieces, ending⟩
  rw [hlex, Prod.mk.injEq] at h
  obtain ⟨rfl, rfl⟩ := h
  obtain ⟨used, htext, hused⟩ := lexText_takes text _ _ hlex
  refine ⟨used, htext, fun rest => ?_⟩
  rw [readText, hused]

/-- The digits at the start are taken off whatever may follow them. -/
theorem takeDigits_takes {text after : List Char} {digits : List Nat}
    (h : takeDigits text = (digits, after)) :
    ∃ used, text = used ++ after ∧ (used = [] → digits = []) ∧
      ∀ rest, MayFollow after rest → takeDigits (used ++ rest) = (digits, rest) := by
  have hnone {rest : List Char} (hrest : ∀ c ∈ rest.head?, digit? c = none) :
      takeDigits rest = ([], rest) := by
    cases rest with
    | nil => rfl
    | cons c rest => rw [takeDigits, hrest c rfl]
  suffices hall : (∀ c ∈ after.head?, digit? c = none) ∧ ∃ used, text = used ++ after ∧
      (used = [] → digits = []) ∧
      ∀ rest, (∀ c ∈ rest.head?, digit? c = none) → takeDigits (used ++ rest) = (digits, rest) by
    obtain ⟨hstops, used, htext, hempty, hused⟩ := hall
    exact ⟨used, htext, hempty, fun rest hrest => hused rest (hrest.head hstops fun _ hc => hc.1)⟩
  fun_induction takeDigits text generalizing digits after with
  | case1 =>
      obtain ⟨rfl, rfl⟩ := Prod.mk.inj h
      exact ⟨by simp, [], rfl, fun _ => rfl, fun rest hrest => hnone hrest⟩
  | case2 c text d hd ds after hds ih =>
      obtain ⟨rfl, rfl⟩ := Prod.mk.inj h
      obtain ⟨hstops, used, htext, -, hused⟩ := ih hds
      refine ⟨hstops, c :: used, by rw [htext, List.cons_append],
        fun hnil => absurd hnil (List.cons_ne_nil c used), fun rest hrest => ?_⟩
      rw [List.cons_append, takeDigits, hd]
      simp only [hused rest hrest]
  | case3 c text hc =>
      obtain ⟨rfl, rfl⟩ := Prod.mk.inj h
      exact ⟨fun d hd => Option.some.inj hd ▸ hc, [], rfl, fun _ => rfl,
        fun rest hrest => hnone hrest⟩

/-- The sign of an exponent. -/
def readSign : List Char → Bool × List Char
  | '+' :: rest => (false, rest)
  | '-' :: rest => (true, rest)
  | other => (false, other)

/-- An exponent of which the sign and the digits have been taken. -/
def powerOf (down : Bool) : List Nat × List Char → Except Flaw ((Bool × List Nat) × List Char)
  | ([], after) => .error (missingDigit after)
  | (digits, after) => .ok ((down, digits), after)

theorem readPower_eq (text : List Char) :
    readPower text =
      if (takeDigits (readSign text).2).1 = [] then
        .error (missingDigit (takeDigits (readSign text).2).2)
      else .ok (((readSign text).1, (takeDigits (readSign text).2).1),
        (takeDigits (readSign text).2).2) := by
  change powerOf (readSign text).1 (takeDigits (readSign text).2) = _
  rcases takeDigits (readSign text).2 with ⟨_ | ⟨d, digits⟩, after⟩ <;> rfl

/-- The sign is taken off a text that goes on as it did. -/
theorem readSign_takes (text : List Char) :
    ∃ sign, text = sign ++ (readSign text).2 ∧
      ∀ rest, rest.head? = (readSign text).2.head? →
        readSign (sign ++ rest) = ((readSign text).1, rest) := by
  fun_cases readSign text with
  | case1 rest => exact ⟨['+'], rfl, fun _ _ => rfl⟩
  | case2 rest => exact ⟨['-'], rfl, fun _ _ => rfl⟩
  | case3 other hplus hminus =>
      refine ⟨[], rfl, fun rest hrest => ?_⟩
      rw [List.nil_append]
      fun_cases readSign rest with
      | case1 rest =>
          obtain ⟨after, rfl⟩ := List.head?_eq_some_iff.mp hrest.symm
          exact absurd rfl (hplus after)
      | case2 rest =>
          obtain ⟨after, rfl⟩ := List.head?_eq_some_iff.mp hrest.symm
          exact absurd rfl (hminus after)
      | case3 => rfl

/-- The digits after a point, if there is one. -/
def readPart : List Char → Except Flaw (Option (List Nat) × List Char)
  | '.' :: rest =>
      match takeDigits rest with
      | ([], after) => .error (missingDigit after)
      | (digits, after) => .ok (some digits, after)
  | other => .ok (none, other)

theorem readPart_point (rest : List Char) :
    readPart ('.' :: rest) =
      if (takeDigits rest).1 = [] then .error (missingDigit (takeDigits rest).2)
      else .ok (some (takeDigits rest).1, (takeDigits rest).2) := by
  rw [readPart]
  rcases takeDigits rest with ⟨_ | ⟨d, digits⟩, after⟩ <;> rfl

/-- The exponent, if there is one. -/
def readExponentPart : List Char → Except Flaw (Option (Bool × List Nat) × List Char)
  | 'e' :: rest | 'E' :: rest => (readPower rest).map fun (power, after) => (some power, after)
  | other => .ok (none, other)

theorem bind_readExponentPart (after : List Char)
    (numeral : Option (Bool × List Nat) → Numeral) :
    (readExponentPart after >>= fun read => pure (numeral read.1, read.2)) =
      match after with
      | 'e' :: rest | 'E' :: rest =>
          readPower rest >>= fun read => pure (numeral (some read.1), read.2)
      | other => pure (numeral none, other) := by
  fun_cases readExponentPart after with
  | case1 rest =>
      simp only
      cases readPower rest <;> rfl
  | case2 rest =>
      simp only
      cases readPower rest <;> rfl
  | case3 other hsmall hcapital => simp only [bind, Except.bind]

theorem readNumeral_eq (negative : Bool) (text : List Char) :
    readNumeral negative text =
      if (takeDigits text).1 = [] then .error (missingDigit (takeDigits text).2)
      else if (takeDigits text).1.head? = some 0 ∧ (takeDigits text).1.length ≠ 1 then
        .error (.fatal .malformed)
      else do
        let (part, after) ← readPart (takeDigits text).2
        let (exponent, after) ← readExponentPart after
        return (⟨negative, (takeDigits text).1, part, exponent⟩, after) := by
  rw [readNumeral]
  rcases takeDigits text with ⟨whole, after⟩
  simp only
  split
  · rfl
  · split
    · rfl
    · fun_cases readPart after with
      | case1 rest after hdigits =>
          simp only [hdigits]
          rfl
      | case2 rest digits after hne hdigits =>
          simp only [hdigits, pure_bind]
          exact (bind_readExponentPart after fun exponent =>
            ⟨negative, whole, some digits, exponent⟩).symm
      | case3 other hpoint =>
          simp only [pure_bind]
          exact (bind_readExponentPart after fun exponent =>
            ⟨negative, whole, none, exponent⟩).symm

/-- A part of a numeral is taken off whatever may follow it. -/
def Takes {α : Type} (read : List Char → Except Flaw (α × List Char)) : Prop :=
  ∀ text a after, read text = .ok (a, after) →
    ∃ used, text = used ++ after ∧
      ∀ rest, MayFollow after rest → read (used ++ rest) = .ok (a, rest)

theorem Takes.done {α : Type} (a : α) : Takes fun text => .ok (a, text) := by
  intro text _ _ h
  obtain ⟨rfl, rfl⟩ := Prod.mk.inj (Except.ok.inj h)
  exact ⟨[], rfl, fun _ _ => rfl⟩

theorem Takes.bind {α β : Type} {read : List Char → Except Flaw (α × List Char)}
    {next : α → List Char → Except Flaw (β × List Char)} (h : Takes read)
    (hnext : ∀ a, Takes (next a)) : Takes fun text => read text >>= fun r => next r.1 r.2 := by
  intro text b after hread
  rcases hfirst : read text with flaw | ⟨a, stop⟩
  · simp only [hfirst] at hread
    cases hread
  · simp only [hfirst] at hread
    obtain ⟨first, rfl, htaken⟩ := h text a stop hfirst
    obtain ⟨second, rfl, hused⟩ := hnext a stop b after hread
    refine ⟨first ++ second, (List.append_assoc ..).symm, fun rest hrest => ?_⟩
    simp only [List.append_assoc, htaken _ (hrest.append second)]
    exact hused rest hrest

theorem readPower_takes : Takes readPower := by
  intro text power after h
  obtain ⟨sign, hsign, hsigned⟩ := readSign_takes text
  rcases htake : takeDigits (readSign text).2 with ⟨digits, stop⟩
  rw [readPower_eq, htake] at h
  by_cases hdigits : digits = []
  · rw [if_pos hdigits] at h
    cases h
  · rw [if_neg hdigits] at h
    obtain ⟨rfl, rfl⟩ := Prod.mk.inj (Except.ok.inj h)
    obtain ⟨used, htext, hempty, hused⟩ := takeDigits_takes htake
    refine ⟨sign ++ used, by rw [List.append_assoc, ← htext, ← hsign], fun rest hrest => ?_⟩
    have hhead : (used ++ rest).head? = (readSign text).2.head? := by
      rw [htext]
      cases used with
      | nil => exact absurd (hempty rfl) hdigits
      | cons c used => rfl
    rw [readPower_eq, List.append_assoc, hsigned _ hhead]
    simp only [hused rest hrest, if_neg hdigits]

/-- A part that is left out takes nothing. -/
theorem takes_nothing {α : Type} {read : List Char → Except Flaw (α × List Char)} {absent : α}
    {p : Char → Prop} (hread : ∀ text, (∀ c ∈ text.head?, p c) → read text = .ok (absent, text))
    (hends : ∀ c, digit? c = none ∧ c ≠ '.' ∧ c ≠ 'e' ∧ c ≠ 'E' → p c) {text : List Char}
    (htext : ∀ c ∈ text.head?, p c) {a : α} {after : List Char} (h : read text = .ok (a, after)) :
    ∃ used, text = used ++ after ∧
      ∀ rest, MayFollow after rest → read (used ++ rest) = .ok (a, rest) := by
  obtain ⟨rfl, rfl⟩ := Prod.mk.inj (Except.ok.inj ((hread text htext).symm.trans h))
  exact ⟨[], rfl, fun rest hrest => hread rest (hrest.head htext hends)⟩

theorem readPart_absent {text : List Char} (h : ∀ c ∈ text.head?, c ≠ '.') :
    readPart text = .ok (none, text) := by
  fun_cases readPart text with
  | case1 | case2 => exact absurd rfl (h '.' rfl)
  | case3 => rfl

theorem readPart_takes : Takes readPart := by
  intro text part after h
  by_cases hpoint : ∀ c ∈ text.head?, c ≠ '.'
  · exact takes_nothing (fun text => readPart_absent) (fun c hc => hc.2.1) hpoint h
  · obtain ⟨rest, rfl⟩ : ∃ rest, text = '.' :: rest := by
      simpa [List.head?_eq_some_iff] using hpoint
    rcases htake : takeDigits rest with ⟨digits, stop⟩
    rw [readPart_point, htake] at h
    by_cases hdigits : digits = []
    · rw [if_pos hdigits] at h
      cases h
    · rw [if_neg hdigits] at h
      obtain ⟨rfl, rfl⟩ := Prod.mk.inj (Except.ok.inj h)
      obtain ⟨used, rfl, -, hused⟩ := takeDigits_takes htake
      refine ⟨'.' :: used, rfl, fun rest hrest => ?_⟩
      rw [List.cons_append, readPart_point, hused rest hrest, if_neg hdigits]

theorem readExponentPart_absent {text : List Char} (h : ∀ c ∈ text.head?, c ≠ 'e' ∧ c ≠ 'E') :
    readExponentPart text = .ok (none, text) := by
  fun_cases readExponentPart text with
  | case1 => exact absurd rfl (h 'e' rfl).1
  | case2 => exact absurd rfl (h 'E' rfl).2
  | case3 => rfl

theorem readExponentPart_takes : Takes readExponentPart := by
  intro text exponent after h
  by_cases habsent : ∀ c ∈ text.head?, c ≠ 'e' ∧ c ≠ 'E'
  · exact takes_nothing (fun text => readExponentPart_absent) (fun c hc => hc.2.2) habsent h
  · obtain ⟨c, rest, hc, rfl⟩ : ∃ c rest, (c = 'e' ∨ c = 'E') ∧ text = c :: rest := by
      cases text with
      | nil => exact absurd nofun habsent
      | cons c rest => exact ⟨c, rest, by simpa [or_iff_not_imp_left] using habsent, rfl⟩
    have hpower (rest : List Char) : readExponentPart (c :: rest) =
        (readPower rest).map fun (power, after) => (some power, after) := by
      rcases hc with rfl | rfl <;> rfl
    rw [hpower] at h
    rcases hread : readPower rest with flaw | ⟨power, stop⟩
    · rw [hread] at h
      cases h
    · rw [hread] at h
      obtain ⟨rfl, rfl⟩ := Prod.mk.inj (Except.ok.inj h)
      obtain ⟨used, rfl, hused⟩ := readPower_takes rest power _ hread
      refine ⟨c :: used, rfl, fun rest hrest => ?_⟩
      rw [List.cons_append, hpower, hused rest hrest]
      rfl

theorem readNumeral_takes (negative : Bool) : Takes (readNumeral negative) := by
  intro text numeral after h
  rcases htake : takeDigits text with ⟨whole, stop⟩
  rw [readNumeral_eq, htake] at h
  by_cases hmissing : whole = []
  · rw [if_pos hmissing] at h
    cases h
  · rw [if_neg hmissing] at h
    by_cases hleading : whole.head? = some 0 ∧ whole.length ≠ 1
    · rw [if_pos hleading] at h
      cases h
    · rw [if_neg hleading] at h
      have htail : Takes fun text => readPart text >>= fun r => readExponentPart r.2 >>= fun r' =>
          .ok (Numeral.mk negative whole r.1 r'.1, r'.2) :=
        readPart_takes.bind fun part => readExponentPart_takes.bind fun exponent => Takes.done _
      obtain ⟨first, rfl, -, htaken⟩ := takeDigits_takes htake
      obtain ⟨second, rfl, hused⟩ := htail stop numeral after h
      refine ⟨first ++ second, (List.append_assoc ..).symm, fun rest hrest => ?_⟩
      rw [readNumeral_eq, List.append_assoc, htaken _ (hrest.append second), if_neg hmissing,
        if_neg hleading]
      exact hused rest hrest

end BillingAccess.Json
