/-
A value is taken off whatever follows it.

What a reader makes of the characters that it takes depends on them alone, and
not on its fuel either, once that has been enough.  The readers call one
another with less fuel, so the induction is on the fuel and goes through all of
them at once.
-/
import BillingAccess.Proofs.Json.Tokens

namespace BillingAccess.Json

open BillingAccess.Decimal

/-- What the reader takes with so much fuel it takes with more, and whatever
may follow. -/
def TakesValue (fuel : Nat) (read : Nat → List Char → Draft × Option (List Char)) : Prop :=
  ∀ ⦃text d after⦄, read fuel text = (d, some after) →
    ∃ used, text = used ++ after ∧
      ∀ more rest, fuel ≤ more → MayFollow after rest → read more (used ++ rest) = (d, some rest)

/-- The same of what stands between brackets or braces: the closing one is no
part of what follows. -/
def TakesBody {α : Type} (fuel : Nat)
    (read : Nat → List Char → List α × Option Flaw × Option (List Char)) : Prop :=
  ∀ ⦃text as ending after⦄, read fuel text = (as, ending, some after) →
    ∃ used, used ≠ [] ∧ text = used ++ after ∧
      ∀ more rest, fuel ≤ more → read more (used ++ rest) = (as, ending, some rest)

/-! ### Values that hold no others -/

theorem readWord_takes {draft d : Draft} {word text after : List Char}
    (h : readWord draft word text = (d, some after)) :
    ∃ used, text = used ++ after ∧ ∀ rest, readWord draft word (used ++ rest) = (d, some rest) := by
  induction word generalizing text with
  | nil =>
      obtain ⟨rfl, hafter⟩ := Prod.mk.inj h
      cases hafter
      exact ⟨[], rfl, fun _ => rfl⟩
  | cons c word ih =>
      cases text with
      | nil => cases (Prod.mk.inj h).2
      | cons e text =>
          by_cases hc : c = e
          · rw [readWord, if_pos hc] at h
            obtain ⟨used, rfl, hused⟩ := ih h
            refine ⟨e :: used, rfl, fun rest => ?_⟩
            rw [List.cons_append, readWord, if_pos hc, hused]
          · rw [readWord, if_neg hc] at h
            cases (Prod.mk.inj h).2

theorem readTextValue_takes {text after : List Char} {d : Draft}
    (h : readTextValue text = (d, some after)) :
    ∃ used, text = used ++ after ∧ ∀ rest, readTextValue (used ++ rest) = (d, some rest) := by
  rcases hread : readText text with ⟨result, stop⟩
  cases stop with
  | error cause => cases result <;> simp [readTextValue, hread] at h
  | ok stop =>
      obtain ⟨used, rfl, hused⟩ := readText_takes hread
      cases result with
      | error cause =>
          simp only [readTextValue, hread, Prod.mk.injEq, Option.some.injEq] at h
          obtain ⟨rfl, rfl⟩ := h
          exact ⟨used, rfl, fun rest => by simp only [readTextValue, hused]⟩
      | ok s =>
          simp only [readTextValue, hread, Prod.mk.injEq, Option.some.injEq] at h
          obtain ⟨rfl, rfl⟩ := h
          exact ⟨used, rfl, fun rest => by simp only [readTextValue, hused]⟩

theorem readNumber_takes {negative : Bool} {text after : List Char} {d : Draft}
    (h : readNumber negative text = (d, some after)) :
    ∃ used, text = used ++ after ∧
      ∀ rest, MayFollow after rest → readNumber negative (used ++ rest) = (d, some rest) := by
  rcases hread : readNumeral negative text with flaw | ⟨numeral, stop⟩
  · simp [readNumber, hread] at h
  · obtain ⟨used, rfl, hused⟩ := readNumeral_takes negative _ _ _ hread
    have hstop : stop = after := by
      rw [readNumber, hread] at h
      cases hnumber : numeral.number? <;> simp only [hnumber] at h <;>
        exact Option.some.inj (Prod.mk.inj h).2
    obtain rfl := hstop
    refine ⟨used, rfl, fun rest hrest => ?_⟩
    rw [readNumber, hread] at h
    rw [readNumber, hused rest hrest]
    cases hnumber : numeral.number? <;> simp only [hnumber] at h ⊢ <;>
      rw [(Prod.mk.inj h).1]

/-! ### One step of each reader -/

/-- What the readers of so much fuel take. -/
structure ReadersTake (fuel : Nat) : Prop where
  value (depth : Nat) : TakesValue fuel fun fuel => readValue fuel depth
  items (depth : Nat) : TakesBody fuel fun fuel => readItems fuel depth
  item (depth : Nat) : TakesBody fuel fun fuel => readItem fuel depth
  members (depth : Nat) : TakesBody fuel fun fuel => readMembers fuel depth
  member (depth : Nat) : TakesBody fuel fun fuel => readMember fuel depth
  memberValue (depth : Nat) : TakesValue fuel fun fuel => readMemberValue fuel depth

variable {fuel depth : Nat}

/-- Reads on after the first character of a value. -/
def readFrom (depth : Nat) (c : Char) (fuel : Nat) (rest : List Char) :
    Draft × Option (List Char) :=
  match c with
  | 'n' => readWord .null ['u', 'l', 'l'] rest
  | 't' => readWord (.bool true) ['r', 'u', 'e'] rest
  | 'f' => readWord (.bool false) ['a', 'l', 's', 'e'] rest
  | '"' => readTextValue rest
  | '-' => readNumber true rest
  | '[' =>
      let (items, ending, after) := readItems fuel (depth - 1) rest
      (if depth = 0 then tooDeep (.list items ending) else .list items ending, after)
  | '\x7b' =>
      let (members, ending, after) := readMembers fuel (depth - 1) rest
      (if depth = 0 then tooDeep (.object members ending) else .object members ending, after)
  | c =>
      if (digit? c).isSome then readNumber false (c :: rest)
      else (.flawed (.fatal .malformed), none)

theorem readFrom_digit {c : Char} (hc : (digit? c).isSome) (rest : List Char) :
    readFrom depth c fuel rest = readNumber false (c :: rest) := by
  rw [readFrom.eq_8, if_pos hc]
  all_goals
    rintro rfl
    exact absurd hc (by decide)

/-- Reads a value from the first character on. -/
def valueFrom (depth fuel : Nat) : List Char → Draft × Option (List Char)
  | [] => (.flawed (.fatal .truncated), none)
  | c :: rest => readFrom depth c fuel rest

theorem readValue_succ (fuel depth : Nat) (text : List Char) :
    readValue (fuel + 1) depth text = valueFrom depth fuel (skipSpace text) := by
  rw [readValue]
  generalize skipSpace text = start
  cases start with
  | nil => rfl
  | cons c rest =>
      simp only [valueFrom]
      split
      case h_1 hstart => cases hstart
      case h_9 hstart =>
        cases hstart
        rw [readFrom.eq_8] <;> assumption
      all_goals
        next hstart =>
          cases hstart
          rfl

/-- A number takes at least the character that it starts with. -/
theorem readNumber_takes_cons {negative : Bool} {c : Char} {text after : List Char} {d : Draft}
    (h : readNumber negative (c :: text) = (d, some after)) :
    ∃ used, text = used ++ after ∧
      ∀ rest, MayFollow after rest →
        readNumber negative (c :: (used ++ rest)) = (d, some rest) := by
  obtain ⟨used, htext, hused⟩ := readNumber_takes h
  cases used with
  | nil =>
      -- nothing would be a number
      cases (Prod.mk.inj (hused [] (Or.inr nofun))).2
  | cons e used =>
      obtain ⟨rfl, rfl⟩ := List.cons_eq_cons.mp htext
      exact ⟨used, rfl, hused⟩

theorem readFrom_takes (ih : ReadersTake fuel) (depth : Nat) (c : Char) :
    TakesValue fuel (readFrom depth c) := by
  intro text d after h
  fun_cases readFrom depth c fuel text with
  | case1 | case2 | case3 =>
      obtain ⟨used, htext, hused⟩ := readWord_takes h
      exact ⟨used, htext, fun _ rest _ _ => hused rest⟩
  | case4 =>
      obtain ⟨used, htext, hused⟩ := readTextValue_takes h
      exact ⟨used, htext, fun _ rest _ _ => hused rest⟩
  | case5 =>
      obtain ⟨used, htext, hused⟩ := readNumber_takes h
      exact ⟨used, htext, fun _ rest _ hrest => hused rest hrest⟩
  | case6 items ending stop hitems =>
      simp only [readFrom, hitems, Prod.mk.injEq] at h
      obtain ⟨rfl, rfl⟩ := h
      obtain ⟨used, -, htext, hused⟩ := ih.items (depth - 1) hitems
      refine ⟨used, htext, fun more rest hmore _ => ?_⟩
      simp only [readFrom, hused more rest hmore]
  | case7 members ending stop hmembers =>
      simp only [readFrom, hmembers, Prod.mk.injEq] at h
      obtain ⟨rfl, rfl⟩ := h
      obtain ⟨used, -, htext, hused⟩ := ih.members (depth - 1) hmembers
      refine ⟨used, htext, fun more rest hmore _ => ?_⟩
      simp only [readFrom, hused more rest hmore]
  | case8 _ _ _ _ _ _ _ _ hdigit =>
      rw [readFrom_digit hdigit] at h
      obtain ⟨used, htext, hused⟩ := readNumber_takes_cons h
      exact ⟨used, htext, fun _ rest _ hrest => (readFrom_digit hdigit _).trans (hused rest hrest)⟩
  | case9 =>
      simp [readFrom, *] at h

/-- A reader that passes blanks and reads on from a character. -/
theorem TakesValue.skipSpace {read next : Nat → List Char → Draft × Option (List Char)}
    (hread : ∀ fuel text, read (fuel + 1) text = next fuel (skipSpace text))
    (hnil : ∀ d after, next fuel [] ≠ (d, some after))
    (h : ∀ c, TakesValue fuel fun fuel rest => next fuel (c :: rest)) :
    TakesValue (fuel + 1) read := by
  intro text d after htext
  rw [hread] at htext
  cases hstart : BillingAccess.Json.skipSpace text with
  | nil => exact absurd (hstart ▸ htext) (hnil d after)
  | cons c rest =>
      rw [hstart] at htext
      obtain ⟨used, rfl, hused⟩ := h c htext
      obtain ⟨blanks, rfl, -, hskip⟩ := exists_blanks_of_cons hstart
      refine ⟨blanks ++ c :: used, by simp, fun more rest hmore hrest => ?_⟩
      obtain ⟨more, rfl⟩ : ∃ less, more = less + 1 := ⟨more - 1, by omega⟩
      rw [List.append_assoc, List.cons_append, hread, hskip]
      exact hused more rest (by omega) hrest

/-! ### Between brackets and braces -/

section

variable {α : Type}

/-- Reads on after an item or a member: to the end, or to those after it. -/
def bodyEnd (close : Char) (read : Nat → List Char → List α × Option Flaw × Option (List Char))
    (a : α) (fuel : Nat) : List Char → List α × Option Flaw × Option (List Char)
  | [] => ([a], some (.fatal .truncated), none)
  | c :: rest =>
      if c = close then ([a], none, some rest)
      else if c = ',' then
        let (as, ending, after) := read fuel rest
        (a :: as, ending, after)
      else ([a], some (.fatal .malformed), none)

/-- Reads the value of an item or of a member, and those after it. -/
def bodyStep (close : Char) (value : Nat → List Char → Draft × Option (List Char))
    (entry : Draft → α) (read : Nat → List Char → List α × Option Flaw × Option (List Char))
    (fuel : Nat) (text : List Char) : List α × Option Flaw × Option (List Char) :=
  match value fuel text with
  | (d, none) => ([entry d], none, none)
  | (d, some after) => bodyEnd close read (entry d) fuel (skipSpace after)

variable {close : Char} {value : Nat → List Char → Draft × Option (List Char)} {entry : Draft → α}
  {read next : Nat → List Char → List α × Option Flaw × Option (List Char)}

theorem bodyEnd_close (a : α) (fuel : Nat) (rest : List Char) :
    bodyEnd close read a fuel (close :: rest) = ([a], none, some rest) :=
  if_pos rfl

theorem bodyEnd_comma (hclose : close ≠ ',') (a : α) (fuel : Nat) (rest : List Char) :
    bodyEnd close read a fuel (',' :: rest) =
      (a :: (read fuel rest).1, (read fuel rest).2) := by
  rw [bodyEnd, if_neg hclose.symm, if_pos rfl]

theorem bodyEnd_other {text : List Char} (hnil : text ≠ []) (hclose : ∀ rest, text ≠ close :: rest)
    (hcomma : ∀ rest, text ≠ ',' :: rest) (a : α) (fuel : Nat) :
    bodyEnd close read a fuel text = ([a], some (.fatal .malformed), none) := by
  cases text with
  | nil => contradiction
  | cons c rest =>
      have hc : c ≠ close := fun hc => hclose rest (congrArg (· :: rest) hc)
      have hc' : c ≠ ',' := fun hc => hcomma rest (congrArg (· :: rest) hc)
      rw [bodyEnd, if_neg hc, if_neg hc']

theorem bodyEnd_takes (hclose : close ≠ ',') (h : TakesBody fuel read) (a : α) :
    TakesBody fuel (bodyEnd close read a) := by
  intro text as ending after hread
  cases text with
  | nil => cases (Prod.mk.inj (Prod.mk.inj hread).2).2
  | cons c text =>
      by_cases hc : c = close
      · subst hc
        rw [bodyEnd_close, Prod.mk.injEq, Prod.mk.injEq, Option.some.injEq] at hread
        obtain ⟨rfl, rfl, rfl⟩ := hread
        exact ⟨[c], by simp, rfl, fun more rest _ => bodyEnd_close a more rest⟩
      · by_cases hcomma : c = ','
        · subst hcomma
          rw [bodyEnd_comma hclose, Prod.mk.injEq] at hread
          obtain ⟨rfl, hrest⟩ := hread
          obtain ⟨used, -, rfl, hused⟩ := h (Prod.ext rfl hrest)
          refine ⟨',' :: used, by simp, rfl, fun more rest hmore => ?_⟩
          rw [List.cons_append, bodyEnd_comma hclose, hused more rest hmore]
        · rw [bodyEnd, if_neg hc, if_neg hcomma] at hread
          cases (Prod.mk.inj (Prod.mk.inj hread).2).2

theorem bodyStep_takes (hclose : close ≠ ',') (hvalue : TakesValue fuel value)
    (hread : TakesBody fuel read) : TakesBody fuel (bodyStep close value entry read) := by
  intro text as ending after h
  rcases htext : value fuel text with ⟨d, _ | stop⟩
  · simp [bodyStep, htext] at h
  · simp only [bodyStep, htext] at h
    obtain ⟨first, rfl, hfirst⟩ := hvalue htext
    obtain ⟨second, hne, hstop, hsecond⟩ := bodyEnd_takes hclose hread (entry d) h
    obtain ⟨c, second, rfl⟩ := List.exists_cons_of_ne_nil hne
    obtain ⟨blanks, rfl, -, hskip⟩ := exists_blanks_of_cons hstop
    refine ⟨first ++ (blanks ++ c :: second), by simp, by simp, fun more rest hmore => ?_⟩
    have hfollow : MayFollow (blanks ++ c :: (second ++ after))
        (blanks ++ c :: (second ++ rest)) := by
      refine MayFollow.append (Or.inl ?_) blanks
      rfl
    rw [bodyStep, List.append_assoc, List.append_assoc, List.cons_append,
      hfirst more _ hmore hfollow]
    simp only [hskip]
    exact hsecond more rest hmore

theorem TakesBody.skipSpace (h : TakesBody fuel next)
    (hread : ∀ fuel text, read (fuel + 1) text = next fuel (skipSpace text)) :
    TakesBody (fuel + 1) read := by
  intro text as ending after htext
  rw [hread] at htext
  obtain ⟨used, hne, hstart, hused⟩ := h htext
  obtain ⟨c, used, rfl⟩ := List.exists_cons_of_ne_nil hne
  obtain ⟨blanks, rfl, -, hskip⟩ := exists_blanks_of_cons hstart
  refine ⟨blanks ++ c :: used, by simp, by simp, fun more rest hmore => ?_⟩
  obtain ⟨more, rfl⟩ : ∃ less, more = less + 1 := ⟨more - 1, by omega⟩
  rw [List.append_assoc, List.cons_append, hread, hskip]
  exact hused more rest (by omega)

/-- Between the brackets or braces there may be nothing. -/
theorem TakesBody.orNothing
    (hclose : ∀ more rest, next more (close :: rest) = ([], none, some rest))
    (hother : ∀ c ≠ close, ∀ more rest, next more (c :: rest) = read more (c :: rest))
    (hnil : (next fuel []).2.2 = none) (h : TakesBody fuel read) : TakesBody fuel next := by
  intro text as ending after hread
  cases text with
  | nil =>
      rw [hread] at hnil
      cases hnil
  | cons c text =>
      by_cases hc : c = close
      · subst hc
        rw [hclose, Prod.mk.injEq, Prod.mk.injEq, Option.some.injEq] at hread
        obtain ⟨rfl, rfl, rfl⟩ := hread
        exact ⟨[c], by simp, rfl, fun more rest _ => hclose more rest⟩
      · rw [hother c hc] at hread
        obtain ⟨used, hne, htext, hused⟩ := h hread
        obtain ⟨e, used, rfl⟩ := List.exists_cons_of_ne_nil hne
        obtain ⟨rfl, rfl⟩ := List.cons_eq_cons.mp htext
        exact ⟨c :: used, hne, rfl, fun more rest hmore =>
          (hother c hc more _).trans (hused more rest hmore)⟩

end

theorem readItem_succ (fuel depth : Nat) (text : List Char) :
    readItem (fuel + 1) depth text =
      bodyStep ']' (fun fuel => readValue fuel depth) id (fun fuel => readItem fuel depth)
        fuel text := by
  rw [readItem, bodyStep]
  rcases readValue fuel depth text with ⟨d, _ | after⟩
  · rfl
  · simp only
    split
    case h_4 hnil hclose hcomma => exact (bodyEnd_other hnil hclose hcomma _ fuel).symm
    all_goals
      next hstart =>
        rw [hstart]
        rfl

/-- Reads the items of a list from the first character on. -/
def itemsFrom (depth fuel : Nat) : List Char → List Draft × Option Flaw × Option (List Char)
  | [] => ([], some (.fatal .truncated), none)
  | ']' :: rest => ([], none, some rest)
  | other => readItem fuel depth other

theorem readItems_succ (fuel depth : Nat) (text : List Char) :
    readItems (fuel + 1) depth text = itemsFrom depth fuel (skipSpace text) := by
  rw [readItems]
  rfl

theorem itemsFrom_cons {c : Char} (hc : c ≠ ']') (depth fuel : Nat) (rest : List Char) :
    itemsFrom depth fuel (c :: rest) = readItem fuel depth (c :: rest) := by
  rw [itemsFrom]
  · exact List.cons_ne_nil c rest
  · rintro _ ⟨⟩
    contradiction

/-- Reads the members of an object from the first character on. -/
def membersFrom (depth fuel : Nat) :
    List Char → List (Except Cause String × Draft) × Option Flaw × Option (List Char)
  | '\x7d' :: rest => ([], none, some rest)
  | other => readMember fuel depth other

theorem readMembers_succ (fuel depth : Nat) (text : List Char) :
    readMembers (fuel + 1) depth text = membersFrom depth fuel (skipSpace text) := by
  rw [readMembers]
  rfl

theorem membersFrom_cons {c : Char} (hc : c ≠ '\x7d') (depth fuel : Nat) (rest : List Char) :
    membersFrom depth fuel (c :: rest) = readMember fuel depth (c :: rest) := by
  rw [membersFrom]
  rintro _ ⟨⟩
  contradiction

/-- Reads a member and those after it from the name on. -/
def memberFrom (depth fuel : Nat) :
    List Char → List (Except Cause String × Draft) × Option Flaw × Option (List Char)
  | [] => ([], some (.fatal .truncated), none)
  | '"' :: rest =>
      match readText rest with
      | (.ok _, .error cause) => ([], some (.fatal cause), none)
      | (.error cause, .error skipped) => ([], some ⟨cause, some skipped⟩, none)
      | (name, .ok after) =>
          bodyStep '\x7d' (fun fuel => readMemberValue fuel depth) (name, ·)
            (fun fuel => readMember fuel depth) fuel after
  | _ => ([], some (.fatal .malformed), none)

theorem readMember_succ (fuel depth : Nat) (text : List Char) :
    readMember (fuel + 1) depth text = memberFrom depth fuel (skipSpace text) := by
  rw [readMember]
  generalize skipSpace text = start
  fun_cases memberFrom depth fuel start with
  | case1 => rfl
  | case2 rest _ _ hname => simp only [hname]
  | case3 rest _ _ hname => simp only [hname]
  | case4 rest name after hname =>
      simp only [hname, bodyStep]
      rcases readMemberValue fuel depth after with ⟨d, _ | stop⟩
      · rfl
      · simp only
        split
        case h_4 hnil hclose hcomma => exact (bodyEnd_other hnil hclose hcomma _ fuel).symm
        all_goals
          next hstart =>
            rw [hstart]
            rfl
  | case5 _ hnil hquote =>
      split
      · contradiction
      · exact (hquote _ rfl).elim
      · rfl

/-- Reads the value of a member from the colon on. -/
def memberValueFrom (depth fuel : Nat) : List Char → Draft × Option (List Char)
  | [] => (.flawed (.fatal .truncated), none)
  | ':' :: rest => readValue fuel depth rest
  | _ => (.flawed (.fatal .malformed), none)

theorem readMemberValue_succ (fuel depth : Nat) (text : List Char) :
    readMemberValue (fuel + 1) depth text = memberValueFrom depth fuel (skipSpace text) := by
  rw [readMemberValue]
  rfl

/-! ### All readers -/

theorem itemsFrom_takes (ih : ReadersTake fuel) (depth : Nat) :
    TakesBody fuel (itemsFrom depth) := by
  have hclose (more : Nat) (rest : List Char) :
      itemsFrom depth more (']' :: rest) = ([], none, some rest) := rfl
  exact TakesBody.orNothing hclose (fun _ hc => itemsFrom_cons hc depth) rfl (ih.item depth)

theorem ReadersTake.items_succ (ih : ReadersTake fuel) (depth : Nat) :
    TakesBody (fuel + 1) fun fuel => readItems fuel depth :=
  (itemsFrom_takes ih depth).skipSpace fun fuel => readItems_succ fuel depth

theorem valueFrom_nil (d : Draft) (after : List Char) :
    valueFrom depth fuel [] ≠ (d, some after) :=
  nofun

theorem ReadersTake.value_succ (ih : ReadersTake fuel) (depth : Nat) :
    TakesValue (fuel + 1) fun fuel => readValue fuel depth :=
  TakesValue.skipSpace (fun fuel => readValue_succ fuel depth) valueFrom_nil
    (readFrom_takes ih depth)

theorem TakesBody.succ {α : Type}
    {read next : Nat → List Char → List α × Option Flaw × Option (List Char)}
    (h : TakesBody fuel next) (hread : ∀ fuel text, read (fuel + 1) text = next fuel text) :
    TakesBody (fuel + 1) read := by
  intro text as ending after htext
  rw [hread] at htext
  obtain ⟨used, hne, rfl, hused⟩ := h htext
  refine ⟨used, hne, rfl, fun more rest hmore => ?_⟩
  obtain ⟨more, rfl⟩ : ∃ less, more = less + 1 := ⟨more - 1, by omega⟩
  rw [hread]
  exact hused more rest (by omega)

theorem ReadersTake.item_succ (ih : ReadersTake fuel) (depth : Nat) :
    TakesBody (fuel + 1) fun fuel => readItem fuel depth :=
  (bodyStep_takes (by decide) (ih.value depth) (ih.item depth)).succ
    fun fuel => readItem_succ fuel depth

theorem membersFrom_takes (ih : ReadersTake fuel) (depth : Nat) :
    TakesBody fuel (membersFrom depth) := by
  have hclose (more : Nat) (rest : List Char) :
      membersFrom depth more ('\x7d' :: rest) = ([], none, some rest) := rfl
  have hnil : (membersFrom depth fuel []).2.2 = none := by
    change (readMember fuel depth []).2.2 = none
    cases fuel with
    | zero => rw [readMember]
    | succ fuel =>
        rw [readMember_succ]
        rfl
  exact TakesBody.orNothing hclose (fun _ hc => membersFrom_cons hc depth) hnil (ih.member depth)

theorem ReadersTake.members_succ (ih : ReadersTake fuel) (depth : Nat) :
    TakesBody (fuel + 1) fun fuel => readMembers fuel depth :=
  (membersFrom_takes ih depth).skipSpace fun fuel => readMembers_succ fuel depth

theorem memberFrom_takes (ih : ReadersTake fuel) (depth : Nat) :
    TakesBody fuel (memberFrom depth) := by
  intro text as ending after h
  fun_cases memberFrom depth fuel text with
  | case1 => cases (Prod.mk.inj (Prod.mk.inj h).2).2
  | case2 rest _ _ hname | case3 rest _ _ hname => simp [memberFrom, hname] at h
  | case5 _ hnil hquote => simp [memberFrom] at h
  | case4 rest name stop hname =>
      simp only [memberFrom, hname] at h
      obtain ⟨first, rfl, hfirst⟩ := readText_takes hname
      obtain ⟨second, -, rfl, hsecond⟩ :=
        bodyStep_takes (by decide) (ih.memberValue depth) (ih.member depth) h
      refine ⟨'"' :: (first ++ second), by simp, by simp, fun more rest hmore => ?_⟩
      simp only [List.cons_append, List.append_assoc, memberFrom, hfirst]
      exact hsecond more rest hmore

theorem ReadersTake.member_succ (ih : ReadersTake fuel) (depth : Nat) :
    TakesBody (fuel + 1) fun fuel => readMember fuel depth :=
  TakesBody.skipSpace (memberFrom_takes ih depth) fun fuel => readMember_succ fuel depth

theorem memberValueFrom_nil (d : Draft) (after : List Char) :
    memberValueFrom depth fuel [] ≠ (d, some after) :=
  nofun

theorem memberValueFrom_takes (ih : ReadersTake fuel) (depth : Nat) (c : Char) :
    TakesValue fuel fun fuel rest => memberValueFrom depth fuel (c :: rest) := by
  by_cases hc : c = ':'
  · subst hc
    exact ih.value depth
  · intro text d after h
    simp [memberValueFrom, hc] at h

theorem ReadersTake.memberValue_succ (ih : ReadersTake fuel) (depth : Nat) :
    TakesValue (fuel + 1) fun fuel => readMemberValue fuel depth :=
  TakesValue.skipSpace (fun fuel => readMemberValue_succ fuel depth) memberValueFrom_nil
    (memberValueFrom_takes ih depth)

theorem readersTake (fuel : Nat) : ReadersTake fuel := by
  induction fuel with
  | zero =>
      -- a reader without fuel never stops within the text
      constructor
      case value | memberValue =>
        intro depth text d after h
        simp [readValue, readMemberValue] at h
      all_goals
        intro depth text as ending after h
        simp [readItems, readItem, readMembers, readMember] at h
  | succ fuel ih =>
      exact ⟨ih.value_succ, ih.items_succ, ih.item_succ, ih.members_succ, ih.member_succ,
        ih.memberValue_succ⟩

end BillingAccess.Json
