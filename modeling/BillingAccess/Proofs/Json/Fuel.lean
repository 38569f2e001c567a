/-
The fuel of the readers is bookkeeping.

A reader that has fuel for the text in front of it reads the same with any
more.  Three steps for each character are enough: an item or a member that
follows another comes after a comma, and what is nested after a brace or a
bracket.
-/
import BillingAccess.Proofs.Json.Taken

namespace BillingAccess.Json

open BillingAccess.Decimal

/-- With so much fuel for each character, and some to start with, a reader
reads as it does with more. -/
def Settles {α : Type} (spare fuel : Nat) (read : Nat → List Char → α) : Prop :=
  ∀ ⦃text more⦄, 3 * text.length + spare ≤ fuel → fuel ≤ more → read more text = read fuel text

/-- What the readers of so much fuel no longer need more for. -/
structure ReadersSettle (fuel : Nat) : Prop where
  value (depth : Nat) : Settles 1 fuel fun fuel => readValue fuel depth
  items (depth : Nat) : Settles 3 fuel fun fuel => readItems fuel depth
  item (depth : Nat) : Settles 2 fuel fun fuel => readItem fuel depth
  members (depth : Nat) : Settles 3 fuel fun fuel => readMembers fuel depth
  member (depth : Nat) : Settles 2 fuel fun fuel => readMember fuel depth
  memberValue (depth : Nat) : Settles 2 fuel fun fuel => readMemberValue fuel depth

theorem length_skipSpace_le (text : List Char) : (skipSpace text).length ≤ text.length :=
  (List.dropWhile_suffix isSpace).length_le

theorem TakesValue.length_le {fuel : Nat} {read : Nat → List Char → Draft × Option (List Char)}
    (h : TakesValue fuel read) {text after : List Char} {d : Draft}
    (hread : read fuel text = (d, some after)) : after.length ≤ text.length := by
  obtain ⟨used, rfl, -⟩ := h hread
  simp

variable {fuel : Nat}

/-- A reader that passes blanks and reads on with the fuel that is left. -/
theorem Settles.skipSpace {α : Type} {spare : Nat} {read next : Nat → List Char → α}
    (hread : ∀ fuel text, read (fuel + 1) text = next fuel (skipSpace text))
    (h : ∀ ⦃text more⦄, 3 * text.length + spare ≤ fuel + 1 → fuel ≤ more →
      next more text = next fuel text) : Settles spare (fuel + 1) read := by
  intro text more hfuel hmore
  obtain ⟨more, rfl⟩ : ∃ less, more = less + 1 := ⟨more - 1, by omega⟩
  have hle := length_skipSpace_le text
  rw [hread, hread]
  exact h (by omega) (by omega)

theorem readFrom_settles (ih : ReadersSettle fuel) (depth : Nat) (c : Char)
    {rest : List Char} (hfuel : 3 * rest.length + 3 ≤ fuel) {more : Nat} (hmore : fuel ≤ more) :
    readFrom depth c more rest = readFrom depth c fuel rest := by
  unfold readFrom
  split
  case h_6 =>
    have hitems := ih.items (depth - 1) hfuel hmore
    simp only at hitems
    rw [hitems]
  case h_7 =>
    have hmembers := ih.members (depth - 1) hfuel hmore
    simp only at hmembers
    rw [hmembers]
  all_goals rfl

theorem ReadersSettle.value_succ (ih : ReadersSettle fuel) (depth : Nat) :
    Settles 1 (fuel + 1) fun fuel => readValue fuel depth := by
  refine Settles.skipSpace (fun fuel => readValue_succ fuel depth) fun text more hfuel hmore => ?_
  cases text with
  | nil => rfl
  | cons c rest =>
      rw [List.length_cons] at hfuel
      exact readFrom_settles ih depth c (by omega) hmore

section

variable {α : Type} {spare : Nat} {value : Nat → List Char → Draft × Option (List Char)}
  {read : Nat → List Char → List α × Option Flaw × Option (List Char)}

/-- What follows an item or a member is shorter by the comma. -/
theorem bodyEnd_settles (close : Char) (a : α) (hread : Settles 2 fuel read) {text : List Char}
    (hfuel : 3 * text.length ≤ fuel) {more : Nat} (hmore : fuel ≤ more) :
    bodyEnd close read a more text = bodyEnd close read a fuel text := by
  cases text with
  | nil => rfl
  | cons c rest =>
      rw [List.length_cons] at hfuel
      rw [bodyEnd, bodyEnd, hread (by omega) hmore]

theorem bodyStep_settles (close : Char) (entry : Draft → α) (htakes : TakesValue fuel value)
    (hvalue : Settles spare fuel value) (hread : Settles 2 fuel read) :
    Settles spare fuel (bodyStep close value entry read) := by
  intro text more hfuel hmore
  rw [bodyStep, bodyStep, hvalue hfuel hmore]
  rcases htext : value fuel text with ⟨d, _ | after⟩
  · rfl
  · have hafter := htakes.length_le htext
    have hskip := length_skipSpace_le after
    exact bodyEnd_settles close (entry d) hread (by omega) hmore

end

theorem ReadersSettle.item_succ (ih : ReadersSettle fuel) (depth : Nat) :
    Settles 2 (fuel + 1) fun fuel => readItem fuel depth := by
  intro text more hfuel hmore
  obtain ⟨more, rfl⟩ : ∃ less, more = less + 1 := ⟨more - 1, by omega⟩
  change readItem (more + 1) depth text = readItem (fuel + 1) depth text
  rw [readItem_succ, readItem_succ]
  exact bodyStep_settles ']' id ((readersTake fuel).value depth) (ih.value depth) (ih.item depth)
    (by omega) (by omega)

theorem ReadersSettle.items_succ (ih : ReadersSettle fuel) (depth : Nat) :
    Settles 3 (fuel + 1) fun fuel => readItems fuel depth := by
  refine Settles.skipSpace (fun fuel => readItems_succ fuel depth) fun text more hfuel hmore => ?_
  unfold itemsFrom
  split
  case h_3 => exact ih.item depth (by omega) hmore
  all_goals rfl

theorem ReadersSettle.members_succ (ih : ReadersSettle fuel) (depth : Nat) :
    Settles 3 (fuel + 1) fun fuel => readMembers fuel depth := by
  refine Settles.skipSpace (fun fuel => readMembers_succ fuel depth) fun text more hfuel hmore => ?_
  unfold membersFrom
  split
  · rfl
  · exact ih.member depth (by omega) hmore

theorem ReadersSettle.member_succ (ih : ReadersSettle fuel) (depth : Nat) :
    Settles 2 (fuel + 1) fun fuel => readMember fuel depth := by
  refine Settles.skipSpace (fun fuel => readMember_succ fuel depth) fun text more hfuel hmore => ?_
  unfold memberFrom
  split
  · rfl
  · next rest =>
      split
      case h_3 name after hname =>
        obtain ⟨used, rfl, -⟩ := readText_takes hname
        simp only [List.length_cons, List.length_append] at hfuel
        exact bodyStep_settles '\x7d' (name, ·) ((readersTake fuel).memberValue depth)
          (ih.memberValue depth) (ih.member depth) (by omega) hmore
      all_goals rfl
  · rfl

theorem ReadersSettle.memberValue_succ (ih : ReadersSettle fuel) (depth : Nat) :
    Settles 2 (fuel + 1) fun fuel => readMemberValue fuel depth := by
  refine Settles.skipSpace (fun fuel => readMemberValue_succ fuel depth)
    fun text more hfuel hmore => ?_
  unfold memberValueFrom
  split
  case h_2 rest =>
    rw [List.length_cons] at hfuel
    exact ih.value depth (by omega) hmore
  all_goals rfl

theorem readersSettle (fuel : Nat) : ReadersSettle fuel := by
  induction fuel with
  | zero =>
      -- there is always some fuel to start with
      constructor <;> intro depth text more hfuel <;> omega
  | succ fuel ih =>
      exact ⟨ih.value_succ, ih.items_succ, ih.item_succ, ih.members_succ, ih.member_succ,
        ih.memberValue_succ⟩

/-- A whole text is read as it is with any more fuel. -/
theorem ofText_eq {text : List Char} {fuel : Nat} (h : 3 * text.length + 3 ≤ fuel) :
    Document.ofText text =
      ⟨(readValue fuel greatestDepth text).1,
        (((readValue fuel greatestDepth text).2.map skipSpace).getD []) ≠ []⟩ := by
  have hread : readValue fuel greatestDepth text =
      readValue (3 * text.length + 3) greatestDepth text :=
    (readersSettle _).value greatestDepth (by omega) h
  rw [hread]
  rfl

end BillingAccess.Json
