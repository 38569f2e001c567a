/-
What is skipped over.

A reader follows a text as far as a value can be skipped, so it stops within
the text exactly when the draft survives skipping.  How deep the value lies
does not matter for that: only whoever reads it minds the depth.
-/
import BillingAccess.Proofs.Json.Taken

namespace BillingAccess.Json

open BillingAccess.Decimal

theorem skip_list (items : List Draft) (ending : Option Flaw) :
    (Draft.list items ending).skip = Draft.skipItems ending items := by
  rw [Draft.skip]

/-- Members are skipped as items are: their names do not matter. -/
theorem skip_object (members : List (Except Cause String × Draft)) (ending : Option Flaw) :
    (Draft.object members ending).skip = Draft.skipItems ending (members.map Prod.snd) := by
  rw [Draft.skip]
  induction members with
  | nil => rfl
  | cons member members ih => rw [Draft.skipMembers, ih, List.map_cons, Draft.skipItems]

/-- A text that a value was read from can be followed to the end of the value. -/
structure FollowsValue (read : Nat → List Char → Draft × Option (List Char)) : Prop where
  stops (depth : Nat) (text : List Char) :
    (read depth text).1.skip = none ↔ (read depth text).2.isSome
  level (depth other : Nat) (text : List Char) : (read depth text).2 = (read other text).2

/-- The same of what stands between brackets or braces. -/
structure FollowsBody {α : Type} (draft : α → Draft)
    (read : Nat → List Char → List α × Option Flaw × Option (List Char)) : Prop where
  stops (depth : Nat) (text : List Char) :
    Draft.skipItems (read depth text).2.1 ((read depth text).1.map draft) = none ↔
      (read depth text).2.2.isSome
  level (depth other : Nat) (text : List Char) : (read depth text).2.2 = (read other text).2.2

theorem readWord_stops {draft : Draft} (h : draft.skip = none) (word text : List Char) :
    (readWord draft word text).1.skip = none ↔ (readWord draft word text).2.isSome := by
  fun_induction readWord draft word text with
  | case1 => simp [h]
  | case2 | case4 => simp [Draft.skip, Flaw.fatal]
  | case3 _ _ _ ih => exact ih

theorem readTextValue_stops (text : List Char) :
    (readTextValue text).1.skip = none ↔ (readTextValue text).2.isSome := by
  fun_cases readTextValue text <;> simp [Draft.skip, Flaw.fatal, *]

/-- A numeral that breaks off cannot be skipped either. -/
def FailsSkipped {α : Type} (read : Except Flaw α) : Prop :=
  ∀ flaw, read = .error flaw → flaw.skipped ≠ none

theorem failsSkipped_missingDigit {α : Type} (text : List Char) :
    FailsSkipped (.error (missingDigit text) : Except Flaw α) := by
  rintro _ ⟨⟩
  cases text <;> exact nofun

theorem FailsSkipped.ok {α : Type} (a : α) : FailsSkipped (.ok a) :=
  nofun

theorem FailsSkipped.bind {α β : Type} {read : Except Flaw α} {next : α → Except Flaw β}
    (h : FailsSkipped read) (hnext : ∀ a, FailsSkipped (next a)) :
    FailsSkipped (read >>= next) := by
  cases read with
  | error flaw => rintro _ ⟨⟩; exact h _ rfl
  | ok a => exact hnext a

theorem readPart_failsSkipped (text : List Char) : FailsSkipped (readPart text) := by
  fun_cases readPart text with
  | case1 => exact failsSkipped_missingDigit _
  | case2 | case3 => exact .ok _

theorem readPower_failsSkipped (text : List Char) : FailsSkipped (readPower text) := by
  rw [readPower_eq]
  split
  · exact failsSkipped_missingDigit _
  · exact .ok _

theorem readExponentPart_failsSkipped (text : List Char) :
    FailsSkipped (readExponentPart text) := by
  fun_cases readExponentPart text with
  | case1 rest | case2 rest => exact (readPower_failsSkipped rest).bind fun _ => .ok _
  | case3 => exact .ok _

theorem readNumeral_failsSkipped (negative : Bool) (text : List Char) :
    FailsSkipped (readNumeral negative text) := by
  rw [readNumeral_eq]
  split
  · exact failsSkipped_missingDigit _
  · split
    · rintro _ ⟨⟩
      exact nofun
    · exact (readPart_failsSkipped _).bind fun _ =>
        (readExponentPart_failsSkipped _).bind fun _ => .ok _

theorem readNumber_stops (negative : Bool) (text : List Char) :
    (readNumber negative text).1.skip = none ↔ (readNumber negative text).2.isSome := by
  fun_cases readNumber negative text with
  | case1 flaw hread => simpa [Draft.skip] using readNumeral_failsSkipped negative text flaw hread
  | case2 | case3 => simp [Draft.skip]

/-- How far the readers of so much fuel follow a text. -/
structure ReadersFollow (fuel : Nat) : Prop where
  value : FollowsValue (readValue fuel)
  items : FollowsBody id (readItems fuel)
  item : FollowsBody id (readItem fuel)
  members : FollowsBody Prod.snd (readMembers fuel)
  member : FollowsBody Prod.snd (readMember fuel)
  memberValue : FollowsValue (readMemberValue fuel)

variable {fuel : Nat}

theorem skip_ite_tooDeep (depth : Nat) (d : Draft) :
    (if depth = 0 then tooDeep d else d).skip = d.skip := by
  split
  · rfl
  · rfl

theorem readFrom_follows (ih : ReadersFollow fuel) (c : Char) :
    FollowsValue fun depth => readFrom depth c fuel := by
  constructor
  · intro depth text
    fun_cases readFrom depth c fuel text with
    | case1 | case2 | case3 => exact readWord_stops (by simp [Draft.skip]) _ _
    | case4 => exact readTextValue_stops _
    | case5 | case8 => exact readNumber_stops _ _
    | case6 items ending after hitems =>
        have h := ih.items.stops (depth - 1) text
        rw [hitems, List.map_id] at h
        rwa [skip_ite_tooDeep, skip_list]
    | case7 members ending after hmembers =>
        have h := ih.members.stops (depth - 1) text
        rw [hmembers] at h
        rwa [skip_ite_tooDeep, skip_object]
    | case9 => simp [Draft.skip, Flaw.fatal]
  · intro depth other text
    unfold readFrom
    split
    case h_6 => exact ih.items.level _ _ text
    case h_7 => exact ih.members.level _ _ text
    all_goals rfl

theorem ReadersFollow.value_succ (ih : ReadersFollow fuel) :
    FollowsValue (readValue (fuel + 1)) := by
  constructor
  · intro depth text
    rw [readValue_succ]
    cases skipSpace text with
    | nil => simp [valueFrom, Draft.skip, Flaw.fatal]
    | cons c rest => exact (readFrom_follows ih c).stops depth rest
  · intro depth other text
    rw [readValue_succ, readValue_succ]
    cases skipSpace text with
    | nil => rfl
    | cons c rest => exact (readFrom_follows ih c).level depth other rest

section

variable {α : Type} {draft : α → Draft} {close : Char} {entry : Draft → α}
  {value : Nat → Nat → List Char → Draft × Option (List Char)}
  {read : Nat → Nat → List Char → List α × Option Flaw × Option (List Char)}

theorem bodyEnd_stops (hread : FollowsBody draft (read fuel)) {a : α} (ha : (draft a).skip = none)
    (depth : Nat) (text : List Char) :
    Draft.skipItems (bodyEnd close (fun fuel => read fuel depth) a fuel text).2.1
        ((bodyEnd close (fun fuel => read fuel depth) a fuel text).1.map draft) = none ↔
      (bodyEnd close (fun fuel => read fuel depth) a fuel text).2.2.isSome := by
  cases text with
  | nil => simp [bodyEnd, Draft.skipItems, ha, Flaw.fatal]
  | cons c rest =>
      rw [bodyEnd]
      split
      · simp [Draft.skipItems, ha]
      · split
        · simpa [Draft.skipItems, ha] using hread.stops depth rest
        · simp [Draft.skipItems, ha, Flaw.fatal]

theorem bodyEnd_level (hread : FollowsBody draft (read fuel)) (a b : α) (depth other : Nat)
    (text : List Char) :
    (bodyEnd close (fun fuel => read fuel depth) a fuel text).2.2 =
      (bodyEnd close (fun fuel => read fuel other) b fuel text).2.2 := by
  cases text with
  | nil => rfl
  | cons c rest =>
      rw [bodyEnd, bodyEnd]
      split
      · rfl
      · split
        · exact hread.level depth other rest
        · rfl

theorem bodyStep_follows (close : Char) (hentry : ∀ d, draft (entry d) = d)
    (hvalue : FollowsValue (value fuel)) (hread : FollowsBody draft (read fuel)) :
    FollowsBody draft fun depth =>
      bodyStep close (fun fuel => value fuel depth) entry (fun fuel => read fuel depth) fuel := by
  constructor
  · intro depth text
    have hstops := hvalue.stops depth text
    rw [bodyStep]
    rcases hread' : value fuel depth text with ⟨d, _ | after⟩ <;> rw [hread'] at hstops
    · simpa [Draft.skipItems, hentry] using hstops
    · refine bodyEnd_stops hread ?_ depth (skipSpace after)
      rw [hentry]
      exact hstops.mpr rfl
  · intro depth other text
    have hlevel := hvalue.level depth other text
    rw [bodyStep, bodyStep]
    rcases hhere : value fuel depth text with ⟨d, stop⟩
    rcases hthere : value fuel other text with ⟨e, stop'⟩
    rw [hhere, hthere] at hlevel
    obtain rfl : stop = stop' := hlevel
    cases stop with
    | none => rfl
    | some after => exact bodyEnd_level hread (entry d) (entry e) depth other (skipSpace after)

end

/-- A reader that passes blanks and reads on. -/
theorem FollowsBody.skipSpace {α : Type} {draft : α → Draft}
    {read next : Nat → List Char → List α × Option Flaw × Option (List Char)}
    (h : FollowsBody draft next)
    (hread : ∀ depth text, read depth text = next depth (skipSpace text)) :
    FollowsBody draft read := by
  constructor
  · intro depth text
    rw [hread]
    exact h.stops depth _
  · intro depth other text
    rw [hread, hread]
    exact h.level depth other _

theorem ReadersFollow.item_succ (ih : ReadersFollow fuel) :
    FollowsBody id (readItem (fuel + 1)) := by
  have h : FollowsBody id fun depth =>
      bodyStep ']' (fun fuel => readValue fuel depth) id (fun fuel => readItem fuel depth) fuel :=
    bodyStep_follows ']' (fun _ => rfl) ih.value ih.item
  constructor
  · intro depth text
    rw [readItem_succ]
    exact h.stops depth text
  · intro depth other text
    rw [readItem_succ, readItem_succ]
    exact h.level depth other text

theorem itemsFrom_follows (ih : ReadersFollow fuel) :
    FollowsBody id fun depth => itemsFrom depth fuel := by
  constructor
  · intro depth text
    fun_cases itemsFrom depth fuel text with
    | case1 => simp [Draft.skipItems, Flaw.fatal]
    | case2 => simp [Draft.skipItems]
    | case3 => exact ih.item.stops depth text
  · intro depth other text
    unfold itemsFrom
    split
    case h_3 => exact ih.item.level depth other text
    all_goals rfl

theorem ReadersFollow.items_succ (ih : ReadersFollow fuel) :
    FollowsBody id (readItems (fuel + 1)) :=
  (itemsFrom_follows ih).skipSpace fun depth text => readItems_succ fuel depth text

theorem membersFrom_follows (ih : ReadersFollow fuel) :
    FollowsBody Prod.snd fun depth => membersFrom depth fuel := by
  constructor
  · intro depth text
    fun_cases membersFrom depth fuel text with
    | case1 => simp [Draft.skipItems]
    | case2 => exact ih.member.stops depth text
  · intro depth other text
    unfold membersFrom
    split
    · rfl
    · exact ih.member.level depth other text

theorem ReadersFollow.members_succ (ih : ReadersFollow fuel) :
    FollowsBody Prod.snd (readMembers (fuel + 1)) :=
  (membersFrom_follows ih).skipSpace fun depth text => readMembers_succ fuel depth text

theorem memberFrom_follows (ih : ReadersFollow fuel) :
    FollowsBody Prod.snd fun depth => memberFrom depth fuel := by
  have hstep (name : Except Cause String) : FollowsBody Prod.snd fun depth =>
      bodyStep '\x7d' (fun fuel => readMemberValue fuel depth) (name, ·)
        (fun fuel => readMember fuel depth) fuel :=
    bodyStep_follows '\x7d' (fun _ => rfl) ih.memberValue ih.member
  constructor
  · intro depth text
    fun_cases memberFrom depth fuel text with
    | case4 rest name after hname => exact (hstep name).stops depth after
    | _ => simp [Draft.skipItems, Flaw.fatal]
  · intro depth other text
    unfold memberFrom
    split
    · rfl
    · split
      case h_3 => exact (hstep _).level depth other _
      all_goals rfl
    · rfl

theorem ReadersFollow.member_succ (ih : ReadersFollow fuel) :
    FollowsBody Prod.snd (readMember (fuel + 1)) :=
  (memberFrom_follows ih).skipSpace fun depth text => readMember_succ fuel depth text

theorem ReadersFollow.memberValue_succ (ih : ReadersFollow fuel) :
    FollowsValue (readMemberValue (fuel + 1)) := by
  constructor
  · intro depth text
    rw [readMemberValue_succ]
    fun_cases memberValueFrom depth fuel (skipSpace text) with
    | case2 rest => exact ih.value.stops depth rest
    | _ => simp [Draft.skip, Flaw.fatal]
  · intro depth other text
    rw [readMemberValue_succ, readMemberValue_succ]
    unfold memberValueFrom
    split
    case h_2 => exact ih.value.level depth other _
    all_goals rfl

theorem readersFollow (fuel : Nat) : ReadersFollow fuel := by
  induction fuel with
  | zero =>
      -- without fuel nothing is read
      constructor <;> constructor <;> intros <;>
        simp [readValue, readItems, readItem, readMembers, readMember, readMemberValue, Draft.skip,
          Draft.skipItems, Flaw.fatal]
  | succ fuel ih =>
      exact ⟨ih.value_succ, ih.items_succ, ih.item_succ, ih.members_succ, ih.member_succ,
        ih.memberValue_succ⟩

/-- What comes before a success has succeeded. -/
theorem exists_of_bind_ok {α β : Type} {x : Except Cause α} {next : α → Except Cause β} {b : β}
    (h : x >>= next = .ok b) : ∃ a, x = .ok a ∧ next a = .ok b := by
  cases x with
  | error cause => cases h
  | ok a => exact ⟨a, rfl, h⟩

theorem skipped_of_close {ending : Option Flaw} (h : Draft.close ending = .ok ()) :
    ending.bind Flaw.skipped = none := by
  cases ending with
  | none => rfl
  | some flaw => cases h

mutual

/-- A draft that spells a value has no flaw. -/
theorem skip_of_value {d : Draft} {v : Value} (h : d.value = .ok v) : d.skip = none := by
  match d with
  | .null | .bool _ | .number _ | .text _ => rw [Draft.skip]
  | .flawed _ => cases h
  | .list items ending =>
      obtain ⟨vs, hitems, h⟩ := exists_of_bind_ok h
      obtain ⟨_, hending, -⟩ := exists_of_bind_ok h
      rw [Draft.skip]
      exact skipItems_of_values hitems hending
  | .object members ending =>
      obtain ⟨vs, hmembers, h⟩ := exists_of_bind_ok h
      obtain ⟨_, hending, -⟩ := exists_of_bind_ok h
      rw [Draft.skip]
      exact skipMembers_of_values hmembers hending

theorem skipItems_of_values {items : List Draft} {vs : List Value}
    (h : Draft.valueItems items = .ok vs) {ending : Option Flaw}
    (hending : Draft.close ending = .ok ()) : Draft.skipItems ending items = none := by
  match items with
  | [] => exact skipped_of_close hending
  | d :: rest =>
      obtain ⟨v, hv, h⟩ := exists_of_bind_ok h
      obtain ⟨vs, hvs, -⟩ := exists_of_bind_ok h
      rw [Draft.skipItems, skip_of_value hv, Option.none_or]
      exact skipItems_of_values hvs hending

theorem skipMembers_of_values {members : List (Except Cause String × Draft)}
    {vs : List (String × Value)} (h : Draft.valueMembers members = .ok vs) {ending : Option Flaw}
    (hending : Draft.close ending = .ok ()) : Draft.skipMembers ending members = none := by
  match members with
  | [] => exact skipped_of_close hending
  | (name, d) :: rest =>
      obtain ⟨_, -, h⟩ := exists_of_bind_ok h
      obtain ⟨v, hv, h⟩ := exists_of_bind_ok h
      obtain ⟨vs, hvs, -⟩ := exists_of_bind_ok h
      rw [Draft.skipMembers, skip_of_value hv, Option.none_or]
      exact skipMembers_of_values hvs hending

end

end BillingAccess.Json
