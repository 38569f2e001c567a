/-
The text of an object, member by member.

Any text whose value can be skipped may be the value of a member, and any
quoted text its name; blanks may stand around both.  The object is read as the
members one after the other, whatever their order, and what is read for a
member does not depend on the others.
-/
import BillingAccess.Proofs.Json.Compact
import BillingAccess.Proofs.Json.Skipped
import Mathlib.Data.List.DropRight

namespace BillingAccess.Json

open BillingAccess.Decimal

/-- Reads a draft that is not looked at. -/
def Draft.pass (d : Draft) : Except Cause Unit :=
  match d.skip with
  | none => .ok ()
  | some cause => .error cause

/-- A member as it is spelled: the text of its name and that of its value, each
with the blanks around it. -/
structure Entry where
  name : String
  key : List Char
  value : List Char
deriving Repr, DecidableEq

namespace Entry

/-- The texts are those of a name and of a value. -/
structure Spelled (m : Entry) : Prop where
  key : decodeText Draft.value m.key = .ok (.text m.name)
  value : decodeText Draft.pass m.value = .ok ()

/-- The value is one that is accepted by itself. -/
structure Accepted (m : Entry) : Prop where
  key : decodeText Draft.value m.key = .ok (.text m.name)
  value : ∃ v, decodeText Draft.value m.value = .ok v

/-- What the value is read as inside of an object. -/
def draft (m : Entry) : Draft :=
  (readValue (3 * m.value.length + 3) (greatestDepth - 1) m.value).1

/-- The member that the text is read as. -/
def member (m : Entry) : Except Cause String × Draft :=
  (.ok m.name, m.draft)

def text (m : Entry) : List Char :=
  m.key ++ ':' :: m.value

end Entry

/-- The blanks before an object, after its opening brace and behind it. -/
structure Layout where
  lead : List Char
  gap : List Char
  trail : List Char
  blank : ∀ c ∈ lead ++ gap ++ trail, isSpace c = true

/-- The text of an object with these members. -/
def objectText (layout : Layout) (members : List Entry) : List Char :=
  layout.lead ++ '\x7b' :: (layout.gap ++ ([','].intercalate (members.map Entry.text) ++
    '\x7d' :: layout.trail))

theorem decode_eq_ok {α : Type} {read : Draft → Except Cause α} {document : Document} {a : α}
    (h : document.decode read = .ok a) :
    read document.root = .ok a ∧ document.trailing = false := by
  obtain ⟨b, hread, h⟩ := exists_of_bind_ok h
  cases htrailing : document.trailing with
  | true =>
      rw [htrailing] at h
      cases h
  | false =>
      rw [htrailing] at h
      cases h
      exact ⟨hread, rfl⟩

/-- A text that is read as a whole: its value stops before blanks at the end. -/
theorem exists_of_decodeText {α : Type} {read : Draft → Except Cause α} {text : List Char} {a : α}
    (h : decodeText read text = .ok a) (hskip : ∀ d, read d = .ok a → d.skip = none) :
    ∃ d blanks, readValue (3 * text.length + 3) greatestDepth text = (d, some blanks) ∧
      read d = .ok a ∧ skipSpace blanks = [] := by
  obtain ⟨hroot, htrailing⟩ := decode_eq_ok h
  have hstops := (readersFollow (3 * text.length + 3)).value.stops greatestDepth text
  rw [Document.ofText] at hroot htrailing
  rcases hread : readValue (3 * text.length + 3) greatestDepth text with ⟨d, after⟩
  rw [hread] at hroot htrailing hstops
  obtain ⟨blanks, rfl⟩ := Option.isSome_iff_exists.mp (hstops.mp (hskip d hroot))
  exact ⟨d, blanks, rfl, hroot, by simpa using htrailing⟩

theorem pass_eq_ok_iff (d : Draft) : d.pass = .ok () ↔ d.skip = none := by
  rw [Draft.pass]
  cases d.skip <;> simp

/-- A text that is read can be passed over. -/
theorem decodeText_pass {α : Type} {read : Draft → Except Cause α} {text : List Char} {a : α}
    (h : decodeText read text = .ok a) (hskip : ∀ d, read d = .ok a → d.skip = none) :
    decodeText Draft.pass text = .ok () := by
  obtain ⟨hroot, htrailing⟩ := decode_eq_ok h
  rw [decodeText, Document.decode, (pass_eq_ok_iff _).mpr (hskip _ hroot), htrailing]
  rfl

theorem Entry.Accepted.spelled {m : Entry} (h : m.Accepted) : m.Spelled := by
  obtain ⟨v, hv⟩ := h.value
  exact ⟨h.key, decodeText_pass hv fun _ => skip_of_value⟩

/-- What comes next after a member. -/
def EndsMember (c : Char) : Prop :=
  c = ',' ∨ c = '\x7d'

theorem EndsMember.endsNumeral {c : Char} (h : EndsMember c) (rest : List Char) :
    EndsNumeral (c :: rest) := by
  rcases h with rfl | rfl <;> exact endsNumeral_cons (by decide) rest

/-- Inside of an object the value is read to its end as it is by itself. -/
theorem Entry.Spelled.read {m : Entry} (h : m.Spelled) :
    ∃ blanks, Json.readValue (3 * m.value.length + 3) (greatestDepth - 1) m.value =
      (m.draft, some blanks) ∧ skipSpace blanks = [] := by
  obtain ⟨d, blanks, hread, -, hblanks⟩ :=
    exists_of_decodeText h.value fun d hd => (pass_eq_ok_iff d).mp hd
  have hlevel := (readersFollow (3 * m.value.length + 3)).value.level (greatestDepth - 1)
    greatestDepth m.value
  rw [hread] at hlevel
  exact ⟨blanks, Prod.ext rfl hlevel, hblanks⟩

theorem Entry.Spelled.skip_draft {m : Entry} (h : m.Spelled) : m.draft.skip = none := by
  obtain ⟨blanks, hread, -⟩ := h.read
  have hstops := (readersFollow (3 * m.value.length + 3)).value.stops (greatestDepth - 1) m.value
  rw [hread] at hstops
  exact hstops.mpr rfl

theorem Entry.Spelled.readValue {m : Entry} (h : m.Spelled) {fuel : Nat}
    (hfuel : 3 * m.value.length + 3 ≤ fuel) {c : Char} (hc : EndsMember c) (rest : List Char) :
    ∃ blanks, Json.readValue fuel (greatestDepth - 1) (m.value ++ c :: rest) =
        (m.draft, some (blanks ++ c :: rest)) ∧ skipSpace (blanks ++ c :: rest) = c :: rest := by
  obtain ⟨blanks, hread, hblanks⟩ := h.read
  obtain ⟨used, hvalue, hused⟩ :=
    (readersTake (3 * m.value.length + 3)).value (greatestDepth - 1) hread
  have hfollow : MayFollow blanks (blanks ++ c :: rest) := by
    cases blanks with
    | nil => exact Or.inr (hc.endsNumeral rest)
    | cons b blanks => exact Or.inl rfl
  have htaken := hused fuel _ hfuel hfollow
  rw [← List.append_assoc, ← hvalue] at htaken
  refine ⟨blanks, htaken, ?_⟩
  rw [skipSpace_blanks hblanks]
  rcases hc with rfl | rfl <;> rfl

theorem eq_text_of_value {d : Draft} {s : String} (h : d.value = .ok (.text s)) : d = .text s := by
  cases d with
  | text t => cases h; rfl
  | list items ending =>
      obtain ⟨_, -, h⟩ := exists_of_bind_ok h
      obtain ⟨_, -, h⟩ := exists_of_bind_ok h
      cases h
  | object members ending =>
      obtain ⟨_, -, h⟩ := exists_of_bind_ok h
      obtain ⟨_, -, h⟩ := exists_of_bind_ok h
      cases h
  | _ => cases h

theorem eq_text_of_readWord {draft : Draft} {word text : List Char} {s : String}
    (h : (readWord draft word text).1 = .text s) : draft = .text s := by
  fun_induction readWord draft word text with
  | case1 => exact h
  | case2 | case4 => cases h
  | case3 _ _ _ ih => exact ih h

theorem readNumber_ne_text {negative : Bool} {text : List Char} {s : String} :
    (readNumber negative text).1 ≠ .text s := by
  fun_cases readNumber negative text <;> simp

theorem eq_text_of_ite_tooDeep {depth : Nat} {d : Draft} {s : String}
    (h : (if depth = 0 then tooDeep d else d) = .text s) : d = .text s := by
  split at h
  · cases h
  · exact h

theorem readText_of_readTextValue {text stop : List Char} {s : String}
    (h : readTextValue text = (.text s, some stop)) : readText text = (.ok s, .ok stop) := by
  fun_cases readTextValue text with
  | case1 t after hread =>
      simp only [readTextValue, hread, Prod.mk.injEq, Draft.text.injEq, Option.some.injEq] at h
      obtain ⟨rfl, rfl⟩ := h
      exact hread
  | _ => simp [readTextValue, *] at h

/-- Only quotes start a text. -/
theorem readText_of_readFrom {depth fuel : Nat} {c : Char} {text stop : List Char} {s : String}
    (h : readFrom depth c fuel text = (.text s, some stop)) :
    c = '"' ∧ readText text = (.ok s, .ok stop) := by
  fun_cases readFrom depth c fuel text with
  | case4 => exact ⟨rfl, readText_of_readTextValue h⟩
  | case1 | case2 | case3 => cases eq_text_of_readWord (congrArg Prod.fst h)
  | case5 => exact absurd (congrArg Prod.fst h) readNumber_ne_text
  | case6 _ _ _ hitems =>
      simp only [readFrom, hitems] at h
      cases eq_text_of_ite_tooDeep (congrArg Prod.fst h)
  | case7 _ _ _ hmembers =>
      simp only [readFrom, hmembers] at h
      cases eq_text_of_ite_tooDeep (congrArg Prod.fst h)
  | case8 _ _ _ _ _ _ _ _ hdigit =>
      rw [readFrom_digit hdigit] at h
      exact absurd (congrArg Prod.fst h) readNumber_ne_text
  | case9 => simp [readFrom, *] at h

theorem Entry.Spelled.readKey {m : Entry} (h : m.Spelled) (rest : List Char) :
    ∃ quoted blanks, skipSpace (m.key ++ rest) = '"' :: (quoted ++ rest) ∧
      readText (quoted ++ rest) = (.ok m.name, .ok (blanks ++ rest)) ∧ skipSpace blanks = [] := by
  obtain ⟨d, blanks, hread, hd, hblanks⟩ := exists_of_decodeText h.key fun d => skip_of_value
  rw [eq_text_of_value hd, readValue_succ] at hread
  cases hstart : skipSpace m.key with
  | nil =>
      rw [hstart] at hread
      exact absurd hread (valueFrom_nil _ _)
  | cons c quoted =>
      rw [hstart] at hread
      obtain ⟨rfl, htext⟩ := readText_of_readFrom hread
      obtain ⟨before, hkey, -, hskip⟩ := exists_blanks_of_cons hstart
      obtain ⟨used, rfl, hused⟩ := readText_takes htext
      refine ⟨used ++ blanks, blanks, ?_, ?_, hblanks⟩
      · rw [hkey, List.append_assoc, List.cons_append, hskip]
      · rw [List.append_assoc, hused]

/-- A member is read up to what ends it. -/
theorem Entry.Spelled.readMember {m : Entry} (h : m.Spelled) {fuel : Nat}
    (hfuel : 3 * m.value.length + 3 ≤ fuel) {c : Char} (hc : EndsMember c) (rest : List Char) :
    Json.readMember (fuel + 2) (greatestDepth - 1) (m.text ++ c :: rest) =
      bodyEnd '\x7d' (fun fuel => Json.readMember fuel (greatestDepth - 1)) m.member (fuel + 1)
        (c :: rest) := by
  obtain ⟨quoted, before, hstart, hname, hbefore⟩ := h.readKey (':' :: (m.value ++ c :: rest))
  obtain ⟨after, hvalue, hafter⟩ := h.readValue hfuel hc rest
  have hcolon : skipSpace (before ++ ':' :: (m.value ++ c :: rest)) =
      ':' :: (m.value ++ c :: rest) := by
    rw [skipSpace_blanks hbefore]
    rfl
  have hread : readMemberValue (fuel + 1) (greatestDepth - 1)
      (before ++ ':' :: (m.value ++ c :: rest)) = (m.draft, some (after ++ c :: rest)) := by
    rw [readMemberValue_succ, hcolon, memberValueFrom, hvalue]
  rw [readMember_succ, Entry.text, List.append_assoc, List.cons_append, hstart]
  simp only [memberFrom, hname, bodyStep, hread, hafter]
  rfl

theorem intercalate_text_cons (m next : Entry) (ms : List Entry) :
    [','].intercalate ((m :: next :: ms).map Entry.text) =
      m.text ++ ',' :: [','].intercalate ((next :: ms).map Entry.text) := by
  simp [List.intercalate]

theorem readMember_entries {ms : List Entry} (hne : ms ≠ []) (h : ∀ m ∈ ms, m.Spelled)
    {fuel : Nat} (hfuel : 3 * ([','].intercalate (ms.map Entry.text)).length + 2 ≤ fuel)
    (trail : List Char) :
    readMember fuel (greatestDepth - 1)
        ([','].intercalate (ms.map Entry.text) ++ '\x7d' :: trail) =
      (ms.map Entry.member, none, some trail) := by
  induction ms generalizing fuel with
  | nil => contradiction
  | cons m ms ih =>
      obtain ⟨hm, hms⟩ := List.forall_mem_cons.mp h
      cases ms with
      | nil =>
          have htext : [','].intercalate ([m].map Entry.text) = m.text := by simp [List.intercalate]
          rw [htext, Entry.text, List.length_append, List.length_cons] at hfuel
          obtain ⟨fuel, rfl⟩ : ∃ spare, fuel = spare + 2 := ⟨fuel - 2, by omega⟩
          rw [htext, hm.readMember (by omega) (Or.inr rfl), bodyEnd_close]
          rfl
      | cons next ms =>
          rw [intercalate_text_cons, List.length_append, Entry.text, List.length_append,
            List.length_cons, List.length_cons] at hfuel
          obtain ⟨fuel, rfl⟩ : ∃ spare, fuel = spare + 2 := ⟨fuel - 2, by omega⟩
          have hbound : 3 * ([','].intercalate ((next :: ms).map Entry.text)).length + 2 ≤
              fuel + 1 := by
            omega
          have hrest := ih (List.cons_ne_nil _ _) hms hbound
          rw [intercalate_text_cons, List.append_assoc, List.cons_append,
            hm.readMember (by omega) (Or.inl rfl), bodyEnd_comma (by decide), hrest]
          rfl

theorem skipSpace_of_blank {blanks : List Char} (h : ∀ c ∈ blanks, isSpace c = true) :
    skipSpace blanks = [] :=
  List.dropWhile_eq_nil_iff.mpr h

theorem readMember_skipSpace (fuel depth : Nat) (text : List Char) :
    readMember fuel depth (skipSpace text) = readMember fuel depth text := by
  cases fuel with
  | zero => rw [readMember, readMember]
  | succ fuel =>
      have hskip : skipSpace (skipSpace text) = skipSpace text := List.dropWhile_idempotent _ _
      rw [readMember_succ, readMember_succ, hskip]

/-- What stands between the braces. -/
theorem readMembers_entries {ms : List Entry} (h : ∀ m ∈ ms, m.Spelled) {gap : List Char}
    (hgap : skipSpace gap = []) {fuel : Nat}
    (hfuel : 3 * ([','].intercalate (ms.map Entry.text)).length + 3 ≤ fuel) (trail : List Char) :
    readMembers fuel (greatestDepth - 1)
        (gap ++ ([','].intercalate (ms.map Entry.text) ++ '\x7d' :: trail)) =
      (ms.map Entry.member, none, some trail) := by
  obtain ⟨fuel, rfl⟩ : ∃ spare, fuel = spare + 1 := ⟨fuel - 1, by omega⟩
  rw [readMembers_succ, skipSpace_blanks hgap]
  cases ms with
  | nil => rfl
  | cons m ms =>
      have hbound : 3 * ([','].intercalate ((m :: ms).map Entry.text)).length + 2 ≤ fuel := by omega
      have hread := readMember_entries (List.cons_ne_nil m ms) h hbound trail
      obtain ⟨more, hmore⟩ :
          ∃ more, [','].intercalate ((m :: ms).map Entry.text) = m.key ++ more := by
        cases ms with
        | nil => exact ⟨':' :: m.value, by simp [List.intercalate, Entry.text]⟩
        | cons next ms =>
            exact ⟨_, by rw [intercalate_text_cons, Entry.text, List.append_assoc]⟩
      obtain ⟨quoted, _, hstart, -⟩ :=
        (h m List.mem_cons_self).readKey (more ++ '\x7d' :: trail)
      rw [← List.append_assoc, ← hmore] at hstart
      rw [hstart, membersFrom_cons (by decide), ← hstart, readMember_skipSpace, hread]

theorem readValue_object {fuel : Nat} {text rest trail : List Char}
    {members : List (Except Cause String × Draft)} (htext : skipSpace text = '\x7b' :: rest)
    (h : readMembers fuel (greatestDepth - 1) rest = (members, none, some trail)) :
    readValue (fuel + 1) greatestDepth text = (.object members none, some trail) := by
  rw [readValue_succ, htext]
  simp only [valueFrom, readFrom, h]
  rfl

theorem ofText_objectText (layout : Layout) {ms : List Entry} (h : ∀ m ∈ ms, m.Spelled) :
    Document.ofText (objectText layout ms) = ⟨.object (ms.map Entry.member) none, false⟩ := by
  have hblank : ∀ c ∈ layout.lead ++ layout.gap ++ layout.trail, isSpace c = true := layout.blank
  simp only [List.forall_mem_append] at hblank
  obtain ⟨⟨hlead, hgap⟩, htrail⟩ := hblank
  have hlength : ([','].intercalate (ms.map Entry.text)).length <
      (objectText layout ms).length := by
    simp only [objectText, List.length_append, List.length_cons]
    omega
  have hbound : 3 * ([','].intercalate (ms.map Entry.text)).length + 3 ≤
      3 * (objectText layout ms).length + 2 := by
    omega
  have hstart : skipSpace (objectText layout ms) = '\x7b' :: (layout.gap ++
      ([','].intercalate (ms.map Entry.text) ++ '\x7d' :: layout.trail)) := by
    rw [objectText, skipSpace_blanks (skipSpace_of_blank hlead)]
    rfl
  have hread := readValue_object hstart
    (readMembers_entries h (skipSpace_of_blank hgap) hbound layout.trail)
  rw [Document.ofText, hread]
  simp [skipSpace_of_blank htrail]

/-- Reading the text of an object is reading its members. -/
theorem decodeText_objectText {α : Type} (layout : Layout) {ms : List Entry}
    (h : ∀ m ∈ ms, m.Spelled) (read : Draft → Except Cause α) :
    decodeText read (objectText layout ms) = read (.object (ms.map Entry.member) none) := by
  rw [decodeText, ofText_objectText layout h, Document.decode]
  simp

end BillingAccess.Json
