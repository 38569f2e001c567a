/-
Every text of an object is spelled by its members.

A text that starts an object and can be passed over is cut into the texts of
names and of values; each of them is read by itself as it is read in its place.
-/
import BillingAccess.Proofs.Json.Fuel
import BillingAccess.Proofs.Json.Objects

namespace BillingAccess.Json

open BillingAccess.Decimal

/-- A name is read by itself as it is before its colon. -/
theorem exists_key {text rest stop after : List Char} {name : String}
    (hstart : skipSpace text = '"' :: rest) (hname : readText rest = (.ok name, .ok stop))
    (hcolon : skipSpace stop = ':' :: after) :
    ∃ key, text = key ++ ':' :: after ∧ decodeText Draft.value key = .ok (.text name) := by
  obtain ⟨quoted, rfl, hquoted⟩ := readText_takes hname
  obtain ⟨before, rfl, -, hbefore⟩ := exists_blanks_of_cons hstart
  obtain ⟨behind, rfl, hbehind, -⟩ := exists_blanks_of_cons hcolon
  refine ⟨before ++ '"' :: (quoted ++ behind), by simp, ?_⟩
  have hread (fuel : Nat) : readValue (fuel + 1) greatestDepth
      (before ++ '"' :: (quoted ++ behind)) = (.text name, some behind) := by
    rw [readValue_succ, hbefore]
    simp only [valueFrom, readFrom, readTextValue, hquoted]
  rw [decodeText, Document.ofText, hread, Document.decode]
  simp [hbehind, Draft.value]

/-- A value is read to its end by itself as it is before a comma or a brace. -/
theorem exists_value {fuel depth : Nat} {text after rest : List Char} {d : Draft} {c : Char}
    (hread : readValue fuel depth text = (d, some after)) (hafter : skipSpace after = c :: rest) :
    ∃ value, text = value ++ c :: rest ∧ decodeText Draft.pass value = .ok () := by
  obtain ⟨used, rfl, hused⟩ := (readersTake fuel).value depth hread
  obtain ⟨blanks, rfl, hblanks, -⟩ := exists_blanks_of_cons hafter
  refine ⟨used ++ blanks, by simp, ?_⟩
  have hfollow : MayFollow (blanks ++ c :: rest) blanks := by
    cases blanks with
    | nil => exact Or.inr nofun
    | cons b blanks => exact Or.inl rfl
  -- enough for the place of the value and for the value by itself
  let more := max fuel (3 * (used ++ blanks).length + 3)
  have halone : readValue more depth (used ++ blanks) = (d, some blanks) :=
    hused more blanks (Nat.le_max_left ..) hfollow
  have hlevel := (readersFollow more).value.level greatestDepth depth (used ++ blanks)
  have hstops := (readersFollow more).value.stops greatestDepth (used ++ blanks)
  rw [halone] at hlevel
  rw [hlevel] at hstops
  rw [decodeText, ofText_eq (Nat.le_max_right fuel _), hlevel, Document.decode]
  change ((readValue more greatestDepth (used ++ blanks)).1.pass >>= _) = _
  rw [(pass_eq_ok_iff _).mpr (hstops.mpr rfl)]
  simp [hblanks]

/-- The names of members are texts. -/
def HaveNames (members : List (Except Cause String × Draft)) : Prop :=
  ∀ m ∈ members, ∃ name, m.1 = .ok name

theorem exists_colon {fuel depth : Nat} {text after : List Char} {d : Draft}
    (h : readMemberValue fuel depth text = (d, some after)) :
    ∃ less rest, skipSpace text = ':' :: rest ∧ readValue less depth rest = (d, some after) := by
  cases fuel with
  | zero => simp [readMemberValue] at h
  | succ fuel =>
      rw [readMemberValue_succ] at h
      generalize skipSpace text = start at h
      fun_cases memberValueFrom depth fuel start with
      | case2 rest => exact ⟨fuel, rest, rfl, h⟩
      | _ => simp [memberValueFrom, *] at h

/-- A member is spelled by an entry, up to the comma or the brace that ends
it. -/
theorem exists_entry {fuel depth : Nat} {text rest stop after : List Char} {name : String}
    {d : Draft} (hstart : skipSpace text = '"' :: rest)
    (hname : readText rest = (.ok name, .ok stop))
    (hvalue : readMemberValue fuel depth stop = (d, some after)) :
    ∀ c more, skipSpace after = c :: more →
      ∃ m : Entry, m.Spelled ∧ text = m.text ++ c :: more := by
  intro c more hafter
  obtain ⟨less, colon, hcolon, hread⟩ := exists_colon hvalue
  obtain ⟨key, rfl, hkey⟩ := exists_key hstart hname hcolon
  obtain ⟨value, rfl, hpass⟩ := exists_value hread hafter
  exact ⟨⟨name, key, value⟩, ⟨hkey, hpass⟩, by simp [Entry.text]⟩

theorem exists_entries {fuel depth : Nat} {text after : List Char}
    {members : List (Except Cause String × Draft)} {ending : Option Flaw}
    (h : readMember fuel depth text = (members, ending, some after)) (hnamed : HaveNames members) :
    ∃ ms, ms ≠ [] ∧ (∀ m ∈ ms, m.Spelled) ∧
      text = [','].intercalate (ms.map Entry.text) ++ '\x7d' :: after := by
  induction fuel generalizing text members with
  | zero => simp [readMember] at h
  | succ fuel ih =>
      rw [readMember_succ] at h
      generalize hstart : skipSpace text = start at h
      fun_cases memberFrom depth fuel start with
      | case4 rest result stop hname =>
          simp only [memberFrom, hname, bodyStep] at h
          rcases hvalue : readMemberValue fuel depth stop with ⟨d, _ | next⟩
          · simp [hvalue] at h
          · simp only [hvalue] at h
            cases hnext : skipSpace next with
            | nil => simp [hnext, bodyEnd] at h
            | cons c more =>
                rw [hnext] at h
                by_cases hc : c = '\x7d'
                · subst hc
                  rw [bodyEnd_close, Prod.mk.injEq, Prod.mk.injEq, Option.some.injEq] at h
                  obtain ⟨rfl, -, rfl⟩ := h
                  obtain ⟨name, rfl⟩ : ∃ name, result = .ok name :=
                    hnamed _ List.mem_cons_self
                  obtain ⟨m, hm, rfl⟩ := exists_entry hstart hname hvalue _ _ hnext
                  exact ⟨[m], by simp, by simpa using hm, by simp [List.intercalate]⟩
                · by_cases hcomma : c = ','
                  · subst hcomma
                    rw [bodyEnd_comma (by decide), Prod.mk.injEq] at h
                    obtain ⟨rfl, hrest⟩ := h
                    obtain ⟨name, rfl⟩ : ∃ name, result = .ok name :=
                      hnamed _ List.mem_cons_self
                    obtain ⟨m, hm, rfl⟩ := exists_entry hstart hname hvalue _ _ hnext
                    obtain ⟨ms, hne, hms, rfl⟩ := ih (Prod.ext rfl hrest)
                      fun m hm => hnamed m (List.mem_cons_of_mem _ hm)
                    obtain ⟨first, ms, rfl⟩ := List.exists_cons_of_ne_nil hne
                    refine ⟨m :: first :: ms, List.cons_ne_nil _ _,
                      List.forall_mem_cons.mpr ⟨hm, hms⟩, ?_⟩
                    rw [intercalate_text_cons, List.append_assoc, List.cons_append]
                  · simp [bodyEnd, hc, hcomma] at h
      | _ => simp [memberFrom, *] at h

theorem blank_of_skipSpace {blanks : List Char} (h : skipSpace blanks = []) :
    ∀ c ∈ blanks, isSpace c = true :=
  List.dropWhile_eq_nil_iff.mp h

theorem exists_layout {lead gap trail : List Char} (hlead : skipSpace lead = [])
    (hgap : skipSpace gap = []) (htrail : skipSpace trail = []) :
    ∃ layout : Layout, layout.lead = lead ∧ layout.gap = gap ∧ layout.trail = trail := by
  refine ⟨⟨lead, gap, trail, ?_⟩, rfl, rfl, rfl⟩
  simp only [List.forall_mem_append]
  exact ⟨⟨blank_of_skipSpace hlead, blank_of_skipSpace hgap⟩, blank_of_skipSpace htrail⟩

/-- What stands between the braces, with the blanks before it. -/
theorem exists_gap {fuel depth : Nat} {text after : List Char}
    {members : List (Except Cause String × Draft)} {ending : Option Flaw}
    (h : readMembers fuel depth text = (members, ending, some after)) (hnamed : HaveNames members) :
    ∃ (gap : List Char) (ms : List Entry), skipSpace gap = [] ∧ (∀ m ∈ ms, m.Spelled) ∧
      text = gap ++ ([','].intercalate (ms.map Entry.text) ++ '\x7d' :: after) := by
  cases fuel with
  | zero => simp [readMembers] at h
  | succ fuel =>
      rw [readMembers_succ] at h
      generalize hstart : skipSpace text = start at h
      fun_cases membersFrom depth fuel start with
      | case1 rest =>
          simp only [membersFrom, Prod.mk.injEq, Option.some.injEq] at h
          obtain ⟨rfl, -, rfl⟩ := h
          obtain ⟨gap, rfl, hgap, -⟩ := exists_blanks_of_cons hstart
          exact ⟨gap, [], hgap, List.forall_mem_nil _, rfl⟩
      | case2 other hother =>
          have hread : readMember fuel depth text = (members, ending, some after) := by
            rw [← readMember_skipSpace, hstart, ← h, membersFrom]
            exact hother
          obtain ⟨ms, -, hms, rfl⟩ := exists_entries hread hnamed
          exact ⟨[], ms, rfl, hms, rfl⟩

/-- A text that starts an object and can be passed over is that of some
members. -/
theorem exists_objectText {text rest : List Char} (hstart : skipSpace text = '\x7b' :: rest)
    (hpass : decodeText Draft.pass text = .ok ())
    (hnamed : ∀ members ending, (Document.ofText text).root = .object members ending →
      HaveNames members) :
    ∃ layout ms, (∀ m ∈ ms, m.Spelled) ∧ text = objectText layout ms := by
  obtain ⟨d, trail, hread, -, htrail⟩ :=
    exists_of_decodeText hpass fun d hd => (pass_eq_ok_iff d).mp hd
  have hroot : (Document.ofText text).root = d := by
    rw [Document.ofText, hread]
  rw [readValue_succ, hstart] at hread
  rcases hmembers : readMembers (3 * text.length + 2) (greatestDepth - 1) rest
    with ⟨members, ending, after⟩
  have hobject : d = .object members ending ∧ after = some trail := by
    simp only [valueFrom, readFrom, hmembers] at hread
    exact ⟨(Prod.mk.inj hread).1.symm, (Prod.mk.inj hread).2⟩
  obtain ⟨rfl, rfl⟩ := hobject
  obtain ⟨gap, ms, hgap, hms, rfl⟩ := exists_gap hmembers (hnamed members ending hroot)
  obtain ⟨lead, rfl, hlead, -⟩ := exists_blanks_of_cons hstart
  obtain ⟨layout, rfl, rfl, rfl⟩ := exists_layout hlead hgap htrail
  exact ⟨layout, ms, hms, rfl⟩

end BillingAccess.Json
