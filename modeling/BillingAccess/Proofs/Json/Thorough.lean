/-
What is read can also be passed over.

No codec looks at less of a draft than skipping does: where it succeeds there
is no flaw that would stop a reader.  So a record is read from well-formed texts
only.
-/
import BillingAccess.Proofs.Json.Record
import BillingAccess.Proofs.Json.Skipped

namespace BillingAccess.Json

variable {α R : Type} {c : Codec α}

/-- What is read without a fault has no flaw that would stop a reader. -/
class Codec.Thorough (c : Codec α) : Prop where
  skip_of_read {d : Draft} {a : α} (h : c.read d = .ok a) : d.skip = none

/-- The same of a field. -/
def Field.Thorough (field : Field R) : Prop :=
  ∀ d r s, field.read d r = .ok s → d.skip = none

namespace Codec

theorem map_eq_ok {β : Type} {x : Except Cause α} {f : α → β} {b : β} (h : x.map f = .ok b) :
    ∃ a, x = .ok a ∧ f a = b := by
  cases x with
  | error cause => cases h
  | ok a => exact ⟨a, rfl, Except.ok.inj h⟩

instance text_thorough : text.Thorough where
  skip_of_read {d _} h := by
    cases d with
    | text s => rw [Draft.skip]
    | _ => cases h

instance bool_thorough : bool.Thorough where
  skip_of_read {d _} h := by
    cases d with
    | bool b => rw [Draft.skip]
    | _ => cases h

instance real_thorough : real.Thorough where
  skip_of_read {d _} h := by
    cases d with
    | number n => rw [Draft.skip]
    | _ => cases h

theorem skip_of_readWhole {least greatest n : Int} {d : Draft}
    (h : readWhole least greatest d = .ok n) : d.skip = none := by
  cases d with
  | number n => rw [Draft.skip]
  | _ => cases h

instance count_thorough : count.Thorough where
  skip_of_read h := by
    obtain ⟨n, hn, -⟩ := map_eq_ok h
    exact skip_of_readWhole hn

instance int32_thorough : int32.Thorough where
  skip_of_read h := by
    obtain ⟨n, hn, -⟩ := map_eq_ok h
    exact skip_of_readWhole hn

instance int64_thorough : int64.Thorough where
  skip_of_read h := by
    obtain ⟨n, hn, -⟩ := map_eq_ok h
    exact skip_of_readWhole hn

instance value_thorough : value.Thorough :=
  ⟨skip_of_value⟩

variable [hc : c.Thorough]

instance option_thorough : c.option.Thorough where
  skip_of_read {d _} h := by
    by_cases hnull : d = .null
    · rw [hnull, Draft.skip]
    · rw [option_read_of_ne hnull] at h
      obtain ⟨b, hb, -⟩ := map_eq_ok h
      exact hc.skip_of_read hb

theorem skipItems_of_readList {ending : Option Flaw} {items : List Draft}
    {as : List α} (hread : readList c ending items = .ok as) :
    Draft.skipItems ending items = none := by
  induction items generalizing as with
  | nil =>
      obtain ⟨_, hending, -⟩ := exists_of_bind_ok hread
      exact skipped_of_close hending
  | cons d rest ih =>
      obtain ⟨a, ha, hread⟩ := exists_of_bind_ok hread
      obtain ⟨as, hrest, -⟩ := exists_of_bind_ok hread
      rw [Draft.skipItems, hc.skip_of_read ha, Option.none_or, ih hrest]

instance list_thorough : (list c).Thorough where
  skip_of_read {d _} h := by
    cases d with
    | list items ending =>
        rw [Draft.skip]
        exact skipItems_of_readList h
    | _ => cases h

theorem skipMembers_of_readEntries {ending : Option Flaw}
    {members : List (Except Cause String × Draft)} {entries : List (String × α)}
    (hread : readEntries c ending members = .ok entries) :
    Draft.skipMembers ending members = none := by
  induction members generalizing entries with
  | nil =>
      obtain ⟨_, hending, -⟩ := exists_of_bind_ok hread
      exact skipped_of_close hending
  | cons member rest ih =>
      obtain ⟨_, -, hread⟩ := exists_of_bind_ok hread
      obtain ⟨a, ha, hread⟩ := exists_of_bind_ok hread
      obtain ⟨_, hrest, -⟩ := exists_of_bind_ok hread
      rw [Draft.skipMembers, hc.skip_of_read ha, Option.none_or, ih hrest]

instance dictionary_thorough : (dictionary c).Thorough where
  skip_of_read {d _} h := by
    cases d with
    | object members ending =>
        obtain ⟨_, hentries, -⟩ := map_eq_ok h
        rw [Draft.skip]
        exact skipMembers_of_readEntries hentries
    | _ => cases h

end Codec

section

variable [hc : c.Thorough] {name : String}

@[simp] theorem Field.of_thorough {get : R → α} {set : α → R → R} :
    (Field.of name c get set).Thorough := by
  intro d r s h
  obtain ⟨a, ha, -⟩ := Codec.map_eq_ok h
  exact hc.skip_of_read ha

@[simp] theorem Field.omitted_thorough {get : R → Option α} {set : Option α → R → R} :
    (Field.omitted name c get set).Thorough := by
  intro d r s h
  obtain ⟨a, ha, -⟩ := Codec.map_eq_ok h
  exact Codec.option_thorough.skip_of_read ha

end

variable {fields : List (Field R)}

/-- Members that are read can be passed over, and have names. -/
theorem skipMembers_of_readMembers (h : ∀ field ∈ fields, field.Thorough) {required : List String}
    {ending : Option Flaw} {seen : List String} {r v : R}
    {members : List (Except Cause String × Draft)}
    (hread : Record.readMembers fields required ending seen r members = .ok v) :
    Draft.skipMembers ending members = none ∧ ∀ m ∈ members, ∃ name, m.1 = .ok name := by
  induction members generalizing seen r with
  | nil =>
      obtain ⟨_, hending, -⟩ := exists_of_bind_ok hread
      exact ⟨skipped_of_close hending, nofun⟩
  | cons member rest ih =>
      rw [Record.readMembers] at hread
      obtain ⟨name, hname, hread⟩ := exists_of_bind_ok hread
      cases hfind : fields.find? (·.name == name) with
      | some field =>
          simp only [hfind] at hread
          split at hread
          · cases hread
          obtain ⟨s, hs, hread⟩ := exists_of_bind_ok hread
          obtain ⟨hrest, hnames⟩ := ih hread
          have hd := h field (List.mem_of_find?_eq_some hfind) member.2 r s hs
          rw [Draft.skipMembers, hd, Option.none_or, hrest]
          exact ⟨rfl, List.forall_mem_cons.mpr ⟨⟨name, hname⟩, hnames⟩⟩
      | none =>
          simp only [hfind] at hread
          cases hd : member.2.skip with
          | some cause => simp [hd] at hread
          | none =>
              simp only [hd] at hread
              obtain ⟨hrest, hnames⟩ := ih hread
              rw [Draft.skipMembers, hd, Option.none_or, hrest]
              exact ⟨rfl, List.forall_mem_cons.mpr ⟨⟨name, hname⟩, hnames⟩⟩

theorem skipItems_of_readItems (h : ∀ field ∈ fields, field.Thorough) {lenient : Bool}
    {ending : Option Flaw} {r v : R} {items : List Draft}
    (hread : Record.readItems lenient ending fields r items = .ok v) :
    Draft.skipItems ending items = none := by
  induction items generalizing fields r with
  | nil =>
      cases fields <;>
      · obtain ⟨_, hending, -⟩ := exists_of_bind_ok hread
        exact skipped_of_close hending
  | cons d rest ih =>
      cases fields with
      | nil => cases hread
      | cons field fields =>
          obtain ⟨hfield, hfields⟩ := List.forall_mem_cons.mp h
          obtain ⟨s, hs, hread⟩ := exists_of_bind_ok hread
          rw [Draft.skipItems, hfield d r s hs, Option.none_or, ih hfields hread]

theorem Record.thorough {record : Record R} (h : ∀ field ∈ record.fields, field.Thorough) :
    record.codec.Thorough where
  skip_of_read {d _} hread := by
    cases d with
    | object members ending =>
        rw [Draft.skip]
        exact (skipMembers_of_readMembers h hread).1
    | list items ending =>
        rw [Draft.skip]
        exact skipItems_of_readItems h hread
    | _ => cases hread

end BillingAccess.Json
