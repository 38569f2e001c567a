/-
A member that is `null`.

A field that may hold nothing reads `null` as if its member were missing.  A
field of any other kind refuses it, and the whole record with it.
-/
import BillingAccess.Proofs.Json.Parts

namespace BillingAccess.Json

variable {R : Type} {fields : List (Field R)} {parts : List (Record.Part R)}

/-- `null` is of the wrong kind. -/
class Codec.RefusesNull {α : Type} (c : Codec α) : Prop where
  read_null : c.read .null = .error .mismatched

instance Codec.text_refusesNull : text.RefusesNull := ⟨rfl⟩

instance Codec.real_refusesNull : real.RefusesNull := ⟨rfl⟩

instance Codec.list_refusesNull {α : Type} {c : Codec α} : (list c).RefusesNull := ⟨rfl⟩

instance Record.codec_refusesNull {record : Record R} : record.codec.RefusesNull := ⟨rfl⟩

def Field.RefusesNull (field : Field R) : Prop :=
  ∀ r, field.read .null r = .error .mismatched

/-- `null` leaves the empty record as it is. -/
def Field.ReadsNull (field : Field R) (empty : R) : Prop :=
  field.read .null empty = .ok empty

section

variable {α : Type} {name : String} {c : Codec α} {empty : R}

@[simp] theorem Field.of_name {get : R → α} {set : α → R → R} :
    (Field.of name c get set).name = name := rfl

@[simp] theorem Field.of_refusesNull [hc : c.RefusesNull] {get : R → α} {set : α → R → R} :
    (Field.of name c get set).RefusesNull := by
  intro r
  change (c.read .null).map (set · r) = _
  rw [hc.read_null]
  rfl

@[simp] theorem Field.of_option_readsNull {get : R → Option α} {set : Option α → R → R}
    (h : set none empty = empty) : (Field.of name c.option get set).ReadsNull empty :=
  congrArg Except.ok h

@[simp] theorem Field.omitted_readsNull {get : R → Option α} {set : Option α → R → R}
    (h : set none empty = empty) : (Field.omitted name c get set).ReadsNull empty :=
  congrArg Except.ok h

end

/-- The fields of these names refuse `null`, and all others read it as nothing. -/
def Record.NullsBut (record : Record R) (plain : List String) : Prop :=
  ∀ field ∈ record.fields,
    if field.name ∈ plain then field.RefusesNull else field.ReadsNull record.empty

/-- Behind a member that is read, all others are read as if the record began there. -/
theorem exists_readMembers_cons {m : String × Draft}
    {members : List (Except Cause String × Draft)} {seen : List String} {r v : R}
    (hv : Record.readMembers fields [] none seen r (asMember m :: members) = .ok v) :
    ∃ seen' s, (∀ name ∈ seen', name = m.1 ∨ name ∈ seen) ∧ ∀ others,
      Record.readMembers fields [] none seen r (asMember m :: others) =
        Record.readMembers fields [] none seen' s others := by
  rw [asMember, Record.readMembers] at hv
  cases hfind : fields.find? (·.name == m.1) with
  | some field =>
      simp only [bind, Except.bind, hfind] at hv
      by_cases hagain : seen.contains m.1 = true
      · rw [if_pos hagain] at hv
        cases hv
      · rw [if_neg hagain] at hv
        cases hread : field.read m.2 r with
        | error cause =>
            rw [hread] at hv
            cases hv
        | ok s =>
            refine ⟨m.1 :: seen, s, fun name => List.mem_cons.mp, fun others => ?_⟩
            rw [asMember, Record.readMembers]
            simp only [bind, Except.bind, hfind, if_neg hagain, hread]
  | none =>
      simp only [bind, Except.bind, hfind] at hv
      cases hskip : m.2.skip with
      | some cause =>
          rw [hskip] at hv
          cases hv
      | none =>
          refine ⟨seen, r, fun name => .inr, fun others => ?_⟩
          rw [asMember, Record.readMembers]
          simp only [bind, Except.bind, hfind, hskip]

/-- A member that its field refuses is met if all before it are read. -/
theorem readMembers_refused {front back : List (String × Draft)} {m : String × Draft}
    {field : Field R} {cause : Cause} (hfind : fields.find? (·.name == m.1) = some field)
    (hrefuses : ∀ r, field.read m.2 r = .error cause) {seen : List String}
    (hseen : m.1 ∉ seen) (hfront : m.1 ∉ front.map Prod.fst) {r v : R}
    (hv : Record.readMembers fields [] none seen r ((front ++ back).map asMember) = .ok v) :
    Record.readMembers fields [] none seen r ((front ++ m :: back).map asMember) =
      .error cause := by
  induction front generalizing seen r with
  | nil =>
      have hcontains : ¬seen.contains m.1 = true := by simpa using hseen
      rw [List.nil_append, List.map_cons, asMember, Record.readMembers]
      simp only [bind, Except.bind, hfind, if_neg hcontains, hrefuses]
  | cons n front ih =>
      rw [List.map_cons, List.mem_cons, not_or] at hfront
      rw [List.cons_append, List.map_cons] at hv ⊢
      obtain ⟨seen', s, hseen', hstep⟩ := exists_readMembers_cons hv
      rw [hstep] at hv ⊢
      refine ih ?_ hfront.2 hv
      intro hmem
      rcases hseen' m.1 hmem with hsame | hmem
      · exact hfront.1 hsame
      · exact hseen hmem

section

variable {record : Record R} {front back : List (String × Draft)} {field : Field R} {v : R}

/-- A member that leaves the empty record as it is makes no difference, wherever it stands. -/
theorem Record.Consists.read_idle (h : record.Consists parts) (hfield : field ∈ record.fields)
    {m : String × Draft} (hname : m.1 = field.name)
    (hidle : field.read m.2 record.empty = .ok record.empty)
    (hfresh : m.1 ∉ (front ++ back).map Prod.fst)
    (hv : record.read (.object ((front ++ back).map asMember) none) = .ok v) :
    record.read (.object ((front ++ m :: back).map asMember) none) = .ok v := by
  obtain ⟨hnames, hv⟩ := h.read_eq_ok_iff.mp hv
  have hperm : (m :: (front ++ back)).Perm (front ++ m :: back) := List.perm_middle.symm
  have hnodup : (fieldNames record.fields (m :: (front ++ back))).Nodup := by
    rw [fieldNames_cons_of_mem (hname ▸ List.mem_map_of_mem hfield), List.nodup_cons]
    exact ⟨fun hmem => hfresh (List.mem_filter.mp hmem).1, hnames⟩
  have hfind := find?_name (names_of_sets h.sets ▸ h.names) hfield
  have habsorb : absorb record.fields record.empty m = .ok record.empty := by
    rw [absorb, hname, hfind]
    exact hidle
  refine h.read_eq_ok_iff.mpr ⟨(fieldNames_perm hperm).nodup_iff.mp hnodup, ?_⟩
  refine absorbAll_perm h hperm hnodup ?_
  rw [absorbAll, List.foldlM_cons, habsorb]
  exact hv

theorem Record.Consists.read_refused (h : record.Consists parts) (hfield : field ∈ record.fields)
    {m : String × Draft} (hname : m.1 = field.name) {cause : Cause}
    (hrefuses : ∀ r, field.read m.2 r = .error cause)
    (hfresh : m.1 ∉ (front ++ back).map Prod.fst)
    (hv : record.read (.object ((front ++ back).map asMember) none) = .ok v) :
    record.read (.object ((front ++ m :: back).map asMember) none) = .error cause := by
  have hfind := find?_name (names_of_sets h.sets ▸ h.names) hfield
  rw [Record.read, h.required] at hv ⊢
  rw [List.map_append, List.mem_append, not_or] at hfresh
  exact readMembers_refused (hname ▸ hfind) hrefuses List.not_mem_nil hfresh.1 hv

end

theorem eq_null_of_value {d : Draft} (h : d.value = .ok .null) : d = .null := by
  cases d with
  | null => rfl
  | list items ending =>
      obtain ⟨_, -, h⟩ := exists_of_bind_ok h
      obtain ⟨_, -, h⟩ := exists_of_bind_ok h
      cases h
  | object members ending =>
      obtain ⟨_, -, h⟩ := exists_of_bind_ok h
      obtain ⟨_, -, h⟩ := exists_of_bind_ok h
      cases h
  | _ => cases h

/-- Only lists and objects are read according to their depth. -/
theorem readFrom_null {depth fuel : Nat} {c : Char} {text stop : List Char}
    (h : readFrom depth c fuel text = (.null, some stop)) (other : Nat) :
    readFrom other c fuel text = (.null, some stop) := by
  fun_cases readFrom depth c fuel text with
  | case6 items ending after hitems =>
      simp only [readFrom, hitems] at h
      split at h <;> cases h
  | case7 members ending after hmembers =>
      simp only [readFrom, hmembers] at h
      split at h <;> cases h
  | case8 _ _ _ _ _ _ _ _ hdigit =>
      rw [readFrom_digit hdigit] at h ⊢
      exact h
  | case9 => simp [readFrom, *] at h
  | _ => exact h

/-- The value is `null`. -/
structure Entry.Null (m : Entry) : Prop where
  key : decodeText Draft.value m.key = .ok (.text m.name)
  value : decodeText Draft.value m.value = .ok .null

theorem Entry.Null.spelled {m : Entry} (h : m.Null) : m.Spelled :=
  Accepted.spelled ⟨h.key, .null, h.value⟩

theorem Entry.Null.draft_eq {m : Entry} (h : m.Null) : m.draft = .null := by
  obtain ⟨d, blanks, hread, hd, -⟩ := exists_of_decodeText h.value fun _ => skip_of_value
  obtain rfl := eq_null_of_value hd
  rw [readValue_succ] at hread
  rw [Entry.draft, readValue_succ]
  cases hstart : skipSpace m.value with
  | nil =>
      rw [hstart] at hread
      exact absurd hread (valueFrom_nil _ _)
  | cons c rest =>
      rw [hstart] at hread
      exact congrArg Prod.fst (readFrom_null hread (greatestDepth - 1))

/-- An object that is read has a text that is spelled by members.  One more
member that is `null`, wherever it is put, makes no difference, or it is what
the record is refused for if its field is one of `plain`. -/
structure Record.TakesNulls (record : Record R) (plain : List String) : Prop where
  spelled {text : List Char} {v : R} (hstart : (skipSpace text).head? = some '\x7b')
    (hv : decodeText record.read text = .ok v) :
    ∃ layout ms, (∀ m ∈ ms, m.Spelled) ∧ text = objectText layout ms
  null (layout layout' : Layout) (front back : List Entry) {m : Entry} {v : R}
    (hms : ∀ e ∈ front ++ back, e.Spelled)
    (hv : decodeText record.read (objectText layout (front ++ back)) = .ok v)
    (hm : m.Null) (hfield : m.name ∈ record.fields.map Field.name)
    (hfresh : m.name ∉ (front ++ back).map Entry.name) :
    decodeText record.read (objectText layout' (front ++ m :: back)) =
      if m.name ∈ plain then .error .mismatched else .ok v

theorem Record.Consists.takesNulls {record : Record R} {plain : List String}
    (h : record.Consists parts) (hnulls : record.NullsBut plain) : record.TakesNulls plain := by
  refine ⟨h.exists_objectText, ?_⟩
  intro layout layout' front back m v hms hv hm hfield hfresh
  have hspelled : ∀ e ∈ front ++ m :: back, e.Spelled := by
    intro e he
    rcases List.mem_cons.mp (List.perm_middle.mem_iff.mp he) with rfl | he
    · exact hm.spelled
    · exact hms e he
  have hread : m.read = (m.name, .null) := by rw [Entry.read, hm.draft_eq]
  have hother : m.name ∉ (front.map Entry.read ++ back.map Entry.read).map Prod.fst := by
    rw [← List.map_append, List.map_map]
    exact hfresh
  obtain ⟨field, hmem, hname⟩ := List.mem_map.mp hfield
  have hnull := hnulls field hmem
  rw [decodeText_objectText layout hms, map_member, List.map_append] at hv
  rw [decodeText_objectText layout' hspelled, map_member, List.map_append, List.map_cons, hread]
  rw [hname] at hnull
  split at hnull
  · next hplain =>
      rw [if_pos hplain]
      exact h.read_refused hmem hname.symm hnull hother hv
  · next hplain =>
      rw [if_neg hplain]
      exact h.read_idle hmem hname.symm hnull hother hv

end BillingAccess.Json
