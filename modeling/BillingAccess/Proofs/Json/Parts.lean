/-
Members of a record come in any order.

Each field sets its own part of the record and nothing else.  So members of
different fields can be exchanged, members that belong to no field do nothing,
and without the member of a field its part stays as it was.
-/
import BillingAccess.Proofs.Json.Spelled
import BillingAccess.Proofs.Json.Thorough
import Mathlib.Data.List.Pairwise
import Mathlib.Tactic.MkIffOfInductiveProp

namespace BillingAccess.Json

variable {R : Type}

/-- A part of a record, under the name of its field.  `take d r` is `r` with
this part of `d`. -/
structure Record.Part (R : Type) where
  name : String
  take : R → R → R

namespace Record.Part

/-- The part can be taken from one record into another, and what was there
before is gone. -/
@[mk_iff]
structure Settled (p : Record.Part R) : Prop where
  again (d e r : R) : p.take d (p.take e r) = p.take d r
  own (r : R) : p.take r r = r

/-- Taking one part leaves the other alone. -/
def Apart (p q : Record.Part R) : Prop :=
  ∀ d e r, p.take d (q.take e r) = q.take e (p.take d r)

theorem Apart.symm {p q : Record.Part R} (h : p.Apart q) : q.Apart p :=
  fun d e r => (h e d r).symm

instance : Std.Symm (@Apart R) :=
  ⟨fun _ _ => Apart.symm⟩

/-- The part that a name stands for; a name of no field stands for nothing. -/
def find (parts : List (Record.Part R)) (name : String) : Record.Part R :=
  (parts.find? (·.name == name)).getD ⟨name, fun _ r => r⟩

end Record.Part

/-- The field sets the part and looks at nothing else. -/
structure Field.Sets (field : Field R) (part : Record.Part R) : Prop where
  name : field.name = part.name
  read (d : Draft) (e r : R) : field.read d r = (field.read d e).map (part.take · r)

/-- The record is made of these parts, one for each field. -/
structure Record.Consists (record : Record R) (parts : List (Record.Part R)) : Prop where
  sets : List.Forall₂ Field.Sets record.fields parts
  apart : parts.Pairwise Record.Part.Apart
  settled : ∀ p ∈ parts, p.Settled
  thorough : ∀ field ∈ record.fields, field.Thorough
  names : (parts.map Record.Part.name).Nodup := by decide
  required : record.required = [] := by rfl

section

variable {α : Type} {name : String} {c : Codec α} {take : R → R → R}

@[simp] theorem Field.of_sets {get : R → α} {set : α → R → R}
    (h : ∀ a e r, take (set a e) r = set a r) :
    (Field.of name c get set).Sets ⟨name, take⟩ := by
  refine ⟨rfl, fun d e r => ?_⟩
  change (c.read d).map (set · r) = ((c.read d).map (set · e)).map (take · r)
  cases c.read d with
  | error cause => rfl
  | ok a => exact congrArg Except.ok (h a e r).symm

@[simp] theorem Field.omitted_sets {get : R → Option α} {set : Option α → R → R}
    (h : ∀ a e r, take (set a e) r = set a r) :
    (Field.omitted name c get set).Sets ⟨name, take⟩ := by
  have hof : (Field.of name c.option get set).Sets ⟨name, take⟩ := of_sets h
  exact ⟨rfl, hof.read⟩

end

/-- Reads a member into a record. -/
def absorb (fields : List (Field R)) (r : R) (m : String × Draft) : Except Cause R :=
  match fields.find? (·.name == m.1) with
  | some field => field.read m.2 r
  | none => m.2.pass.map fun _ => r

variable {fields : List (Field R)} {parts : List (Record.Part R)}

theorem find?_sets (h : List.Forall₂ Field.Sets fields parts) (name : String) :
    Option.Rel Field.Sets (fields.find? (·.name == name)) (parts.find? (·.name == name)) := by
  induction h with
  | nil => exact .none
  | cons hsets _ ih =>
      rw [List.find?_cons, List.find?_cons, hsets.name]
      split
      · exact .some hsets
      · exact ih

/-- What a member does to a record is to set a part of it. -/
theorem absorb_eq (h : List.Forall₂ Field.Sets fields parts) (e r : R) (m : String × Draft) :
    absorb fields r m = (absorb fields e m).map ((Record.Part.find parts m.1).take · r) := by
  have hfind := find?_sets h m.1
  rw [absorb, absorb, Record.Part.find]
  generalize fields.find? (·.name == m.1) = field at hfind ⊢
  generalize parts.find? (·.name == m.1) = part at hfind ⊢
  cases hfind with
  | none =>
      simp only [Option.getD_none]
      cases m.2.pass <;> rfl
  | some hsets => exact hsets.read m.2 e r

theorem take_of_absorb (h : List.Forall₂ Field.Sets fields parts) {m : String × Draft} {r s : R}
    (hm : absorb fields r m = .ok s) : (Record.Part.find parts m.1).take s r = s := by
  have heq := absorb_eq h r r m
  rw [hm] at heq
  exact (Except.ok.inj heq).symm

/-- A part that a member does not set can be put in before or after it. -/
theorem absorb_take (h : List.Forall₂ Field.Sets fields parts) {part : Record.Part R}
    {m : String × Draft} (hapart : part.Apart (Record.Part.find parts m.1)) (e r : R) :
    absorb fields (part.take e r) m = (absorb fields r m).map (part.take e) := by
  rw [absorb_eq h r (part.take e r)]
  cases hm : absorb fields r m with
  | error cause => rfl
  | ok s =>
      have hown := take_of_absorb h hm
      have hswap := hapart e s r
      rw [hown] at hswap
      exact congrArg Except.ok hswap.symm

/-- Members that set different parts can be exchanged. -/
theorem absorb_swap (h : List.Forall₂ Field.Sets fields parts) {m n : String × Draft}
    (hapart : (Record.Part.find parts m.1).Apart (Record.Part.find parts n.1)) {r s v : R}
    (hm : absorb fields r m = .ok s) (hn : absorb fields s n = .ok v) :
    ∃ t, absorb fields r n = .ok t ∧ absorb fields t m = .ok v := by
  have hs := take_of_absorb h hm
  rw [← hs, absorb_take h hapart] at hn
  cases ht : absorb fields r n with
  | error cause =>
      rw [ht] at hn
      cases hn
  | ok t =>
      rw [ht] at hn
      have hv : (Record.Part.find parts m.1).take s t = v := Except.ok.inj hn
      have ht' := take_of_absorb h ht
      refine ⟨t, rfl, ?_⟩
      rw [← ht', absorb_take h hapart.symm, hm]
      refine congrArg Except.ok ?_
      rw [← hv, ← hs, ← hapart, ht', hs]

/-- Reads members into a record, one after the other. -/
def absorbAll (fields : List (Field R)) (r : R) (ms : List (String × Draft)) : Except Cause R :=
  ms.foldlM (absorb fields) r

/-- The names of fields among those of the members. -/
def fieldNames (fields : List (Field R)) (ms : List (String × Draft)) : List String :=
  (ms.map Prod.fst).filter (· ∈ fields.map Field.name)

def asMember (m : String × Draft) : Except Cause String × Draft :=
  (.ok m.1, m.2)

theorem find?_eq_none_iff (fields : List (Field R)) (name : String) :
    fields.find? (·.name == name) = none ↔ name ∉ fields.map Field.name := by
  simp

theorem fieldNames_cons_of_mem {m : String × Draft} (hm : m.1 ∈ fields.map Field.name)
    (ms : List (String × Draft)) : fieldNames fields (m :: ms) = m.1 :: fieldNames fields ms := by
  rw [fieldNames, List.map_cons, List.filter_cons_of_pos (by simpa using hm)]
  rfl

theorem fieldNames_cons_of_not_mem {m : String × Draft} (hm : m.1 ∉ fields.map Field.name)
    (ms : List (String × Draft)) : fieldNames fields (m :: ms) = fieldNames fields ms := by
  rw [fieldNames, List.map_cons, List.filter_cons_of_neg (by simpa using hm)]
  rfl

/-- Members are read if no field comes twice and each can be absorbed. -/
theorem readMembers_eq_ok_iff {seen : List String} {r v : R} {ms : List (String × Draft)} :
    Record.readMembers fields [] none seen r (ms.map asMember) = .ok v ↔
      ((fieldNames fields ms).Nodup ∧ ∀ name ∈ fieldNames fields ms, name ∉ seen) ∧
        absorbAll fields r ms = .ok v := by
  induction ms generalizing seen r with
  | nil => exact ⟨fun h => ⟨⟨List.nodup_nil, nofun⟩, h⟩, And.right⟩
  | cons m ms ih =>
      rw [List.map_cons, asMember, absorbAll, List.foldlM_cons, Record.readMembers, absorb]
      by_cases hm : m.1 ∈ fields.map Field.name
      · obtain ⟨field, hfind⟩ := Option.ne_none_iff_exists'.mp
          (mt (find?_eq_none_iff fields m.1).mp (not_not_intro hm))
        rw [fieldNames_cons_of_mem hm, hfind]
        by_cases hseen : m.1 ∈ seen
        · have hcontains : seen.contains m.1 = true := by simpa using hseen
          refine iff_of_false ?_ fun h => h.1.2 m.1 List.mem_cons_self hseen
          simp only [bind, Except.bind, hfind, if_pos hcontains]
          rintro ⟨⟩
        · have hcontains : ¬seen.contains m.1 = true := by simpa using hseen
          simp only [bind, Except.bind, hfind, if_neg hcontains]
          cases field.read m.2 r with
          | error cause => exact iff_of_false (by rintro ⟨⟩) (by rintro ⟨-, ⟨⟩⟩)
          | ok s =>
              refine ih.trans (and_congr_left fun _ => ⟨?_, ?_⟩)
              · rintro ⟨hnodup, hnew⟩
                have hfirst : m.1 ∉ fieldNames fields ms :=
                  fun hmem => hnew _ hmem List.mem_cons_self
                exact ⟨List.nodup_cons.mpr ⟨hfirst, hnodup⟩, List.forall_mem_cons.mpr
                  ⟨hseen, fun name hname => List.not_mem_of_not_mem_cons (hnew name hname)⟩⟩
              · rintro ⟨hnodup, hnew⟩
                obtain ⟨hfirst, hnodup⟩ := List.nodup_cons.mp hnodup
                refine ⟨hnodup, fun name hname => ?_⟩
                rw [List.mem_cons, not_or]
                exact ⟨fun hsame => hfirst (hsame ▸ hname),
                  (List.forall_mem_cons.mp hnew).2 name hname⟩
      · rw [fieldNames_cons_of_not_mem hm, (find?_eq_none_iff fields m.1).mpr hm]
        simp only [bind, Except.bind, (find?_eq_none_iff fields m.1).mpr hm, Draft.pass]
        cases m.2.skip with
        | none => exact ih
        | some cause => exact iff_of_false (by rintro ⟨⟩) (by rintro ⟨-, ⟨⟩⟩)

theorem names_of_sets (h : List.Forall₂ Field.Sets fields parts) :
    parts.map Record.Part.name = fields.map Field.name := by
  induction h with
  | nil => rfl
  | cons hsets _ ih => rw [List.map_cons, List.map_cons, hsets.name, ih]

theorem Record.Part.find_of_not_mem {name : String} (h : name ∉ parts.map Record.Part.name) :
    Record.Part.find parts name = ⟨name, fun _ r => r⟩ := by
  have hnone : parts.find? (·.name == name) = none := by simpa using h
  rw [Record.Part.find, hnone, Option.getD_none]

theorem Record.Part.find_of_mem {name : String} (h : name ∈ parts.map Record.Part.name) :
    ∃ p ∈ parts, p.name = name ∧ Record.Part.find parts name = p := by
  obtain ⟨p, hfind⟩ : ∃ p, parts.find? (·.name == name) = some p := by
    rw [← Option.isSome_iff_exists, List.find?_isSome]
    simpa using h
  refine ⟨p, List.mem_of_find?_eq_some hfind, ?_, ?_⟩
  · simpa using List.find?_some hfind
  · rw [Record.Part.find, hfind, Option.getD_some]

theorem Record.Consists.find_name {record : Record R} (h : record.Consists parts)
    {part : Record.Part R} (hpart : part ∈ parts) : Record.Part.find parts part.name = part := by
  obtain ⟨p, hp, hname, hfind⟩ := Record.Part.find_of_mem (List.mem_map_of_mem hpart)
  rw [hfind]
  exact List.inj_on_of_nodup_map h.names hp hpart hname

/-- Parts of different names are apart, and a name of no field is apart from
any. -/
theorem Record.Consists.find_apart {record : Record R} (h : record.Consists parts) {a b : String}
    (hab : a = b → a ∉ record.fields.map Field.name) :
    (Record.Part.find parts a).Apart (Record.Part.find parts b) := by
  rw [← names_of_sets h.sets] at hab
  by_cases ha : a ∈ parts.map Record.Part.name
  · by_cases hb : b ∈ parts.map Record.Part.name
    · obtain ⟨p, hp, rfl, hpa⟩ := Record.Part.find_of_mem ha
      obtain ⟨q, hq, rfl, hqb⟩ := Record.Part.find_of_mem hb
      rw [hpa, hqb]
      exact h.apart.forall hp hq fun hsame =>
        hab (congrArg Record.Part.name hsame) ha
    · rw [Record.Part.find_of_not_mem hb]
      exact fun _ _ _ => rfl
  · rw [Record.Part.find_of_not_mem ha]
    exact fun _ _ _ => rfl

theorem fieldNames_perm {ms ms' : List (String × Draft)} (h : ms.Perm ms') :
    (fieldNames fields ms).Perm (fieldNames fields ms') :=
  (h.map Prod.fst).filter _

/-- The order of members does not matter. -/
theorem absorbAll_perm {record : Record R} (hrecord : record.Consists parts)
    {ms ms' : List (String × Draft)} (hperm : ms.Perm ms')
    (hnames : (fieldNames record.fields ms).Nodup) {r v : R}
    (h : absorbAll record.fields r ms = .ok v) : absorbAll record.fields r ms' = .ok v := by
  induction hperm generalizing r with
  | nil => exact h
  | @cons m ms ms' hperm ih =>
      obtain ⟨s, hm, h⟩ := exists_of_bind_ok h
      have hrest : (fieldNames record.fields ms).Nodup :=
        hnames.sublist (((List.sublist_cons_self m ms).map Prod.fst).filter _)
      rw [absorbAll, List.foldlM_cons, hm]
      exact ih hrest h
  | swap m n ms =>
      obtain ⟨s, hn, h⟩ := exists_of_bind_ok h
      obtain ⟨t, hm, h⟩ := exists_of_bind_ok h
      have hapart : (Record.Part.find parts n.1).Apart (Record.Part.find parts m.1) := by
        refine hrecord.find_apart fun hsame hfield => ?_
        rw [fieldNames_cons_of_mem hfield, fieldNames_cons_of_mem (hsame ▸ hfield), hsame] at hnames
        exact (List.nodup_cons.mp hnames).1 List.mem_cons_self
      obtain ⟨s', hm', hn'⟩ := absorb_swap hrecord.sets hapart hn hm
      rw [absorbAll, List.foldlM_cons, hm']
      change List.foldlM (absorb record.fields) s' (n :: ms) = _
      rw [List.foldlM_cons, hn']
      exact h
  | trans hfirst hsecond ih₁ ih₂ =>
      exact ih₂ ((fieldNames_perm hfirst).nodup_iff.mp hnames) (ih₁ hnames h)

/-- A part that no member sets can be put in before or after them. -/
theorem absorbAll_take (h : List.Forall₂ Field.Sets fields parts) {part : Record.Part R}
    {ms : List (String × Draft)} (hapart : ∀ m ∈ ms, part.Apart (Record.Part.find parts m.1))
    (e r : R) :
    absorbAll fields (part.take e r) ms = (absorbAll fields r ms).map (part.take e) := by
  induction ms generalizing r with
  | nil => rfl
  | cons m ms ih =>
      obtain ⟨hm, hms⟩ := List.forall_mem_cons.mp hapart
      rw [absorbAll, absorbAll, List.foldlM_cons, List.foldlM_cons, absorb_take h hm]
      cases absorb fields r m with
      | error cause => rfl
      | ok s => exact ih hms s

/-- Members of no field do nothing. -/
theorem absorbAll_unknown {extra : List (String × Draft)}
    (h : ∀ m ∈ extra, m.1 ∉ fields.map Field.name ∧ m.2.skip = none) (r : R) :
    absorbAll fields r extra = .ok r := by
  induction extra with
  | nil => rfl
  | cons m extra ih =>
      obtain ⟨⟨hname, hskip⟩, hextra⟩ := List.forall_mem_cons.mp h
      have hm : absorb fields r m = .ok r := by
        rw [absorb, (find?_eq_none_iff fields m.1).mpr hname, (pass_eq_ok_iff m.2).mpr hskip]
        rfl
      rw [absorbAll, List.foldlM_cons, hm]
      exact ih hextra

theorem fieldNames_append_unknown (ms : List (String × Draft)) {extra : List (String × Draft)}
    (h : ∀ m ∈ extra, m.1 ∉ fields.map Field.name) :
    fieldNames fields (ms ++ extra) = fieldNames fields ms := by
  have hnone : fieldNames fields extra = [] := by
    refine List.filter_eq_nil_iff.mpr fun name hname => ?_
    obtain ⟨m, hm, rfl⟩ := List.mem_map.mp hname
    simpa using h m hm
  rw [fieldNames, List.map_append, List.filter_append]
  change fieldNames fields ms ++ fieldNames fields extra = _
  rw [hnone, List.append_nil]

section

variable {record : Record R} {v : R}

theorem Record.Consists.read_eq_ok_iff (h : record.Consists parts) {ms : List (String × Draft)} :
    record.read (.object (ms.map asMember) none) = .ok v ↔
      (fieldNames record.fields ms).Nodup ∧ absorbAll record.fields record.empty ms = .ok v := by
  rw [Record.read, h.required, readMembers_eq_ok_iff]
  simp

/-- More members that belong to no field, and another order, make no
difference. -/
theorem Record.Consists.read_extended (h : record.Consists parts)
    {ms extra ms' : List (String × Draft)}
    (hv : record.read (.object (ms.map asMember) none) = .ok v)
    (hextra : ∀ m ∈ extra, m.1 ∉ record.fields.map Field.name ∧ m.2.skip = none)
    (hperm : (ms ++ extra).Perm ms') : record.read (.object (ms'.map asMember) none) = .ok v := by
  obtain ⟨hnames, hv⟩ := h.read_eq_ok_iff.mp hv
  rw [← fieldNames_append_unknown ms fun m hm => (hextra m hm).1] at hnames
  refine h.read_eq_ok_iff.mpr ⟨(fieldNames_perm hperm).nodup_iff.mp hnames, ?_⟩
  refine absorbAll_perm h hperm hnames ?_
  rw [absorbAll, List.foldlM_append]
  change (absorbAll record.fields record.empty ms >>= fun r => absorbAll record.fields r extra) = _
  rw [hv]
  exact absorbAll_unknown hextra v

/-- Without the member of a field, its part is as in the empty record. -/
theorem Record.Consists.read_missing (h : record.Consists parts)
    {front back : List (String × Draft)} {m : String × Draft}
    (hv : record.read (.object ((front ++ m :: back).map asMember) none) = .ok v)
    {part : Record.Part R} (hpart : part ∈ parts) (hname : m.1 = part.name) :
    record.read (.object ((front ++ back).map asMember) none) = .ok (part.take record.empty v) := by
  obtain ⟨hnames, hv⟩ := h.read_eq_ok_iff.mp hv
  have hperm : (front ++ m :: back).Perm (m :: (front ++ back)) := List.perm_middle
  obtain ⟨s, hm, hrest⟩ := exists_of_bind_ok (absorbAll_perm h hperm hnames hv)
  have hfind := h.find_name hpart
  have hfield : m.1 ∈ record.fields.map Field.name := by
    rw [← names_of_sets h.sets, hname]
    exact List.mem_map_of_mem hpart
  rw [(fieldNames_perm hperm).nodup_iff, fieldNames_cons_of_mem hfield, List.nodup_cons] at hnames
  obtain ⟨hgone, hnames⟩ := hnames
  have hapart : ∀ n ∈ front ++ back, part.Apart (Record.Part.find parts n.1) := by
    intro n hn
    rw [← hfind, ← hname]
    refine h.find_apart fun hsame _ => hgone ?_
    exact List.mem_filter.mpr ⟨hsame ▸ List.mem_map_of_mem hn, by simpa using hfield⟩
  have hempty : part.take record.empty s = record.empty := by
    have hs := take_of_absorb h.sets hm
    rw [hname, hfind] at hs
    rw [← hs, (h.settled part hpart).again, (h.settled part hpart).own]
  refine h.read_eq_ok_iff.mpr ⟨hnames, ?_⟩
  have hrest : absorbAll record.fields s (front ++ back) = .ok v := hrest
  have hwithout := absorbAll_take h.sets hapart record.empty s
  rw [hempty, hrest] at hwithout
  exact hwithout

end

/-- An object that is read has a text that is spelled by members.  Any order of
them is read alike, with whatever else stands among them; without the member of
a field its part is as in the empty record. -/
structure Record.Tolerant (record : Record R) (parts : List (Record.Part R)) : Prop where
  names : parts.map Record.Part.name = record.fields.map Field.name
  spelled {text : List Char} {v : R} (hstart : (skipSpace text).head? = some '\x7b')
    (hv : decodeText record.read text = .ok v) :
    ∃ layout ms, (∀ m ∈ ms, m.Spelled) ∧ text = objectText layout ms
  extended (layout layout' : Layout) {ms extra ms' : List Entry} {v : R}
    (hms : ∀ m ∈ ms, m.Spelled) (hv : decodeText record.read (objectText layout ms) = .ok v)
    (hextra : ∀ m ∈ extra, m.Accepted ∧ m.name ∉ record.fields.map Field.name)
    (hperm : (ms ++ extra).Perm ms') : decodeText record.read (objectText layout' ms') = .ok v
  missing (layout layout' : Layout) {front back : List Entry} {m : Entry} {v : R}
    (hms : ∀ e ∈ front ++ m :: back, e.Spelled)
    (hv : decodeText record.read (objectText layout (front ++ m :: back)) = .ok v)
    {part : Record.Part R} (hpart : part ∈ parts) (hname : m.name = part.name) :
    decodeText record.read (objectText layout' (front ++ back)) = .ok (part.take record.empty v)

/-- The name and the draft of a member. -/
def Entry.read (m : Entry) : String × Draft :=
  (m.name, m.draft)

theorem map_member (ms : List Entry) : ms.map Entry.member = (ms.map Entry.read).map asMember := by
  rw [List.map_map]
  rfl

theorem Record.Consists.exists_objectText {record : Record R} (h : record.Consists parts)
    {text : List Char} {v : R} (hstart : (skipSpace text).head? = some '\x7b')
    (hv : decodeText record.read text = .ok v) :
    ∃ layout ms, (∀ m ∈ ms, m.Spelled) ∧ text = objectText layout ms := by
  obtain ⟨rest, hrest⟩ := List.head?_eq_some_iff.mp hstart
  have hpass := decodeText_pass hv fun _ => (Record.thorough h.thorough).skip_of_read
  refine Json.exists_objectText hrest hpass fun members ending hroot => ?_
  have hread := (decode_eq_ok hv).1
  rw [hroot] at hread
  exact (skipMembers_of_readMembers h.thorough hread).2

theorem Record.Consists.tolerant {record : Record R} (h : record.Consists parts) :
    record.Tolerant parts := by
  refine ⟨names_of_sets h.sets, h.exists_objectText, ?_, ?_⟩
  · intro layout layout' ms extra ms' v hms hv hextra hperm
    have hms' : ∀ m ∈ ms', m.Spelled := by
      intro m hm
      rcases List.mem_append.mp (hperm.mem_iff.mpr hm) with hm | hm
      · exact hms m hm
      · exact (hextra m hm).1.spelled
    rw [decodeText_objectText layout hms, map_member] at hv
    rw [decodeText_objectText layout' hms', map_member]
    refine h.read_extended hv ?_ (List.map_append ▸ hperm.map Entry.read)
    intro read hread
    obtain ⟨m, hm, rfl⟩ := List.mem_map.mp hread
    exact ⟨(hextra m hm).2, (hextra m hm).1.spelled.skip_draft⟩
  · intro layout layout' front back m v hms hv part hpart hname
    have hrest : ∀ e ∈ front ++ back, e.Spelled := fun e he => hms e (by
      rw [List.mem_append, List.mem_cons]
      exact (List.mem_append.mp he).imp id Or.inr)
    rw [decodeText_objectText layout hms, map_member, List.map_append, List.map_cons] at hv
    rw [decodeText_objectText layout' hrest, map_member, List.map_append]
    exact h.read_missing hv hpart hname

end BillingAccess.Json
