/-
A record is read back from the object of its fields.

Reading what was written is copying the record field by field into the empty
one: each name leads to its own field, and none comes twice.  What a field
leaves out the empty record has to hold already.
-/
import BillingAccess.Proofs.Json.Codec
import BillingAccess.Proofs.Json.Compact
import Mathlib.Data.List.Nodup

namespace BillingAccess.Json

variable {R α : Type}

/-- The members that fields write for a record. -/
def writtenMembers (fields : List (Field R)) (v : R) : List (String × Value) :=
  fields.filterMap fun field => (field.write v).map (field.name, ·)

/-- Reads what one field writes of `v` into another record. -/
def Field.copy (field : Field R) (v r : R) : Except Cause R :=
  match field.write v with
  | some value => field.read (.ofValue value) r
  | none => .ok r

def copyFields : List (Field R) → R → R → Except Cause R
  | [], _, r => .ok r
  | field :: rest, v, r => do
      let r ← field.copy v r
      copyFields rest v r

section

variable {name : String} {c : Codec α} {rest : List (Field R)} {v r : R}

theorem Field.copy_of {get : R → α} {set : α → R → R} (h : c.Restores (get v)) :
    (Field.of name c get set).copy v r = .ok (set (get v) r) := by
  change (c.read (.ofValue (c.write (get v)))).map (set · r) = _
  rw [show c.read (.ofValue (c.write (get v))) = .ok (get v) from h, Except.map]

theorem Field.copy_omitted {get : R → Option α} {set : Option α → R → R}
    (h : ∀ a ∈ get v, c.Keeps a) (hempty : set none r = r) :
    (Field.omitted name c get set).copy v r = .ok (set (get v) r) := by
  rw [Field.copy]
  change (match (get v).map c.write with
    | some value => (c.option.read (.ofValue value)).map (set · r)
    | none => .ok r) = _
  rw [← Codec.option_restores_iff] at h
  cases hget : get v with
  | none => exact congrArg Except.ok hempty.symm
  | some a =>
      rw [hget] at h
      have hread : c.option.read (.ofValue (c.write a)) = .ok (some a) := h
      rw [Option.map_some]
      simp only [hread, Except.map]

@[simp] theorem copyFields_nil : copyFields [] v r = .ok r :=
  rfl

theorem copyFields_of {get : R → α} {set : α → R → R} (h : c.Restores (get v)) :
    copyFields (.of name c get set :: rest) v r = copyFields rest v (set (get v) r) := by
  rw [copyFields, Field.copy_of h]
  rfl

theorem copyFields_omitted {get : R → Option α} {set : Option α → R → R}
    (h : ∀ a ∈ get v, c.Keeps a) (hempty : set none r = r) :
    copyFields (.omitted name c get set :: rest) v r = copyFields rest v (set (get v) r) := by
  rw [copyFields, Field.copy_omitted h hempty]
  rfl

end

theorem find?_name {fields : List (Field R)} (hnames : (fields.map Field.name).Nodup)
    {field : Field R} (hfield : field ∈ fields) :
    fields.find? (·.name == field.name) = some field := by
  induction fields with
  | nil => contradiction
  | cons first rest ih =>
      rw [List.map_cons, List.nodup_cons] at hnames
      rcases List.mem_cons.mp hfield with rfl | hrest
      · exact List.find?_cons_of_pos (BEq.rfl)
      · have hother : first.name ≠ field.name := by
          rintro hsame
          exact hnames.1 (hsame ▸ List.mem_map_of_mem hrest)
        rw [List.find?_cons_of_neg (by simpa using hother)]
        exact ih hnames.2 hrest

theorem lookup_writtenMembers_eq_none {fields : List (Field R)} {name : String}
    (hname : name ∉ fields.map Field.name) (v : R) :
    (writtenMembers fields v).lookup name = none := by
  refine List.lookup_eq_none_iff.mpr fun member hmember => ?_
  obtain ⟨writer, hwriter, hwritten⟩ := List.mem_filterMap.mp hmember
  obtain ⟨value, -, rfl⟩ := Option.map_eq_some_iff.mp hwritten
  refine bne_iff_ne.mpr fun hsame => hname ?_
  rw [hsame]
  exact List.mem_map_of_mem hwriter

theorem lookup_writtenMembers {fields : List (Field R)} (hnames : (fields.map Field.name).Nodup)
    {field : Field R} (hfield : field ∈ fields) (v : R) :
    (writtenMembers fields v).lookup field.name = field.write v := by
  induction fields with
  | nil => exact absurd hfield List.not_mem_nil
  | cons first rest ih =>
      obtain ⟨hfirst, hrest⟩ := List.nodup_cons.mp hnames
      rw [writtenMembers, List.filterMap_cons]
      rcases List.mem_cons.mp hfield with rfl | hmem
      · cases hwrite : field.write v with
        | none => exact lookup_writtenMembers_eq_none hfirst v
        | some value => exact List.lookup_cons_self
      · have hother : field.name ≠ first.name := fun hsame =>
          hfirst (hsame ▸ List.mem_map_of_mem hmem)
        cases first.write v with
        | none => exact ih hrest hmem
        | some value =>
            rw [Option.map_some, List.lookup_cons, beq_false_of_ne hother]
            exact ih hrest hmem

/-- A field writes the member of its name, or none. -/
theorem Record.member?_write {record : Record R} (hnames : (record.fields.map Field.name).Nodup)
    {field : Field R} (hfield : field ∈ record.fields) (v : R) :
    (record.write v).member? field.name = field.write v :=
  lookup_writtenMembers hnames hfield v

/-- A member of a field that has not been seen is read by that field. -/
theorem readMembers_unseen {all : List (Field R)} {field : Field R}
    (hfind : all.find? (·.name == field.name) = some field) {seen : List String}
    (hseen : field.name ∉ seen) (d : Draft) (r : R)
    (members : List (Except Cause String × Draft)) :
    Record.readMembers all [] none seen r ((.ok field.name, d) :: members) =
      field.read d r >>= fun r =>
        Record.readMembers all [] none (field.name :: seen) r members := by
  have hcontains : ¬seen.contains field.name = true := by simpa using hseen
  rw [Record.readMembers]
  simp only [bind, Except.bind, hfind, if_neg hcontains]

/-- Each member is read by the field that wrote it. -/
theorem readMembers_writtenMembers {all : List (Field R)} (hall : (all.map Field.name).Nodup)
    {fields : List (Field R)} (hsub : fields ⊆ all) (hnames : (fields.map Field.name).Nodup)
    {seen : List String} (hseen : ∀ field ∈ fields, field.name ∉ seen) (v r : R) :
    Record.readMembers all [] none seen r (Draft.ofMembers (writtenMembers fields v)) =
      copyFields fields v r := by
  induction fields generalizing seen r with
  | nil => rfl
  | cons field rest ih =>
      obtain ⟨hfield, hrest⟩ := List.cons_subset.mp hsub
      obtain ⟨hfirst, hlater⟩ := List.nodup_cons.mp hnames
      obtain ⟨hnew, hothers⟩ := List.forall_mem_cons.mp hseen
      rw [copyFields, Field.copy, writtenMembers, List.filterMap_cons]
      cases hwrite : field.write v with
      | none => exact ih hrest hlater hothers r
      | some value =>
          have hunseen : ∀ other ∈ rest, other.name ∉ field.name :: seen := by
            intro other hother hmem
            rcases List.mem_cons.mp hmem with hsame | hbefore
            · exact hfirst (hsame ▸ List.mem_map_of_mem hother)
            · exact hothers other hother hbefore
          have hread := readMembers_unseen (find?_name hall hfield) hnew (.ofValue value) r
            (Draft.ofMembers (writtenMembers rest v))
          exact hread.trans (bind_congr fun r => ih hrest hlater hunseen r)

/-- A record is read back if copying its fields rebuilds it. -/
theorem Record.restores {record : Record R} (hnames : (record.fields.map Field.name).Nodup)
    (hrequired : record.required = []) {v : R}
    (hcopy : copyFields record.fields v record.empty = .ok v) : record.codec.Restores v := by
  change Record.readMembers record.fields record.required none [] record.empty
    (Draft.ofMembers (writtenMembers record.fields v)) = .ok v
  rw [hrequired, readMembers_writtenMembers hnames (List.Subset.refl _) hnames
    (fun _ _ => List.not_mem_nil), hcopy]

@[simp] theorem Record.keeps_iff (record : Record R) (v : R) :
    record.codec.Keeps v ↔ record.codec.Restores v := by
  rw [Codec.Keeps, and_iff_right_iff_imp]
  intro _ hnull
  cases hnull

theorem Record.option_restores {record : Record R} {v : Option R}
    (h : ∀ r ∈ v, record.codec.Restores r) : record.codec.option.Restores v :=
  (Codec.option_restores_iff v).mpr fun r hr => (record.keeps_iff r).mpr (h r hr)

/-- Whatever is written is held by a text without loss. -/
def Codec.Lossless (c : Codec α) (depth : Nat) : Prop :=
  ∀ a, (c.write a).Lossless depth

namespace Codec

variable {c : Codec α} {depth : Nat}

@[simp] theorem text_lossless : text.Lossless depth :=
  fun s => .text s

@[simp] theorem bool_lossless : bool.Lossless depth :=
  fun b => .bool b

@[simp] theorem count_lossless : count.Lossless depth := by
  intro n
  have hn := n.toNat_lt
  refine .whole ?_ ?_
  · rw [show Int64.minValue.toInt = -9223372036854775808 from rfl]
    omega
  · rw [Decimal.greatest64]
    omega

@[simp] theorem int64_lossless : int64.Lossless depth := by
  intro n
  have hgreatest : n.toInt ≤ 9223372036854775807 := n.toInt_le
  refine .whole n.minValue_le_toInt ?_
  rw [Decimal.greatest64]
  omega

@[simp] theorem int32_lossless : int32.Lossless depth := by
  intro n
  have hleast : -2147483648 ≤ n.toInt := n.minValue_le_toInt
  have hgreatest : n.toInt ≤ 2147483647 := n.toInt_le
  refine .whole ?_ ?_
  · rw [show Int64.minValue.toInt = -9223372036854775808 from rfl]
    omega
  · rw [Decimal.greatest64]
    omega

@[simp] theorem option_lossless (h : c.Lossless depth) : c.option.Lossless depth := by
  intro a
  cases a with
  | none => exact .null
  | some b => exact h b

@[simp] theorem list_lossless (h : c.Lossless depth) : (list c).Lossless (depth + 1) := by
  intro as
  refine .list fun v hv => ?_
  obtain ⟨a, _, rfl⟩ := List.mem_map.mp hv
  exact h a

end Codec

/-- Whatever the field writes is held by a text without loss. -/
def Field.Lossless (field : Field R) (depth : Nat) : Prop :=
  ∀ v, ∀ value ∈ field.write v, value.Lossless depth

section

variable {name : String} {c : Codec α} {depth : Nat}

@[simp] theorem Field.of_lossless {get : R → α} {set : α → R → R} (h : c.Lossless depth) :
    (Field.of name c get set).Lossless depth := by
  intro v value hvalue
  obtain rfl := Option.some.inj hvalue
  exact h (get v)

@[simp] theorem Field.omitted_lossless {get : R → Option α} {set : Option α → R → R}
    (h : c.Lossless depth) : (Field.omitted name c get set).Lossless depth := by
  intro v value hvalue
  obtain ⟨a, _, rfl⟩ := Option.map_eq_some_iff.mp hvalue
  exact h a

end

/-- The object of a record is nested one deeper than what its fields write. -/
theorem Record.lossless {record : Record R} {depth : Nat}
    (h : ∀ field ∈ record.fields, field.Lossless depth) : record.codec.Lossless (depth + 1) := by
  intro v
  refine .object fun member hmember => ?_
  obtain ⟨field, hfield, hwritten⟩ := List.mem_filterMap.mp hmember
  obtain ⟨value, hvalue, rfl⟩ := Option.map_eq_some_iff.mp hwritten
  exact h field hfield v value hvalue

/-- The text of `v` on one line is read as `v`. -/
def Record.RestoresText (record : Record R) (v : R) : Prop :=
  decodeText record.read (record.write v).compact.toList = .ok v

theorem Record.restoresText {record : Record R} {depth : Nat}
    (hlossless : record.codec.Lossless depth) (hdepth : depth ≤ greatestDepth) {v : R}
    (h : record.codec.Restores v) : record.RestoresText v :=
  (decodeText_compact (hlossless v) hdepth record.read).trans h

end BillingAccess.Json
