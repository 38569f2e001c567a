/-
What is written for a value is read as that value.

The law is stated for one value, since some values have no text of their own: a
double that is not finite, and a dictionary that is not in the order of its
names.  An optional value is written as the value itself, so it also must not
be mistaken for the mark of none.
-/
import BillingAccess.Json.Record
import BillingAccess.Proofs.Json.Members

namespace BillingAccess.Json

open BillingAccess.Decimal

variable {α : Type} {c : Codec α}

namespace Codec

/-- The value written for `a` is read as `a`. -/
def Restores (c : Codec α) (a : α) : Prop :=
  c.read (.ofValue (c.write a)) = .ok a

/-- The value written for `a` is read as `a` where there might also be none. -/
def Keeps (c : Codec α) (a : α) : Prop :=
  c.write a ≠ .null ∧ c.Restores a

@[simp] theorem text_keeps (s : String) : text.Keeps s :=
  ⟨nofun, rfl⟩

@[simp] theorem text_restores (s : String) : text.Restores s :=
  rfl

@[simp] theorem bool_keeps (b : Bool) : bool.Keeps b :=
  ⟨nofun, rfl⟩

/-- A double that is not finite is written as none. -/
theorem real_restores_iff (x : Float) : real.Restores x ↔ x.isFinite = true := by
  change real.read (.ofValue (.ofFloat x)) = .ok x ↔ _
  rw [Value.ofFloat]
  by_cases hfinite : x.isFinite = true
  · rw [if_pos hfinite]
    exact iff_of_true rfl hfinite
  · rw [if_neg hfinite]
    exact iff_of_false nofun hfinite

theorem real_keeps_iff (x : Float) : real.Keeps x ↔ x.isFinite = true := by
  rw [Keeps, real_restores_iff, and_iff_right_iff_imp]
  intro hfinite
  change Value.ofFloat x ≠ .null
  rw [Value.ofFloat, if_pos hfinite]
  exact nofun

theorem readWhole_ofValue {least greatest n : Int} (hleast : least ≤ n) (hgreatest : n ≤ greatest) :
    readWhole least greatest (.ofValue (.number (.whole n))) = .ok n :=
  if_pos ⟨hleast, hgreatest⟩

@[simp] theorem count_keeps (n : UInt32) : count.Keeps n := by
  have hn := n.toNat_lt
  refine ⟨nofun, ?_⟩
  change (readWhole 0 greatest32 (.ofValue (.number (.whole n.toNat)))).map _ = _
  rw [readWhole_ofValue (by omega) (by rw [greatest32]; omega)]
  simp [Except.map]

@[simp] theorem int32_keeps (n : Int32) : int32.Keeps n := by
  refine ⟨nofun, ?_⟩
  change (readWhole _ _ (.ofValue (.number (.whole n.toInt)))).map _ = _
  rw [readWhole_ofValue n.minValue_le_toInt n.toInt_le]
  simp [Except.map]

@[simp] theorem int64_keeps (n : Int64) : int64.Keeps n := by
  refine ⟨nofun, ?_⟩
  change (readWhole _ _ (.ofValue (.number (.whole n.toInt)))).map _ = _
  rw [readWhole_ofValue n.minValue_le_toInt n.toInt_le]
  simp [Except.map]

theorem ofValue_eq_null_iff (v : Value) : Draft.ofValue v = .null ↔ v = .null := by
  cases v <;> simp [Draft.ofValue]

theorem option_read_of_ne {d : Draft} (h : d ≠ .null) :
    c.option.read d = (c.read d).map some := by
  cases d with
  | null => exact absurd rfl h
  | _ => rfl

theorem option_restores_iff (a : Option α) : c.option.Restores a ↔ ∀ b ∈ a, c.Keeps b := by
  cases a with
  | none => exact iff_of_true rfl nofun
  | some b =>
      simp only [Option.mem_some_iff, forall_eq', Keeps]
      change c.option.read (.ofValue (c.write b)) = .ok (some b) ↔ _
      by_cases hnull : c.write b = .null
      · rw [hnull]
        exact iff_of_false nofun fun h => h.1 rfl
      · rw [option_read_of_ne (mt (ofValue_eq_null_iff _).mp hnull), Restores]
        cases c.read (.ofValue (c.write b)) <;> simp [Except.map, hnull]

@[simp] theorem option_restores (h : ∀ b, c.Keeps b) (a : Option α) : c.option.Restores a :=
  (option_restores_iff a).mpr fun b _ => h b

theorem option_real_restores {x : Option Float} (h : ∀ y ∈ x, y.isFinite = true) :
    real.option.Restores x :=
  (option_restores_iff x).mpr fun y hy => (real_keeps_iff y).mpr (h y hy)

theorem readList_ofValues_iff (as : List α) :
    readList c none (Draft.ofValues (as.map c.write)) = .ok as ↔ ∀ a ∈ as, c.Restores a := by
  induction as with
  | nil => exact iff_of_true rfl nofun
  | cons a rest ih =>
      rw [List.forall_mem_cons, ← ih, Restores, List.map_cons, Draft.ofValues, readList]
      cases c.read (.ofValue (c.write a)) <;>
        cases readList c none (Draft.ofValues (rest.map c.write)) <;>
        simp [bind, Except.bind, pure, Except.pure]

theorem list_restores_iff (as : List α) : (list c).Restores as ↔ ∀ a ∈ as, c.Restores a :=
  readList_ofValues_iff as

@[simp] theorem list_keeps_iff (as : List α) : (list c).Keeps as ↔ ∀ a ∈ as, c.Restores a := by
  rw [Keeps, list_restores_iff, and_iff_right_iff_imp]
  exact fun _ => nofun

/-- The entries are in the order of their names, and each value is read as it
was written. -/
def RestoresAll (c : Codec α) (entries : List (String × α)) : Prop :=
  Sorted entries ∧ ∀ entry ∈ entries, c.Restores entry.2

theorem readEntries_ofMembers {entries : List (String × α)}
    (h : ∀ entry ∈ entries, c.Restores entry.2) :
    readEntries c none (Draft.ofMembers (entries.map fun (name, a) => (name, c.write a))) =
      .ok entries := by
  induction entries with
  | nil => rfl
  | cons entry rest ih =>
      obtain ⟨hentry, hrest⟩ := List.forall_mem_cons.mp h
      rw [Restores] at hentry
      rw [List.map_cons, Draft.ofMembers, readEntries]
      simp only [hentry, ih hrest]
      rfl

theorem dictionary_keeps {entries : List (String × α)} (h : c.RestoresAll entries) :
    (dictionary c).Keeps entries := by
  refine ⟨nofun, ?_⟩
  change (readEntries c none (Draft.ofMembers (entries.map fun (name, a) => (name, c.write a)))).map
    sortMembers = .ok entries
  rw [readEntries_ofMembers h.2, Except.map, sortMembers_of_sorted h.1]

theorem value_restores {v : Value} (h : v.Ordered) : value.Restores v :=
  h.value_ofValue

end Codec

end BillingAccess.Json
