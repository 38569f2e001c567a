/-
Members of objects that are sorted by name already.

Sorting leaves them alone, so a value whose objects are all sorted is its own
reading.
-/
import BillingAccess.Json.Draft
import Mathlib.Data.List.Basic

namespace BillingAccess.Json

variable {α : Type}

/-- By name, each name once. -/
def Sorted (members : List (String × α)) : Prop :=
  members.Pairwise fun member later => member.1 < later.1

instance (members : List (String × α)) : Decidable (Sorted members) :=
  inferInstanceAs (Decidable (members.Pairwise _))

/-- What comes after all names is put at the end. -/
theorem insertSorted_last {members : List (String × α)} {name : String}
    (h : ∀ member ∈ members, member.1 < name) (a : α) :
    insertSorted name a members = members ++ [(name, a)] := by
  induction members with
  | nil => rfl
  | cons first rest ih =>
      obtain ⟨hfirst, hrest⟩ := List.forall_mem_cons.mp h
      have hne : name ≠ first.1 := by
        rintro rfl
        exact String.lt_irrefl _ hfirst
      rw [insertSorted, if_neg hne, if_neg (String.lt_asymm hfirst), List.cons_append, ih hrest]

theorem sortMembers_of_sorted {members : List (String × α)} (h : Sorted members) :
    sortMembers members = members := by
  have hall (kept : List (String × α)) (hkept : Sorted (kept ++ members)) :
      members.foldl (fun sorted m => insertSorted m.1 m.2 sorted) kept = kept ++ members := by
    induction members generalizing kept with
    | nil => rw [List.foldl_nil, List.append_nil]
    | cons first rest ih =>
        have hbefore : ∀ member ∈ kept, member.1 < first.1 := fun member hmember =>
          (List.pairwise_append.mp hkept).2.2 member hmember first List.mem_cons_self
        have hmoved : kept ++ first :: rest = (kept ++ [first]) ++ rest := by simp
        rw [List.foldl_cons, insertSorted_last hbefore, hmoved]
        rw [hmoved] at hkept
        exact ih (List.pairwise_cons.mp h).2 _ hkept
  exact hall [] h

/-- All objects in the value are sorted. -/
inductive Value.Ordered : Value → Prop
  | null : Ordered .null
  | bool (b : Bool) : Ordered (.bool b)
  | number (n : Number) : Ordered (.number n)
  | text (s : String) : Ordered (.text s)
  | list {items : List Value} (hitems : ∀ v ∈ items, Ordered v) : Ordered (.list items)
  | object {members : List (String × Value)} (hsorted : Sorted members)
      (hmembers : ∀ m ∈ members, Ordered m.2) : Ordered (.object members)

theorem valueItems_ofValues {items : List Value}
    (h : ∀ v ∈ items, (Draft.ofValue v).value = .ok v) :
    Draft.valueItems (Draft.ofValues items) = .ok items := by
  induction items with
  | nil => rfl
  | cons v rest ih =>
      obtain ⟨hv, hrest⟩ := List.forall_mem_cons.mp h
      rw [Draft.ofValues, Draft.valueItems, hv, ih hrest]
      rfl

theorem valueMembers_ofMembers {members : List (String × Value)}
    (h : ∀ m ∈ members, (Draft.ofValue m.2).value = .ok m.2) :
    Draft.valueMembers (Draft.ofMembers members) = .ok members := by
  induction members with
  | nil => rfl
  | cons m rest ih =>
      obtain ⟨hm, hrest⟩ := List.forall_mem_cons.mp h
      rw [Draft.ofMembers, Draft.valueMembers]
      simp only [hm, ih hrest]
      rfl

/-- An ordered value is read as it is. -/
theorem Value.Ordered.value_ofValue {v : Value} (h : v.Ordered) :
    (Draft.ofValue v).value = .ok v := by
  induction h with
  | null => rfl
  | bool b => rfl
  | number n => rfl
  | text s => rfl
  | list _ ih =>
      rw [Draft.ofValue, Draft.value, valueItems_ofValues ih]
      rfl
  | object hsorted _ ih =>
      rw [Draft.ofValue, Draft.value, valueMembers_ofMembers ih]
      exact congrArg (fun members => Except.ok (Value.object members))
        (sortMembers_of_sorted hsorted)

end BillingAccess.Json
