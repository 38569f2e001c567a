/-
Removing several slots, of which some cannot be removed.

Every slot of the list is tried in its turn.  On a store whose removals do not
get in each other's way, the result is that of the first that fails by itself,
and a list can be gone through again, after any part of it, as if that part had
not been.
-/
import BillingAccess.Proofs.Session.Steps
import BillingAccess.Storage.Faulty

namespace BillingAccess.Session

open BillingAccess.Action

variable {σ : Type} [TokenStore σ] {slot : Slot} {slots : List Slot}

/-- With what the removal of a slot fails, if it does. -/
def refusal (s : σ) (slot : Slot) : Option Fault :=
  match ((TokenStore.remove slot : Action σ Unit).runFrom s).1 with
  | .ok () => none
  | .error fault => some fault

/-- The store after the removal of a slot, whether it fails or not. -/
def without (s : σ) (slot : Slot) : σ :=
  ((TokenStore.remove slot : Action σ Unit).runFrom s).2

/-- A fault is the result if there is one. -/
def resultOf : Option Fault → Except Fault Unit
  | none => .ok ()
  | some fault => .error fault

theorem runFrom_remove (s : σ) (slot : Slot) :
    (TokenStore.remove slot : Action σ Unit).runFrom s =
      (resultOf (refusal s slot), without s slot) := by
  rw [refusal, without]
  rcases (TokenStore.remove slot : Action σ Unit).runFrom s with ⟨_ | _, _⟩ <;> rfl

theorem refusal_of_removed {s s' : σ}
    (h : (TokenStore.remove slot : Action σ Unit).runFrom s = (.ok (), s')) :
    refusal s slot = none := by
  rw [refusal, h]

theorem refusal_of_refused {s s' : σ} {fault : Fault}
    (h : (TokenStore.remove slot : Action σ Unit).runFrom s = (.error fault, s')) :
    refusal s slot = some fault := by
  rw [refusal, h]

theorem without_of_run {s s' : σ} {result : Except Fault Unit}
    (h : (TokenStore.remove slot : Action σ Unit).runFrom s = (result, s')) :
    without s slot = s' := by
  rw [without, h]

/-- The rest of a list is tried whether its first slot is removed or not. -/
theorem runFrom_removeAll_cons (slot : Slot) (rest : List Slot) (s : σ) :
    (removeAll (slot :: rest)).runFrom s =
      (match refusal s slot with
        | none => ((removeAll rest).runFrom (without s slot)).1
        | some fault => .error fault,
      ((removeAll rest).runFrom (without s slot)).2) := by
  have hremove := runFrom_remove s slot
  cases hrefusal : refusal s slot with
  | none =>
      rw [hrefusal] at hremove
      exact runFrom_removeAll_of_ok hremove rest
  | some fault =>
      rw [hrefusal] at hremove
      exact runFrom_removeAll_of_error hremove rest

theorem state_removeAll (slots : List Slot) (s : σ) :
    ((removeAll slots).runFrom s).2 = slots.foldl without s := by
  induction slots generalizing s with
  | nil => rfl
  | cons slot rest ih =>
      rw [runFrom_removeAll_cons, List.foldl_cons]
      exact ih (without s slot)

/-- Removals that do not get in each other's way: none has a say in which others
fail, and neither their order nor their number matters. -/
class Orderly (σ : Type) [TokenStore σ] : Prop where
  refusal_without (s : σ) (slot : Slot) : refusal (without s slot) = refusal s
  without_again (s : σ) (slot : Slot) : without (without s slot) slot = without s slot
  without_swap (s : σ) (slot other : Slot) :
    without (without s slot) other = without (without s other) slot

open Orderly

section

variable [Orderly σ]

/-- The first slot that cannot be removed by itself decides the result. -/
theorem result_removeAll (slots : List Slot) (s : σ) :
    ((removeAll slots).runFrom s).1 = resultOf (slots.findSome? (refusal s)) := by
  induction slots generalizing s with
  | nil => rfl
  | cons slot rest ih =>
      rw [runFrom_removeAll_cons, List.findSome?_cons]
      cases refusal s slot with
      | none =>
          have hrest := ih (without s slot)
          rwa [refusal_without] at hrest
      | some fault => rfl

/-- A slot that is removed with all others may have been removed before. -/
theorem foldl_without_of_mem (h : slot ∈ slots) (s : σ) :
    slots.foldl without (without s slot) = slots.foldl without s := by
  induction slots generalizing s with
  | nil => contradiction
  | cons first rest ih =>
      rw [List.foldl_cons, List.foldl_cons]
      by_cases hfirst : slot = first
      · rw [hfirst, without_again]
      · have hrest : slot ∈ rest := List.mem_of_ne_of_mem hfirst h
        rw [without_swap, ih hrest]

/-- Going through the whole list makes up for having gone through a part of it. -/
theorem removeAll_after {part : List Slot} (hpart : part ⊆ slots) (s : σ) :
    (removeAll slots).runFrom (part.foldl without s) = (removeAll slots).runFrom s := by
  induction part generalizing s with
  | nil => rfl
  | cons slot rest ih =>
      obtain ⟨hslot, hrest⟩ := List.cons_subset.mp hpart
      rw [List.foldl_cons, ih hrest]
      apply Prod.ext
      · rw [result_removeAll, result_removeAll, refusal_without]
      · rw [state_removeAll, state_removeAll, foldl_without_of_mem hslot]

end

section

open Faulty

variable {s : σ} {failing : Failing}

theorem runFrom_remove_faulty (s : σ) (failing : Failing) (slot : Slot) :
    (TokenStore.remove slot : Action (Faulty σ) Unit).runFrom ⟨s, failing⟩ =
      if failing.remove slot then (.error (injected "remove" slot), ⟨s, failing⟩)
      else (((TokenStore.remove slot : Action σ Unit).runFrom s).1,
        ⟨without s slot, failing⟩) := by
  have hget : (get : Action (Faulty σ) (Faulty σ)).runFrom ⟨s, failing⟩ =
      (.ok ⟨s, failing⟩, ⟨s, failing⟩) := rfl
  have hstep : (TokenStore.remove slot : Action (Faulty σ) Unit) = (do
      if (← get).failing.remove slot then throw (injected "remove" slot)
      below (TokenStore.remove slot)) := rfl
  rw [hstep, runFrom_bind_of_ok hget]
  cases failing.remove slot <;> rfl

theorem refusal_of_fails (h : failing.remove slot = true) :
    refusal (Faulty.mk s failing) slot = some (injected "remove" slot) := by
  have hremove := runFrom_remove_faulty s failing slot
  rw [if_pos h] at hremove
  exact refusal_of_refused hremove

theorem refusal_of_works (h : failing.remove slot = false) :
    refusal (Faulty.mk s failing) slot = refusal s slot := by
  rw [refusal, runFrom_remove_faulty, h]
  rfl

theorem without_of_fails (h : failing.remove slot = true) :
    without (Faulty.mk s failing) slot = ⟨s, failing⟩ := by
  have hremove := runFrom_remove_faulty s failing slot
  rw [if_pos h] at hremove
  exact without_of_run hremove

theorem without_of_works (h : failing.remove slot = false) :
    without (Faulty.mk s failing) slot = ⟨without s slot, failing⟩ := by
  have hremove := runFrom_remove_faulty s failing slot
  rw [h] at hremove
  exact without_of_run hremove

/-- Below the failures the store goes through the slots that are left. -/
theorem foldl_without_faulty (slots : List Slot) (s : σ) (failing : Failing) :
    slots.foldl without (Faulty.mk s failing) =
      ⟨(slots.filter (!failing.remove ·)).foldl without s, failing⟩ := by
  induction slots generalizing s with
  | nil => rfl
  | cons slot rest ih =>
      rw [List.foldl_cons]
      cases hfails : failing.remove slot with
      | true => rw [without_of_fails hfails, ih, List.filter_cons_of_neg (by simp [hfails])]
      | false =>
          rw [without_of_works hfails, ih, List.filter_cons_of_pos (by simp [hfails]),
            List.foldl_cons]

variable [Orderly σ]

instance : Orderly (Faulty σ) where
  refusal_without := by
    intro ⟨s, failing⟩ slot
    cases hfails : failing.remove slot with
    | true => rw [without_of_fails hfails]
    | false =>
        rw [without_of_works hfails]
        funext other
        cases hother : failing.remove other with
        | true => rw [refusal_of_fails hother, refusal_of_fails hother]
        | false => rw [refusal_of_works hother, refusal_of_works hother, refusal_without]
  without_again := by
    intro ⟨s, failing⟩ slot
    cases hfails : failing.remove slot with
    | true => rw [without_of_fails hfails, without_of_fails hfails]
    | false => rw [without_of_works hfails, without_of_works hfails, without_again]
  without_swap := by
    intro ⟨s, failing⟩ slot other
    cases hfails : failing.remove slot with
    | true =>
        rw [without_of_fails hfails]
        cases hother : failing.remove other with
        | true => rw [without_of_fails hother, without_of_fails hfails]
        | false => rw [without_of_works hother, without_of_fails hfails]
    | false =>
        rw [without_of_works hfails]
        cases hother : failing.remove other with
        | true => rw [without_of_fails hother, without_of_fails hother, without_of_works hfails]
        | false =>
            rw [without_of_works hother, without_of_works hother, without_of_works hfails,
              without_swap]

/-- Once no failure is injected a list is gone through as if none had been. -/
theorem removeAll_restored (slots : List Slot) (s : σ) (failing : Failing) {restored : Failing}
    (h : ∀ slot, restored.remove slot = false) :
    (removeAll slots).runFrom
        (Faulty.mk ((removeAll slots).runFrom (Faulty.mk s failing)).2.store restored) =
      (removeAll slots).runFrom (Faulty.mk s restored) := by
  let part := slots.filter (!failing.remove ·)
  have hall : part.filter (!restored.remove ·) = part :=
    List.filter_eq_self.mpr fun slot _ => by rw [h slot]; rfl
  have hpart : Faulty.mk ((removeAll slots).runFrom (Faulty.mk s failing)).2.store restored =
      part.foldl without (Faulty.mk s restored) := by
    rw [state_removeAll, foldl_without_faulty, foldl_without_faulty, hall]
  rw [hpart]
  exact removeAll_after List.filter_sublist.subset _

end

end BillingAccess.Session
