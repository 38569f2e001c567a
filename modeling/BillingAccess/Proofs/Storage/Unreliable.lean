/-
A store whose calls may fail at any time.

Which calls fail is a table from the number of a call and what it asks for to
its fault, so every pattern of failures is one table.  A call that fails
changes no slot.
-/
import BillingAccess.Proofs.Action
import BillingAccess.Storage.Memory

namespace BillingAccess

/-- What is asked of a store. -/
inductive StoreCall
  | get (slot : Slot)
  | set (slot : Slot)
  | remove (slot : Slot)
deriving Repr, DecidableEq

structure Unreliable where
  slots : Slots
  /-- With what a call fails, if it does, by its number. -/
  failure : Nat → StoreCall → Option Fault
  /-- How many calls there have been. -/
  calls : Nat := 0

namespace Unreliable

/-- Makes a call: it fails and changes nothing but the count, or it gives an
answer and changes the slots. -/
def call {α : Type} (what : StoreCall) (answer : Slots → α) (change : Slots → Slots) :
    Action Unreliable α := fun u =>
  match u.failure u.calls what with
  | some fault => (.error fault, { u with calls := u.calls + 1 })
  | none => (.ok (answer u.slots), { u with slots := change u.slots, calls := u.calls + 1 })

instance : TokenStore Unreliable where
  get slot := call (.get slot) (· slot) id
  set slot value := call (.set slot) (fun _ => ()) (·.put slot (some value))
  remove slot := call (.remove slot) (fun _ => ()) (·.put slot none)

/-- No call ever fails. -/
def NeverFails (u : Unreliable) : Prop :=
  ∀ n what, u.failure n what = none

/-- Reading and removing never fail. -/
def OnlyWritesFail (u : Unreliable) : Prop :=
  ∀ n slot, u.failure n (.get slot) = none ∧ u.failure n (.remove slot) = none

theorem NeverFails.onlyWritesFail {u : Unreliable} (h : u.NeverFails) : u.OnlyWritesFail :=
  fun n slot => ⟨h n (.get slot), h n (.remove slot)⟩

/-- The same slots after one more call. -/
def counted (u : Unreliable) : Unreliable :=
  { u with calls := u.calls + 1 }

/-- Other slots after one more call. -/
def changed (u : Unreliable) (slots : Slots) : Unreliable :=
  { u with slots := slots, calls := u.calls + 1 }

/-- What a reading of a slot gives: nothing if it fails. -/
def readable (u : Unreliable) (slot : Slot) : Option String :=
  if (u.failure u.calls (.get slot)).isSome then none else u.slots slot

variable {α : Type}

/-- Everything that a call can do. -/
theorem call_cases (what : StoreCall) (answer : Slots → α) (change : Slots → Slots)
    (u : Unreliable) :
    (∃ fault, u.failure u.calls what = some fault ∧
      (call what answer change).runFrom u = (.error fault, u.counted)) ∨
    (u.failure u.calls what = none ∧
      (call what answer change).runFrom u =
        (.ok (answer u.slots), u.changed (change u.slots))) := by
  cases h : u.failure u.calls what with
  | some fault =>
      refine Or.inl ⟨fault, rfl, ?_⟩
      change (match u.failure u.calls what with | some _ => _ | none => _) = _
      rw [h]
      rfl
  | none =>
      refine Or.inr ⟨rfl, ?_⟩
      change (match u.failure u.calls what with | some _ => _ | none => _) = _
      rw [h]
      rfl

theorem get_cases (slot : Slot) (u : Unreliable) :
    (∃ fault, u.failure u.calls (.get slot) = some fault ∧
      (TokenStore.get slot : Action Unreliable _).runFrom u = (.error fault, u.counted)) ∨
    (u.failure u.calls (.get slot) = none ∧
      (TokenStore.get slot : Action Unreliable _).runFrom u = (.ok (u.slots slot), u.counted)) :=
  call_cases (.get slot) (· slot) id u

theorem set_cases (slot : Slot) (value : String) (u : Unreliable) :
    (∃ fault, u.failure u.calls (.set slot) = some fault ∧
      (TokenStore.set slot value : Action Unreliable Unit).runFrom u =
        (.error fault, u.counted)) ∨
    (u.failure u.calls (.set slot) = none ∧
      (TokenStore.set slot value : Action Unreliable Unit).runFrom u =
        (.ok (), u.changed (u.slots.put slot (some value)))) :=
  call_cases (.set slot) (fun _ => ()) (·.put slot (some value)) u

theorem remove_cases (slot : Slot) (u : Unreliable) :
    (∃ fault, u.failure u.calls (.remove slot) = some fault ∧
      (TokenStore.remove slot : Action Unreliable Unit).runFrom u = (.error fault, u.counted)) ∨
    (u.failure u.calls (.remove slot) = none ∧
      (TokenStore.remove slot : Action Unreliable Unit).runFrom u =
        (.ok (), u.changed (u.slots.put slot none))) :=
  call_cases (.remove slot) (fun _ => ()) (·.put slot none) u

/-- A write that succeeds has written. -/
theorem set_of_ok {slot : Slot} {value : String} {u u' : Unreliable}
    (h : (TokenStore.set slot value : Action Unreliable Unit).runFrom u = (.ok (), u')) :
    u'.slots = u.slots.put slot (some value) := by
  rcases set_cases slot value u with ⟨fault, -, hrun⟩ | ⟨-, hrun⟩ <;> rw [hrun] at h
  · injection h with hresult
    contradiction
  · injection h with _ hstate
    rw [← hstate, changed]

theorem set_of_fails {slot : Slot} {u : Unreliable} {fault : Fault}
    (h : u.failure u.calls (.set slot) = some fault) (value : String) :
    (TokenStore.set slot value : Action Unreliable Unit).runFrom u = (.error fault, u.counted) := by
  rcases set_cases slot value u with ⟨refusal, hfails, hrun⟩ | ⟨hworks, -⟩
  · obtain rfl : fault = refusal := Option.some.inj (h.symm.trans hfails)
    exact hrun
  · rw [h] at hworks
    contradiction

theorem set_of_works {slot : Slot} {u : Unreliable}
    (h : u.failure u.calls (.set slot) = none) (value : String) :
    (TokenStore.set slot value : Action Unreliable Unit).runFrom u =
      (.ok (), u.changed (u.slots.put slot (some value))) := by
  rcases set_cases slot value u with ⟨fault, hfails, -⟩ | ⟨-, hrun⟩
  · rw [h] at hfails
    contradiction
  · exact hrun

theorem set_of_neverFails {u : Unreliable} (hu : u.NeverFails) (slot : Slot) (value : String) :
    (TokenStore.set slot value : Action Unreliable Unit).runFrom u =
      (.ok (), u.changed (u.slots.put slot (some value))) :=
  set_of_works (hu _ _) value

theorem remove_of_onlyWritesFail {u : Unreliable} (hu : u.OnlyWritesFail) (slot : Slot) :
    (TokenStore.remove slot : Action Unreliable Unit).runFrom u =
      (.ok (), u.changed (u.slots.put slot none)) := by
  rcases remove_cases slot u with ⟨fault, hfails, -⟩ | ⟨-, hrun⟩
  · rw [(hu _ slot).2] at hfails
    contradiction
  · exact hrun

/-- Nothing but some slots, and the count of calls, has changed. -/
def ChangesOnly (touched : List Slot) (u u' : Unreliable) : Prop :=
  u'.failure = u.failure ∧ ∀ slot, slot ∉ touched → u'.slots slot = u.slots slot

namespace ChangesOnly

variable {touched more : List Slot} {u u' : Unreliable}

theorem refl (u : Unreliable) : ChangesOnly touched u u :=
  ⟨rfl, fun _ _ => rfl⟩

theorem trans {u u' u'' : Unreliable} (h : ChangesOnly touched u u')
    (h' : ChangesOnly touched u' u'') : ChangesOnly touched u u'' := by
  refine ⟨h'.1.trans h.1, ?_⟩
  intro slot hslot
  rw [h'.2 slot hslot, h.2 slot hslot]

instance : Std.Refl (ChangesOnly touched) := ⟨refl⟩

instance : IsTrans Unreliable (ChangesOnly touched) := ⟨fun _ _ _ => trans⟩

theorem neverFails (h : ChangesOnly touched u u') (hu : u.NeverFails) : u'.NeverFails := by
  intro n what
  rw [h.1, hu n what]

theorem onlyWritesFail (h : ChangesOnly touched u u') (hu : u.OnlyWritesFail) :
    u'.OnlyWritesFail := by
  intro n slot
  rw [h.1]
  exact hu n slot

theorem mono (h : ChangesOnly touched u u') (hsub : touched ⊆ more) :
    ChangesOnly more u u' :=
  ⟨h.1, fun slot hslot => h.2 slot fun hmem => hslot (hsub hmem)⟩

end ChangesOnly

theorem get_keeps (slot : Slot) :
    Action.Keeps (ChangesOnly []) (TokenStore.get slot : Action Unreliable _) := by
  intro u
  rcases get_cases slot u with ⟨fault, -, hrun⟩ | ⟨-, hrun⟩ <;> rw [hrun] <;>
    exact ⟨rfl, fun _ _ => rfl⟩

theorem set_keeps (slot : Slot) (value : String) :
    Action.Keeps (ChangesOnly [slot]) (TokenStore.set slot value : Action Unreliable Unit) := by
  intro u
  rcases set_cases slot value u with ⟨fault, -, hrun⟩ | ⟨-, hrun⟩ <;> rw [hrun]
  · exact ⟨rfl, fun _ _ => rfl⟩
  · exact ⟨rfl, fun other hother => u.slots.put_other _ (by simpa using hother)⟩

theorem remove_keeps (slot : Slot) :
    Action.Keeps (ChangesOnly [slot]) (TokenStore.remove slot : Action Unreliable Unit) := by
  intro u
  rcases remove_cases slot u with ⟨fault, -, hrun⟩ | ⟨-, hrun⟩ <;> rw [hrun]
  · exact ⟨rfl, fun _ _ => rfl⟩
  · exact ⟨rfl, fun other hother => u.slots.put_other _ (by simpa using hother)⟩

end Unreliable

end BillingAccess
