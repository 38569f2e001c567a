/-
What is asked of a session file, and what a map makes of it.

A call that has to change the file saves the changed entries, and nothing else
happens if they cannot be saved.  All other calls are answered from the entries
of the open file.
-/
import BillingAccess.Proofs.Storage.Reopening
import Mathlib.Logic.Function.Basic

namespace BillingAccess

open BillingAccess.Action

namespace FileSession

theorem set_eq_step (slot : Slot) (value : String) :
    (TokenStore.set slot value : Action FileSession Unit) =
      step fun file disk => file.set slot value disk :=
  rfl

theorem remove_eq_step (slot : Slot) :
    (TokenStore.remove slot : Action FileSession Unit) =
      step fun file disk => file.remove slot disk :=
  rfl

theorem runFrom_step (change : SessionFile → Disk → Except Fault (SessionFile × Disk))
    (s : FileSession) :
    (step change).runFrom s =
      match change s.file s.disk with
      | .ok (file, disk) => (.ok (), ⟨disk, file⟩)
      | .error fault => (.error fault, s) := by
  have hget : (get : Action FileSession FileSession).runFrom s = (.ok s, s) := rfl
  rw [step, runFrom_bind_of_ok hget]
  rcases change s.file s.disk with fault | ⟨file, disk⟩ <;> rfl

end FileSession

/-- What each key stands for. -/
abbrev TextMap := String → Option String

/-- What a session asks of its store. -/
inductive Demand
  | get (slot : Slot)
  | set (slot : Slot) (value : String)
  | remove (slot : Slot)
deriving Repr, DecidableEq

namespace Demand

def slot : Demand → Slot
  | get slot | set slot _ | remove slot => slot

/-- What a map becomes when the demand is met. -/
def apply : Demand → TextMap → TextMap
  | get _, map => map
  | set slot value, map => Function.update map slot.key (some value)
  | remove slot, map => Function.update map slot.key none

/-- The call of the store.  Only a reading gives a text. -/
def act : Demand → Action FileSession (Option String)
  | get slot => TokenStore.get slot
  | set slot value => (fun _ => none) <$> TokenStore.set slot value
  | remove slot => (fun _ => none) <$> TokenStore.remove slot

/-- Whether the file has to be written. -/
def writes : Demand → Entries → Bool
  | get _, _ => false
  | set _ _, _ => true
  | remove slot, entries => (entries.get? slot.key).isSome

/-- The entries that are written then. -/
def edit : Demand → Entries → Entries
  | get _, entries => entries
  | set slot value, entries => entries.put slot.key value
  | remove slot, entries => entries.erase slot.key

def answer : Demand → Entries → Option String
  | get slot, entries => entries.get? slot.key
  | set _ _, _ | remove _, _ => none

theorem sorted_edit (demand : Demand) {entries : Entries} (h : entries.Sorted) :
    (demand.edit entries).Sorted := by
  cases demand with
  | get slot => exact h
  | set slot value => exact h.put slot.key value
  | remove slot => exact h.erase slot.key

theorem get?_edit (demand : Demand) (entries : Entries) :
    (demand.edit entries).get? = demand.apply entries.get? := by
  cases demand with
  | get slot => rfl
  | set slot value =>
      funext key
      by_cases hsame : key = slot.key
      · rw [hsame, edit, apply, Function.update_self, Entries.get?_put_same]
      · rw [edit, apply, Function.update_of_ne hsame, Entries.get?_put_other _ _ hsame]
  | remove slot =>
      funext key
      by_cases hsame : key = slot.key
      · rw [hsame, edit, apply, Function.update_self, Entries.get?_erase_same]
      · rw [edit, apply, Function.update_of_ne hsame, Entries.get?_erase_other _ hsame]

/-- Where nothing has to be written, nothing has to change. -/
theorem apply_of_not_writes {demand : Demand} {entries : Entries}
    (h : demand.writes entries = false) : demand.apply entries.get? = entries.get? := by
  cases demand with
  | get slot => rfl
  | set slot value => contradiction
  | remove slot =>
      rw [apply, Function.update_eq_self_iff]
      exact (Option.not_isSome_iff_eq_none.mp (Bool.eq_false_iff.mp h)).symm

theorem apply_other (demand : Demand) (map : TextMap) {key : String}
    (h : key ≠ demand.slot.key) : demand.apply map key = map key := by
  cases demand with
  | get slot => rfl
  | set slot value => exact Function.update_of_ne h _ _
  | remove slot => exact Function.update_of_ne h _ _

/-- A call that need not write is answered from the entries. -/
theorem runFrom_act_of_not_writes {demand : Demand} {s : FileSession}
    (h : demand.writes s.file.entries = false) :
    demand.act.runFrom s = (.ok (demand.answer s.file.entries), s) := by
  cases demand with
  | get slot => rfl
  | set slot value => contradiction
  | remove slot =>
      have hnone := Option.not_isSome_iff_eq_none.mp (Bool.eq_false_iff.mp h)
      rw [act, FileSession.remove_eq_step, runFrom_map, FileSession.runFrom_step,
        SessionFile.remove, SessionFile.get?, hnone]
      rfl

/-- A call that has to write fails if the entries cannot be saved. -/
theorem runFrom_act_of_writes {demand : Demand} {s : FileSession}
    (h : demand.writes s.file.entries = true) :
    demand.act.runFrom s =
      match s.file.save (demand.edit s.file.entries) s.disk with
      | .ok (file, disk) => (.ok none, ⟨disk, file⟩)
      | .error fault => (.error fault, s) := by
  cases demand with
  | get slot => contradiction
  | set slot value =>
      rw [act, FileSession.set_eq_step, runFrom_map, FileSession.runFrom_step,
        SessionFile.set, edit]
      rcases s.file.save (s.file.entries.put slot.key value) s.disk with fault | ⟨file, disk⟩ <;> rfl
  | remove slot =>
      obtain ⟨held, hheld⟩ := Option.isSome_iff_exists.mp h
      rw [act, FileSession.remove_eq_step, runFrom_map, FileSession.runFrom_step,
        SessionFile.remove, SessionFile.get?, hheld, edit]
      rcases s.file.save (s.file.entries.erase slot.key) s.disk with fault | ⟨file, disk⟩ <;> rfl

end Demand

end BillingAccess
