/-
Slots kept in memory; no operation fails.
-/
import BillingAccess.Storage.TokenStore

namespace BillingAccess

/-- What each slot holds. -/
abbrev Slots := Slot → Option String

namespace Slots

def empty : Slots := fun _ => none

/-- The slots with one of them holding something else. -/
def put (slots : Slots) (slot : Slot) (held : Option String) : Slots :=
  fun other => if other = slot then held else slots other

@[simp] theorem put_same (slots : Slots) (slot : Slot) (held : Option String) :
    slots.put slot held slot = held := by
  simp [put]

theorem put_other (slots : Slots) {slot other : Slot} (held : Option String) (h : other ≠ slot) :
    slots.put slot held other = slots other := by
  simp [put, h]

theorem put_put (slots : Slots) (slot : Slot) (first second : Option String) :
    (slots.put slot first).put slot second = slots.put slot second := by
  funext other
  simp only [put]
  split <;> rfl

/-- Slots that come to hold the same can be changed in either order. -/
theorem put_comm (slots : Slots) (slot other : Slot) (held : Option String) :
    (slots.put slot held).put other held = (slots.put other held).put slot held := by
  funext third
  simp only [put]
  split <;> split <;> rfl

end Slots

instance : TokenStore Slots where
  get slot := do return (← get) slot
  set slot value := modify fun slots => slots.put slot (some value)
  remove slot := modify fun slots => slots.put slot none

end BillingAccess
