/-
A store some of whose operations fail, and change nothing when they do.
-/
import BillingAccess.Storage.TokenStore

namespace BillingAccess

/-- Which operations fail on which slots. -/
structure Failing where
  get : Slot → Bool := fun _ => false
  set : Slot → Bool := fun _ => false
  remove : Slot → Bool := fun _ => false

structure Faulty (σ : Type) where
  store : σ
  failing : Failing

namespace Faulty

/-- A step on the store underneath. -/
def below {σ α : Type} (action : Action σ α) : Action (Faulty σ) α :=
  ExceptT.mk (Action.within Faulty.store (fun s t => { t with store := s }) action.run)

def injected (operation : String) (slot : Slot) : Fault :=
  .storage (.stated ("injected " ++ operation ++ " " ++ slot.name))

end Faulty

open Faulty in
instance {σ : Type} [TokenStore σ] : TokenStore (Faulty σ) where
  get slot := do
    if (← get).failing.get slot then throw (injected "get" slot)
    below (TokenStore.get slot)
  set slot value := do
    if (← get).failing.set slot then throw (injected "set" slot)
    below (TokenStore.set slot value)
  remove slot := do
    if (← get).failing.remove slot then throw (injected "remove" slot)
    below (TokenStore.remove slot)

end BillingAccess
