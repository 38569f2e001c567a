/-
What keeps the slots of a session.

Every operation may fail, and may change the store even then: whether it does
is for each kind of store to say.
-/
import BillingAccess.Fault
import BillingAccess.Storage.Slot

namespace BillingAccess

/-- Steps on a store, or on a larger state that holds one. -/
abbrev Action (σ : Type) := ExceptT Fault (StateM σ)

/-- The operations of a store, as steps on its state. -/
class TokenStore (σ : Type) where
  get : Slot → Action σ (Option String)
  set : Slot → String → Action σ Unit
  /-- Removing what is not there is no failure. -/
  remove : Slot → Action σ Unit

namespace Action

/-- A step that cannot fail. -/
def always {σ α : Type} (step : StateM σ α) : Action σ α :=
  ExceptT.lift step

/-- What a step gives, whether it fails or not. -/
def outcome {σ α : Type} (action : Action σ α) : Action σ (Except Fault α) :=
  ExceptT.lift action.run

/-- A result that is there already. -/
def ofExcept {σ α : Type} (result : Except Fault α) : Action σ α :=
  ExceptT.mk (pure result)

/-- The result of a step from a state, and the state after it. -/
def runFrom {σ α : Type} (action : Action σ α) (s : σ) : Except Fault α × σ :=
  action.run.run s

/-- A step on a part of a larger state. -/
def within {σ τ α : Type} (part : τ → σ) (put : σ → τ → τ) (action : StateM σ α) : StateM τ α :=
  fun t =>
    let (a, s) := action.run (part t)
    (a, put s t)

end Action

end BillingAccess
