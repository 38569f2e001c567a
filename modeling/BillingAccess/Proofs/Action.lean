/-
Where actions lead.

An action is followed from a state to its result and the state after it.
Relations between the state before and the state after are what most facts
about actions are made of; those that are kept step by step are kept by whole
actions.
-/
import BillingAccess.World
import Mathlib.Order.Defs.Unbundled

namespace BillingAccess.Action

variable {σ α β : Type}

theorem runFrom_bind (action : Action σ α) (next : α → Action σ β) (s : σ) :
    (action >>= next).runFrom s =
      match action.runFrom s with
      | (.ok a, s) => (next a).runFrom s
      | (.error fault, s) => (.error fault, s) := by
  simp only [runFrom, ExceptT.run_bind, StateT.run_bind]
  rcases action.run.run s with ⟨_ | _, _⟩ <;> rfl

theorem runFrom_bind_of_ok {action : Action σ α} {next : α → Action σ β} {s s' : σ} {a : α}
    (h : action.runFrom s = (.ok a, s')) :
    (action >>= next).runFrom s = (next a).runFrom s' := by
  rw [runFrom_bind, h]

theorem runFrom_bind_of_error {action : Action σ α} {next : α → Action σ β} {s s' : σ}
    {fault : Fault} (h : action.runFrom s = (.error fault, s')) :
    (action >>= next).runFrom s = (.error fault, s') := by
  rw [runFrom_bind, h]

/-- What comes before a success has succeeded. -/
theorem exists_of_runFrom_bind {action : Action σ α} {next : α → Action σ β} {s s'' : σ} {b : β}
    (h : (action >>= next).runFrom s = (.ok b, s'')) :
    ∃ a s', action.runFrom s = (.ok a, s') ∧ (next a).runFrom s' = (.ok b, s'') := by
  rcases haction : action.runFrom s with ⟨fault | a, s'⟩
  · rw [runFrom_bind_of_error haction] at h
    injection h with hresult
    contradiction
  · rw [runFrom_bind_of_ok haction] at h
    exact ⟨a, s', rfl, h⟩

instance {ε : Type} {result : Except ε α} {p : α → Prop} [DecidablePred p] :
    Decidable (∃ a, result = .ok a ∧ p a) :=
  match result with
  | .ok a => decidable_of_iff (p a) ⟨fun h => ⟨a, rfl, h⟩, fun ⟨_, ha, h⟩ => Except.ok.inj ha ▸ h⟩
  | .error _ => isFalse fun ⟨_, ha, _⟩ => nomatch ha

theorem eq_ok_of_toOption {ε : Type} {result : Except ε α} {a : α}
    (h : result.toOption = some a) : result = .ok a := by
  cases result with
  | error fault => cases h
  | ok other => exact congrArg Except.ok (Option.some.inj h)

theorem runFrom_eq_of_toOption {action : Action σ α} {s : σ} {a : α}
    (h : (action.runFrom s).1.toOption = some a) :
    action.runFrom s = (.ok a, (action.runFrom s).2) :=
  Prod.ext (eq_ok_of_toOption h) rfl

theorem exists_runFrom_of_isOk {action : Action σ α} {s : σ} (h : (action.runFrom s).1.isOk) :
    ∃ a s', action.runFrom s = (.ok a, s') := by
  rcases hrun : action.runFrom s with ⟨fault | a, s'⟩
  · rw [hrun] at h
    cases h
  · exact ⟨a, s', rfl⟩

theorem isOk_map (f : α → β) (result : Except Fault α) : (result.map f).isOk = result.isOk := by
  cases result <;> rfl

@[simp] theorem runFrom_always (step : StateM σ α) (s : σ) :
    (always step).runFrom s = (.ok (step.run s).1, (step.run s).2) :=
  rfl

@[simp] theorem runFrom_ofExcept (result : Except Fault α) (s : σ) :
    (ofExcept result).runFrom s = (result, s) :=
  rfl

@[simp] theorem runFrom_outcome (action : Action σ α) (s : σ) :
    (outcome action).runFrom s = (.ok (action.runFrom s).1, (action.runFrom s).2) :=
  rfl

@[simp] theorem runFrom_map (f : α → β) (action : Action σ α) (s : σ) :
    (f <$> action).runFrom s = ((action.runFrom s).1.map f, (action.runFrom s).2) := by
  rw [map_eq_pure_bind, runFrom_bind]
  rcases action.runFrom s with ⟨_ | _, _⟩ <;> rfl

@[simp] theorem runFrom_onStore (action : Action σ α) (w : World σ) :
    (World.onStore action).runFrom w =
      ((action.runFrom w.store).1, { w with store := (action.runFrom w.store).2 }) :=
  rfl

theorem always_bind (step : StateM σ α) (next : α → StateM σ β) :
    always (step >>= next) = always step >>= fun a => always (next a) :=
  rfl

theorem always_readStore (reading : StateM σ α) :
    always (World.readStore reading) = World.onStore (always reading) :=
  rfl

theorem onStore_bind (action : Action σ α) (next : α → Action σ β) :
    World.onStore (action >>= next) =
      World.onStore action >>= fun a => World.onStore (next a) := by
  funext w
  have hbind := runFrom_bind (World.onStore action) (fun a => World.onStore (next a)) w
  refine Eq.trans ?_ hbind.symm
  change (World.onStore (action >>= next)).runFrom w = _
  rw [runFrom_onStore, runFrom_onStore, runFrom_bind]
  rcases action.runFrom w.store with ⟨_ | _, _⟩ <;> rfl

/-- A step that cannot fail goes on from the state of the one before it. -/
theorem run_bind (step : StateM σ α) (next : α → StateM σ β) (s : σ) :
    (step >>= next).run s = (next (step.run s).1).run (step.run s).2 :=
  rfl

/-- Whether it fails or not, the action leads only to states that `R` relates
to the one before. -/
def Keeps (R : σ → σ → Prop) (action : Action σ α) : Prop :=
  ∀ s, R s (action.runFrom s).2

namespace Keeps

variable {R : σ → σ → Prop}

theorem pure [Std.Refl R] (a : α) : Keeps R (pure a : Action σ α) :=
  fun s => refl_of R s

theorem throw [Std.Refl R] (fault : Fault) : Keeps R (throw fault : Action σ α) :=
  fun s => refl_of R s

theorem ofExcept [Std.Refl R] (result : Except Fault α) :
    Keeps R (ofExcept result : Action σ α) :=
  fun s => refl_of R s

theorem bind [IsTrans σ R] {action : Action σ α} {next : α → Action σ β}
    (hfirst : Keeps R action) (hnext : ∀ a, Keeps R (next a)) : Keeps R (action >>= next) := by
  intro s
  have hs := hfirst s
  rcases h : action.runFrom s with ⟨fault | a, s'⟩
  · rwa [runFrom_bind_of_error h, ← congrArg Prod.snd h]
  · rw [h] at hs
    rw [runFrom_bind_of_ok h]
    exact trans_of R hs (hnext a s')

theorem map {action : Action σ α} (f : α → β) (h : Keeps R action) : Keeps R (f <$> action) := by
  intro s
  rw [runFrom_map]
  exact h s

theorem outcome {action : Action σ α} (h : Keeps R action) : Keeps R action.outcome :=
  h

theorem onStore {S : World σ → World σ → Prop} {action : Action σ α} (h : Keeps R action)
    (lift : ∀ w s, R w.store s → S w { w with store := s }) : Keeps S (World.onStore action) :=
  fun w => lift w _ (h w.store)

end Keeps

end BillingAccess.Action

namespace BillingAccess.World

variable {σ : Type}

/-- What the clock shows when it is read once more. -/
def nextTime (w : World σ) : Int64 :=
  w.later.headD w.now

theorem run_readClock (w : World σ) :
    World.readClock.run w = (w.now, { w with now := w.nextTime, later := w.later.tail }) := by
  obtain ⟨store, now, later, random, network, stage, attempts, visitors, replies, printed⟩ := w
  cases later <;> rfl

theorem run_send_of_ok {request : Request} {url : Url} (h : request.destination = .ok url)
    (w : World σ) : (World.send request).run w =
      ((w.network.exchange url).1, { w with
        attempts := w.attempts ++ [⟨request, w.network.delivers url, w.store⟩]
        network := (w.network.exchange url).2 }) := by
  simp only [World.send, StateT.run, h]

theorem run_send_of_error {request : Request} {fault : TransportFault}
    (h : request.destination = .error fault) (w : World σ) : (World.send request).run w =
      (.failed fault, { w with attempts := w.attempts ++ [⟨request, false, w.store⟩] }) := by
  simp only [World.send, StateT.run, h]

end BillingAccess.World
