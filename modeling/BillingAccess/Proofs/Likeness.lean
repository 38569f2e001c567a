/-
Actions on two kinds of state that do the same.

From related states both give the same result and lead to related states.  What
is put together from actions alike is alike.
-/
import BillingAccess.Proofs.Action

namespace BillingAccess.Action

variable {σ τ α β : Type} {R : σ → τ → Prop}

def Alike (R : σ → τ → Prop) (first : Action σ α) (second : Action τ α) : Prop :=
  ∀ s t, R s t → (first.runFrom s).1 = (second.runFrom t).1 ∧
    R (first.runFrom s).2 (second.runFrom t).2

namespace Alike

/-- Both succeed with the same, or both fail with the same. -/
theorem cases {first : Action σ α} {second : Action τ α} (h : Alike R first second) {s : σ} {t : τ}
    (hst : R s t) :
    (∃ a s' t', first.runFrom s = (.ok a, s') ∧ second.runFrom t = (.ok a, t') ∧ R s' t') ∨
      ∃ fault s' t', first.runFrom s = (.error fault, s') ∧
        second.runFrom t = (.error fault, t') ∧ R s' t' := by
  obtain ⟨hresult, hstate⟩ := h s t hst
  rcases hfirst : first.runFrom s with ⟨fault | a, s'⟩ <;> rw [hfirst] at hresult hstate
  · exact Or.inr ⟨fault, s', _, rfl, Prod.ext hresult.symm rfl, hstate⟩
  · exact Or.inl ⟨a, s', _, rfl, Prod.ext hresult.symm rfl, hstate⟩

theorem pure (a : α) : Alike R (pure a) (pure a) :=
  fun _ _ h => ⟨rfl, h⟩

theorem throw (fault : Fault) : Alike R (throw fault : Action σ α) (throw fault) :=
  fun _ _ h => ⟨rfl, h⟩

theorem ofExcept (result : Except Fault α) : Alike R (ofExcept result) (ofExcept result) :=
  fun _ _ h => ⟨rfl, h⟩

theorem bind {first : Action σ α} {second : Action τ α} {next : α → Action σ β}
    {next' : α → Action τ β} (h : Alike R first second) (hnext : ∀ a, Alike R (next a) (next' a)) :
    Alike R (first >>= next) (second >>= next') := by
  intro s t hst
  rcases h.cases hst with ⟨a, s', t', hfirst, hsecond, hstate⟩ |
    ⟨fault, s', t', hfirst, hsecond, hstate⟩
  · rw [runFrom_bind_of_ok hfirst, runFrom_bind_of_ok hsecond]
    exact hnext a s' t' hstate
  · rw [runFrom_bind_of_error hfirst, runFrom_bind_of_error hsecond]
    exact ⟨rfl, hstate⟩

theorem map {first : Action σ α} {second : Action τ α} (f : α → β) (h : Alike R first second) :
    Alike R (f <$> first) (f <$> second) := by
  intro s t hst
  obtain ⟨hresult, hstate⟩ := h s t hst
  rw [runFrom_map, runFrom_map, hresult]
  exact ⟨rfl, hstate⟩

theorem outcome {first : Action σ α} {second : Action τ α} (h : Alike R first second) :
    Alike R first.outcome second.outcome := by
  intro s t hst
  obtain ⟨hresult, hstate⟩ := h s t hst
  rw [runFrom_outcome, runFrom_outcome, hresult]
  exact ⟨rfl, hstate⟩

end Alike

end BillingAccess.Action
