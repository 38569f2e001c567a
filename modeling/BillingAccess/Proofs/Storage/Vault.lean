/-
What a vault lets be read of its slots.

Reading changes nothing, so what is read is settled by the vault alone: the
memory and the file tell what they hold, and the keyring tells it unless it
refuses.
-/
import BillingAccess.Proofs.Settings.ClientToken
import BillingAccess.Storage.Vault

namespace BillingAccess

open BillingAccess.Action

namespace Vault

/-- What each slot holds, as far as it can be read. -/
def readable (vault : Vault) : Slots := fun slot =>
  (vault.get slot).toOption.join

theorem runFrom_get (vault : Vault) (slot : Slot) :
    (TokenStore.get slot : Action Vault _).runFrom vault = (vault.get slot, vault) :=
  rfl

end Vault

namespace Session

theorem run_read_vault (vault : Vault) (slot : Slot) :
    (read slot).run vault = (vault.readable slot, vault) := by
  rw [run_read, vault.runFrom_get]
  rfl

theorem read_keeps_vault (slot : Slot) : Keeps Eq (always (read (σ := Vault) slot)) := by
  intro vault
  rw [runFrom_always, run_read_vault]

theorem run_isLoggedIn_vault (now : Int64) (vault : Vault) :
    (isLoggedIn now).run vault =
      ((vault.readable .accessToken).isSome && lastsBeyond now (vault.readable .expiresAt),
        vault) := by
  rw [isLoggedIn, run_bind, run_read_vault]
  cases vault.readable .accessToken with
  | none => rfl
  | some token =>
      simp only [run_bind, run_read_vault]
      cases vault.readable .expiresAt <;> rfl

theorem run_accessToken_vault (now : Int64) (vault : Vault) :
    (accessToken now).run vault = (storedToken vault.readable now, vault) := by
  rw [accessToken, run_bind, run_isLoggedIn_vault, storedToken]
  cases htoken : vault.readable .accessToken with
  | none => cases lastsBeyond now (vault.readable .expiresAt) <;> rfl
  | some token =>
      cases lastsBeyond now (vault.readable .expiresAt) with
      | false => rfl
      | true => simp [run_read_vault, htoken]

end Session

end BillingAccess
