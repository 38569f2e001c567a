/-
Steps that every command takes: opening the session, and printing.
-/
import BillingAccess.Command.Report
import BillingAccess.Command.Billing
import BillingAccess.Proofs.SignIn.Silent
import BillingAccess.Proofs.Storage.Vault

namespace BillingAccess.Command

open BillingAccess.Action SignIn

variable {setting : Setting} {w : World Vault} {vault : Vault} {R : Vault → Vault → Prop}

theorem runFrom_openSession
    (h : setting.settings.storage.openIn setting.environment w.store = .ok vault) :
    (openSession setting).runFrom w = (.ok (), { w with store := vault }) := by
  have hread : (openSession setting).runFrom w =
      (Action.ofExcept (setting.settings.storage.openIn setting.environment w.store) >>=
        fun vault => set { w with store := vault }).runFrom w :=
    rfl
  rw [hread, h]
  rfl

/-- Nothing differs but what was printed. -/
def SameButPrinted (w w' : World Vault) : Prop :=
  ∃ printed, w' = { w with printed := printed }

theorem SameButPrinted.trans {w w' w'' : World Vault} (h : SameButPrinted w w')
    (h' : SameButPrinted w' w'') : SameButPrinted w w'' := by
  obtain ⟨_, rfl⟩ := h
  obtain ⟨printed, rfl⟩ := h'
  exact ⟨printed, rfl⟩

theorem runFrom_printLine (text : String) (w : World Vault) :
    (printLine text).runFrom w = (.ok (), { w with printed := w.printed ++ text ++ "\n" }) :=
  rfl

theorem exists_runFrom_printLines (lines : List String) (w : World Vault) :
    ∃ w', (printLines lines).runFrom w = (.ok (), w') ∧ SameButPrinted w w' := by
  induction lines generalizing w with
  | nil => exact ⟨w, rfl, w.printed, rfl⟩
  | cons line rest ih =>
      obtain ⟨w', hrun, hsame⟩ := ih { w with printed := w.printed ++ line ++ "\n" }
      refine ⟨w', ?_, SameButPrinted.trans ⟨_, rfl⟩ hsame⟩
      change (printLine line >>= fun _ => printLines rest).runFrom w = _
      rw [runFrom_bind_of_ok (runFrom_printLine line w)]
      exact hrun

section

variable [Std.Refl R]

theorem SameButPrinted.silent {w w' : World Vault} (h : SameButPrinted w w') : Silent R w w' := by
  obtain ⟨_, rfl⟩ := h
  exact ⟨rfl, rfl, refl_of R w.store⟩

theorem printLine_silent (text : String) : Keeps (Silent R) (printLine text) :=
  fun _ => SameButPrinted.silent ⟨_, rfl⟩

theorem printLines_silent (lines : List String) : Keeps (Silent R) (printLines lines) := by
  intro w
  obtain ⟨w', hrun, hsame⟩ := exists_runFrom_printLines lines w
  rw [hrun]
  exact hsame.silent

theorem present_silent (json : Bool) (value : Json.Value) (lines : List String) :
    Keeps (Silent R) (present json value lines) := by
  cases json with
  | false => exact printLines_silent lines
  | true => exact printLine_silent value.pretty

theorem presentList_silent {α : Type} (json : Bool) (codec : Json.Codec α) (items : List α)
    (none_ : String) (lines : List String) :
    Keeps (Silent R) (presentList json codec items none_ lines) :=
  present_silent json _ _

end

end BillingAccess.Command
