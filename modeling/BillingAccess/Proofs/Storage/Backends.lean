/-
What the places of a session have in common.

Wherever a session is kept, a value that was set is held there.  What was set
in a file or in the keyring is still there when the place is opened again.
Memory and a file that has been written serve every call from then on, and so
does a keyring that refuses none; they do what a map of the slots does.
-/
import BillingAccess.Proofs.Storage.Reference
import BillingAccess.Proofs.Storage.SessionFile
import BillingAccess.Proofs.Storage.Unreliable
import BillingAccess.Settings.Locations

namespace BillingAccess

open BillingAccess.Action Session

namespace Keyring

variable {keyring : Keyring} {service user other password : String}

theorem isFor_iff {secret : Secret} :
    isFor service user secret = true ↔ secret.service = service ∧ secret.user = user := by
  rw [isFor, Bool.and_eq_true, beq_iff_eq, beq_iff_eq]

theorem find?_put_same :
    (keyring.put service user password).find? service user = some password := by
  have hfor : isFor service user ⟨service, user, password⟩ = true := isFor_iff.mpr ⟨rfl, rfl⟩
  rw [find?, put, List.find?_cons_of_pos hfor]
  rfl

theorem find?_filter_other (h : other ≠ user) (secrets : List Secret) :
    (secrets.filter (!isFor service user ·)).find? (isFor service other) =
      secrets.find? (isFor service other) := by
  rw [List.find?_filter]
  congr 1
  funext secret
  rw [Bool.eq_iff_iff, decide_eq_true_iff, and_iff_right_iff_imp, Bool.not_eq_true',
    Bool.eq_false_iff]
  intro hother hsame
  exact h ((isFor_iff.mp hother).2.symm.trans (isFor_iff.mp hsame).2)

theorem find?_put_other (h : other ≠ user) :
    (keyring.put service user password).find? service other = keyring.find? service other := by
  have hnot : ¬isFor service other ⟨service, user, password⟩ = true :=
    fun hfor => h (isFor_iff.mp hfor).2.symm
  rw [find?, put, List.find?_cons_of_neg hnot, find?_filter_other h, ← find?]

theorem find?_erase_same : (keyring.erase service user).find? service user = none := by
  rw [find?, erase, List.find?_filter, Option.map_eq_none_iff, List.find?_eq_none]
  simp

theorem find?_erase_other (h : other ≠ user) :
    (keyring.erase service user).find? service other = keyring.find? service other := by
  rw [find?, erase, find?_filter_other h, ← find?]

theorem erase_erase (keyring : Keyring) (service user : String) :
    (keyring.erase service user).erase service user = keyring.erase service user := by
  simp only [erase, List.filter_filter, Bool.and_self]

theorem erase_comm (keyring : Keyring) (service user other : String) :
    (keyring.erase service user).erase service other =
      (keyring.erase service other).erase service user := by
  simp only [erase, List.filter_filter, Bool.and_comm]

end Keyring

/-- A file that was written has the entries on the disk. -/
theorem Mirrors.of_save {file saved : SessionFile} {entries : Entries} {disk written : Disk}
    (hsorted : entries.Sorted) (h : file.save entries disk = .ok (saved, written)) :
    ∃ place, Mirrors file.path place ⟨written, saved⟩ saved.get? := by
  obtain ⟨rfl, place, mode, hleads, rfl⟩ := SessionFile.leads_of_save h
  exact ⟨place, rfl, hleads.put _ _, .inr ⟨mode, Disk.nodeAt?_put_same hleads.free _⟩, hsorted,
    fun _ => rfl⟩

namespace Vault

variable {vault kept : Vault} {slot : Slot} {value : String}

/-- What each slot holds, whether it can be read or not. -/
def held (vault : Vault) : Slots := fun slot =>
  match vault.backend with
  | .memory slots => slots slot
  | .file file => file.get? slot
  | .keyring service => vault.keyring.find? service slot.key

/-- The slots with one of them changed, told slot by slot. -/
theorem held_eq_put {before after : Vault} {change : Option String}
    (hsame : after.held slot = change)
    (hother : ∀ other, other ≠ slot → after.held other = before.held other) :
    after.held = before.held.put slot change := by
  funext other
  by_cases h : other = slot
  · rw [h, hsame, Slots.put_same]
  · rw [hother other h, Slots.put_other _ _ h]

theorem key_ne_key {slot other : Slot} (h : other ≠ slot) : other.key ≠ slot.key :=
  fun hkey => h (Slot.key_injective hkey)

theorem set_file_of_ok {file saved : SessionFile} {disk written : Disk} (keyring : Keyring)
    (h : file.set slot value disk = .ok (saved, written)) :
    (Vault.mk (.file file) disk keyring).set slot value = .ok ⟨.file saved, written, keyring⟩ := by
  simp only [set, h, withFile]

theorem exists_of_set_file {file : SessionFile} {disk : Disk} {keyring : Keyring}
    (h : (Vault.mk (.file file) disk keyring).set slot value = .ok kept) :
    ∃ saved written, file.save (file.entries.put slot.key value) disk = .ok (saved, written) ∧
      kept = ⟨.file saved, written, keyring⟩ := by
  rcases hset : file.set slot value disk with fault | ⟨saved, written⟩
  · simp only [set, hset, withFile] at h
    cases h
  · rw [set_file_of_ok keyring hset] at h
    exact ⟨saved, written, hset, (Except.ok.inj h).symm⟩

theorem exists_of_set_keyring {service : String} {disk : Disk} {keyring : Keyring}
    (h : (Vault.mk (.keyring service) disk keyring).set slot value = .ok kept) :
    kept = ⟨.keyring service, disk, keyring.put service slot.key value⟩ := by
  cases hrefuses : keyring.refuses .set with
  | some fault =>
      simp only [set, Keyring.set, hrefuses, withKeyring] at h
      cases h
  | none =>
      simp only [set, Keyring.set, hrefuses, withKeyring] at h
      exact (Except.ok.inj h).symm

/-- A value that was set is held. -/
theorem held_of_set (h : vault.set slot value = .ok kept) :
    kept.held = vault.held.put slot (some value) := by
  obtain ⟨backend, disk, keyring⟩ := vault
  cases backend with
  | memory slots =>
      obtain rfl := Except.ok.inj h
      rfl
  | file file =>
      obtain ⟨saved, written, hsave, rfl⟩ := exists_of_set_file h
      obtain ⟨rfl, -⟩ := SessionFile.leads_of_save hsave
      exact held_eq_put (Entries.get?_put_same _ _ _) fun other hother =>
        Entries.get?_put_other _ _ (key_ne_key hother)
  | keyring service =>
      obtain rfl := exists_of_set_keyring h
      exact held_eq_put Keyring.find?_put_same fun other hother =>
        Keyring.find?_put_other (key_ne_key hother)

/-- The keyring refuses no call, if the session is kept there. -/
def Willing (vault : Vault) : Prop :=
  match vault.backend with
  | .keyring _ => ∀ call, vault.keyring.refusal call = none
  | _ => True

/-- Every call is served from now on: the keyring refuses none, and a file has
been written before. -/
inductive Serves : Vault → Prop
  | memory {slots : Slots} {disk : Disk} {keyring : Keyring} :
      Serves ⟨.memory slots, disk, keyring⟩
  | file {path : Path} {place : Place} {file : SessionFile} {disk : Disk} {keyring : Keyring}
      (hmirrors : Mirrors path place ⟨disk, file⟩ file.get?) :
      Serves ⟨.file file, disk, keyring⟩
  | keyring {service : String} {disk : Disk} {keyring : Keyring}
      (hwilling : ∀ call, keyring.refusal call = none) : Serves ⟨.keyring service, disk, keyring⟩

namespace Serves

theorem get_eq (h : vault.Serves) (slot : Slot) : vault.get slot = .ok (vault.held slot) := by
  cases h with
  | memory => rfl
  | file => rfl
  | keyring hwilling =>
      simp only [get, Keyring.get, hwilling]
      rfl

/-- A step of a session file that succeeds has changed the file. -/
theorem exists_of_step {change : SessionFile → Disk → Except Fault (SessionFile × Disk)}
    {s s' : FileSession} (h : (FileSession.step change).runFrom s = (.ok (), s')) :
    change s.file s.disk = .ok (s'.file, s'.disk) := by
  rw [FileSession.runFrom_step] at h
  rcases hchange : change s.file s.disk with fault | ⟨file, disk⟩
  · rw [hchange] at h
    cases h
  · rw [hchange] at h
    cases h
    rfl

theorem exists_set (h : vault.Serves) (slot : Slot) (value : String) :
    ∃ kept, vault.set slot value = .ok kept ∧ kept.Serves := by
  cases h with
  | memory => exact ⟨_, rfl, .memory⟩
  | @file path place file disk keyring hmirrors =>
      obtain ⟨hresult, hafter⟩ := Mirrors.set_alike path place slot value _ _ hmirrors
      rcases hrun : (TokenStore.set slot value : Action FileSession Unit).runFrom ⟨disk, file⟩
        with ⟨result, s'⟩
      rw [hrun] at hresult hafter
      obtain rfl : result = .ok () := hresult
      have hset : file.set slot value disk = .ok (s'.file, s'.disk) := exists_of_step hrun
      have hserves : Mirrors path place ⟨s'.disk, s'.file⟩ s'.file.get? :=
        ⟨hafter.named, hafter.leads, hafter.written, hafter.sorted, fun _ => rfl⟩
      exact ⟨_, set_file_of_ok keyring hset, .file hserves⟩
  | @keyring service disk keyring hwilling =>
      refine ⟨⟨.keyring service, disk, keyring.put service slot.key value⟩, ?_, .keyring hwilling⟩
      simp only [set, Keyring.set, Keyring.refuses, hwilling, withKeyring, Option.or_none]

theorem exists_remove (h : vault.Serves) (slot : Slot) :
    ∃ kept, vault.remove slot = .ok kept ∧ kept.Serves ∧ kept.held = vault.held.put slot none := by
  cases h with
  | memory => exact ⟨_, rfl, .memory, rfl⟩
  | @file path place file disk keyring hmirrors =>
      obtain ⟨hresult, hafter⟩ := Mirrors.remove_alike path place slot _ _ hmirrors
      rcases hrun : (TokenStore.remove slot : Action FileSession Unit).runFrom ⟨disk, file⟩
        with ⟨result, s'⟩
      rw [hrun] at hresult hafter
      obtain rfl : result = .ok () := hresult
      have hremove : file.remove slot disk = .ok (s'.file, s'.disk) := exists_of_step hrun
      have hserves : Mirrors path place ⟨s'.disk, s'.file⟩ s'.file.get? :=
        ⟨hafter.named, hafter.leads, hafter.written, hafter.sorted, fun _ => rfl⟩
      refine ⟨⟨.file s'.file, s'.disk, keyring⟩, ?_, .file hserves, funext hafter.slots⟩
      simp only [remove, hremove, withFile]
  | @keyring service disk keyring hwilling =>
      refine ⟨⟨.keyring service, disk, keyring.erase service slot.key⟩, ?_, .keyring hwilling, ?_⟩
      · simp only [remove, Keyring.remove, hwilling, withKeyring]
      · exact held_eq_put Keyring.find?_erase_same fun other hother =>
          Keyring.find?_erase_other (key_ne_key hother)

end Serves

theorem runFrom_set (vault : Vault) (slot : Slot) (value : String) :
    (TokenStore.set slot value : Action Vault Unit).runFrom vault =
      match vault.set slot value with
      | .ok kept => (.ok (), kept)
      | .error fault => (.error fault, vault) := by
  have hget : (MonadState.get : Action Vault Vault).runFrom vault = (.ok vault, vault) := rfl
  have hstep : (TokenStore.set slot value : Action Vault Unit) =
      step fun vault => vault.set slot value := rfl
  rw [hstep, step, runFrom_bind_of_ok hget]
  cases vault.set slot value <;> rfl

theorem set_of_runFrom {result : Unit}
    (h : (TokenStore.set slot value : Action Vault Unit).runFrom vault = (.ok result, kept)) :
    vault.set slot value = .ok kept := by
  rw [runFrom_set] at h
  cases hset : vault.set slot value with
  | error fault =>
      rw [hset] at h
      cases h
  | ok other =>
      rw [hset] at h
      exact congrArg Except.ok (congrArg Prod.snd h)

theorem runFrom_remove (vault : Vault) (slot : Slot) :
    (TokenStore.remove slot : Action Vault Unit).runFrom vault =
      match vault.remove slot with
      | .ok kept => (.ok (), kept)
      | .error fault => (.error fault, vault) := by
  have hget : (MonadState.get : Action Vault Vault).runFrom vault = (.ok vault, vault) := rfl
  have hstep : (TokenStore.remove slot : Action Vault Unit) =
      step fun vault => vault.remove slot := rfl
  rw [hstep, step, runFrom_bind_of_ok hget]
  cases vault.remove slot <;> rfl

/-- A place that serves every call, and slots that never fail and hold the same. -/
structure SameSlots (vault : Vault) (u : Unreliable) : Prop where
  serves : vault.Serves
  never : u.NeverFails
  held : vault.held = u.slots

theorem interchangeable_sameSlots : Interchangeable SameSlots where
  get slot := by
    intro vault u h
    obtain ⟨fault, hfails, -⟩ | ⟨-, hrun⟩ := Unreliable.get_cases slot u
    · rw [h.never] at hfails
      cases hfails
    · have hget : (TokenStore.get slot : Action Vault _).runFrom vault = (vault.get slot, vault) :=
        rfl
      rw [hget, hrun, h.serves.get_eq slot, h.held]
      exact ⟨rfl, h.serves, h.never, h.held⟩
  set slot value := by
    intro vault u h
    obtain ⟨kept, hset, hserves⟩ := h.serves.exists_set slot value
    rw [runFrom_set, hset, Unreliable.set_of_neverFails h.never]
    refine ⟨rfl, hserves, h.never, ?_⟩
    rw [held_of_set hset, h.held]
    rfl
  remove slot := by
    intro vault u h
    obtain ⟨kept, hremove, hserves, hheld⟩ := h.serves.exists_remove slot
    rw [runFrom_remove, hremove, Unreliable.remove_of_onlyWritesFail h.never.onlyWritesFail]
    refine ⟨rfl, hserves, h.never, ?_⟩
    rw [hheld, h.held]
    rfl

end Vault

/-- The session is kept where the settings say. -/
inductive KeptIn (storage : StorageSettings) (env : Environment) : Vault → Prop
  | memory {slots : Slots} {disk : Disk} {keyring : Keyring}
      (hbackend : storage.backend = "memory") :
      KeptIn storage env ⟨.memory slots, disk, keyring⟩
  | file {file : SessionFile} {disk : Disk} {keyring : Keyring}
      (hbackend : storage.backend = "file")
      (hpath : storage.filePath? env = some file.path.text) (hsorted : file.entries.Sorted) :
      KeptIn storage env ⟨.file file, disk, keyring⟩
  | keyring {disk : Disk} {keyring : Keyring} (hbackend : storage.backend = "keyring") :
      KeptIn storage env ⟨.keyring storage.keyringService, disk, keyring⟩

section

variable {storage : StorageSettings} {env : Environment} {store vault kept : Vault} {slot : Slot}
  {value : String}

theorem keptIn_of_openIn (h : storage.openIn env store = .ok vault) : KeptIn storage env vault := by
  unfold StorageSettings.openIn at h
  split at h
  case h_1 hbackend =>
    cases h
    exact .memory hbackend
  case h_2 hbackend =>
    split at h
    case h_1 => cases h
    case h_2 path hpath =>
      rcases hopen : SessionFile.openAt ⟨path⟩ store.disk with fault | ⟨file, disk⟩
      · rw [hopen] at h
        cases h
      · rw [hopen] at h
        cases h
        refine .file hbackend ?_ (SessionFile.sorted_of_openAt hopen)
        rw [SessionFile.path_of_openAt hopen, hpath]
  case h_3 hbackend =>
    cases h
    exact .keyring hbackend
  case h_4 => cases h

theorem openIn_file {path : String} (hbackend : storage.backend = "file")
    (hpath : storage.filePath? env = some path) {file : SessionFile} {disk : Disk}
    (hopen : SessionFile.openAt ⟨path⟩ store.disk = .ok (file, disk)) :
    storage.openIn env store = .ok { store with backend := .file file, disk := disk } := by
  simp only [StorageSettings.openIn, hbackend, hpath, hopen]
  rfl

theorem openIn_keyring (hbackend : storage.backend = "keyring") :
    storage.openIn env store = .ok { store with backend := .keyring storage.keyringService } := by
  simp only [StorageSettings.openIn, hbackend]

/-- What was set is kept where the settings say, and found when that place is
opened again, unless it is memory.  A willing place serves every call. -/
theorem KeptIn.of_set (h : KeptIn storage env vault) (hset : vault.set slot value = .ok kept) :
    KeptIn storage env kept ∧ (kept.Willing → kept.Serves) ∧
      (storage.backend ≠ "memory" → storage.openIn env kept = .ok kept) := by
  cases h with
  | memory hbackend =>
      cases hset
      exact ⟨.memory hbackend, fun _ => .memory, fun hother => absurd hbackend hother⟩
  | @file file disk keyring hbackend hpath hsorted =>
      obtain ⟨saved, written, hsave, rfl⟩ := Vault.exists_of_set_file hset
      have hput := hsorted.put slot.key value
      obtain ⟨place, hmirrors⟩ := Mirrors.of_save hput hsave
      obtain ⟨rfl, -⟩ := SessionFile.leads_of_save hsave
      refine ⟨.file hbackend hpath hput, fun _ => .file hmirrors, fun _ => ?_⟩
      exact openIn_file hbackend hpath hmirrors.openAt_eq
  | @keyring disk keyring hbackend =>
      obtain rfl := Vault.exists_of_set_keyring hset
      exact ⟨.keyring hbackend, .keyring, fun _ => openIn_keyring hbackend⟩

end

end BillingAccess
