/-
Removing slots where sessions are kept.

In memory, in a file and in a keyring no removal gets in another's way, and each
changes its own slot at most.  So the slots of a list are removed as far as they
can be, and a session that was cleared in part can be cleared again.
-/
import BillingAccess.Proofs.Session.Removal
import BillingAccess.Proofs.Storage.Backends

namespace BillingAccess

open BillingAccess.Action Session

namespace Disk

variable {disk : Disk} {path : Path} {place : Place} {entries fewer least : Entries}

/-- The disk after a file at a place was given other entries: it is written only
if they are not the same. -/
def rewritten (disk : Disk) (place : Place) (entries fewer : Entries) : Disk :=
  if fewer = entries then disk
  else disk.put place
    (.file (Utf8.ofString fewer.toText) (disk.keptMode place privateMode))

theorem Leads.rewritten (h : disk.Leads path place) (entries fewer : Entries) :
    (disk.rewritten place entries fewer).Leads path place := by
  rw [Disk.rewritten]
  split
  · exact h
  · exact h.put _ _

/-- Of two writings the last one counts. -/
theorem rewritten_rewritten (h : disk.Leads path place) (hfewer : fewer.Sublist entries)
    (hleast : least.Sublist fewer) :
    (disk.rewritten place entries fewer).rewritten place fewer least =
      disk.rewritten place entries least := by
  by_cases hfirst : fewer = entries
  · have hsame : disk.rewritten place entries fewer = disk := if_pos hfirst
    rw [hsame, hfirst]
  · have hlast : least ≠ entries := by
      rintro rfl
      exact hfirst (hfewer.antisymm hleast)
    have hwritten : disk.rewritten place entries fewer = disk.put place
        (.file (Utf8.ofString fewer.toText) (disk.keptMode place privateMode)) := if_neg hfirst
    rw [hwritten, rewritten, rewritten, if_neg hlast]
    split
    case isTrue hsame => rw [hsame]
    case isFalse hother => rw [put_put, keptMode_put h.free]

end Disk

namespace SessionFile

variable {file left : SessionFile} {disk after : Disk} {place : Place} {slot : Slot}

/-- A slot can be removed from every file that can be written. -/
theorem remove_of_leads (file : SessionFile) (h : disk.Leads file.path place) (slot : Slot) :
    file.remove slot disk =
      .ok (⟨file.path, file.entries.erase slot.key⟩,
        disk.rewritten place file.entries (file.entries.erase slot.key)) := by
  cases hheld : file.get? slot with
  | none =>
      have hsame : file.entries.erase slot.key = file.entries := Entries.erase_of_none hheld
      rw [remove, hheld, hsame, Disk.rewritten, if_pos rfl]
  | some text =>
      have hother : file.entries.erase slot.key ≠ file.entries := Entries.erase_ne_self hheld
      rw [remove, hheld, Disk.rewritten, if_neg hother]
      simp only [save, h.write_eq]

/-- A removal takes one entry away, and needs a file that can be written unless
that is missing. -/
theorem remove_cases (h : file.remove slot disk = .ok (left, after)) :
    left.entries = file.entries.erase slot.key ∧
      (left = file ∧ after = disk ∨ ∃ place, disk.Leads file.path place) := by
  cases hheld : file.get? slot with
  | none =>
      rw [remove, hheld] at h
      cases h
      exact ⟨(Entries.erase_of_none hheld).symm, .inl ⟨rfl, rfl⟩⟩
  | some text =>
      rw [remove, hheld] at h
      obtain ⟨rfl, place, -, hleads, -⟩ := leads_of_save h
      exact ⟨rfl, .inr ⟨place, hleads⟩⟩

end SessionFile

namespace Keyring

variable {keyring kept : Keyring} {service : String} {slot : Slot}

theorem remove_eq (hentry : keyring.refusal .entry = none)
    (hremove : keyring.refusal .remove = none)
    (service : String) (slot : Slot) :
    keyring.remove service slot = .ok (keyring.erase service slot.key) := by
  simp only [remove, hentry, hremove]

/-- A keyring removes a password, or finds none. -/
theorem remove_cases (h : keyring.remove service slot = .ok kept) :
    keyring.refusal .remove = some .noEntry ∧ kept = keyring ∨
      keyring.refusal .entry = none ∧ keyring.refusal .remove = none ∧
        kept = keyring.erase service slot.key := by
  cases hentry : keyring.refusal .entry with
  | some fault =>
      simp only [remove, hentry] at h
      contradiction
  | none =>
      cases hremove : keyring.refusal .remove with
      | none =>
          simp only [remove, hentry, hremove] at h
          exact .inr ⟨rfl, rfl, (Except.ok.inj h).symm⟩
      | some fault =>
          cases fault <;> simp only [remove, hentry, hremove] at h
          case noEntry => exact .inl ⟨rfl, (Except.ok.inj h).symm⟩
          all_goals contradiction

end Keyring

namespace Vault

variable {vault kept : Vault} {slot : Slot} {fault : Fault}

theorem without_of_ok (h : vault.remove slot = .ok kept) : without vault slot = kept := by
  have hrun := runFrom_remove vault slot
  rw [h] at hrun
  exact without_of_run hrun

theorem refusal_of_ok (h : vault.remove slot = .ok kept) : refusal vault slot = none := by
  have hrun := runFrom_remove vault slot
  rw [h] at hrun
  exact refusal_of_removed hrun

/-- A removal that fails changes nothing. -/
theorem without_of_error (h : vault.remove slot = .error fault) : without vault slot = vault := by
  have hrun := runFrom_remove vault slot
  rw [h] at hrun
  exact without_of_run hrun

theorem refusal_of_error (h : vault.remove slot = .error fault) :
    refusal vault slot = some fault := by
  have hrun := runFrom_remove vault slot
  rw [h] at hrun
  exact refusal_of_refused hrun

theorem without_memory (slots : Slots) (disk : Disk) (keyring : Keyring) (slot : Slot) :
    without (Vault.mk (.memory slots) disk keyring) slot =
      ⟨.memory (slots.put slot none), disk, keyring⟩ :=
  rfl

theorem remove_file (file : SessionFile) (disk : Disk) (keyring : Keyring) (slot : Slot) :
    (Vault.mk (.file file) disk keyring).remove slot =
      (file.remove slot disk).map fun after => ⟨.file after.1, after.2, keyring⟩ := by
  change withFile _ (file.remove slot disk) = _
  cases file.remove slot disk <;> rfl

theorem remove_keyring (service : String) (disk : Disk) (keyring : Keyring) (slot : Slot) :
    (Vault.mk (.keyring service) disk keyring).remove slot =
      (keyring.remove service slot).map fun after => ⟨.keyring service, disk, after⟩ := by
  change withKeyring _ (keyring.remove service slot) = _
  cases keyring.remove service slot <;> rfl

theorem without_file {disk : Disk} {path : Path} {place : Place} (h : disk.Leads path place)
    (entries : Entries) (keyring : Keyring) (slot : Slot) :
    without (Vault.mk (.file ⟨path, entries⟩) disk keyring) slot =
      ⟨.file ⟨path, entries.erase slot.key⟩,
        disk.rewritten place entries (entries.erase slot.key), keyring⟩ := by
  refine without_of_ok ?_
  rw [remove_file, SessionFile.remove_of_leads ⟨path, entries⟩ h]
  rfl

theorem without_keyring (keyring : Keyring) (hentry : keyring.refusal .entry = none)
    (hremove : keyring.refusal .remove = none) (service : String) (disk : Disk) (slot : Slot) :
    without (Vault.mk (.keyring service) disk keyring) slot =
      ⟨.keyring service, disk, keyring.erase service slot.key⟩ := by
  refine without_of_ok ?_
  rw [remove_keyring, Keyring.remove_eq hentry hremove]
  rfl

/-- Every slot can be removed: a file can be written, and a keyring refuses
neither to name an entry nor to remove it. -/
inductive Yields : Vault → Prop
  | memory {slots : Slots} {disk : Disk} {keyring : Keyring} : Yields ⟨.memory slots, disk, keyring⟩
  | file {path : Path} {place : Place} {entries : Entries} {disk : Disk} {keyring : Keyring}
      (hleads : disk.Leads path place) : Yields ⟨.file ⟨path, entries⟩, disk, keyring⟩
  | keyring {service : String} {disk : Disk} {keyring : Keyring}
      (hentry : keyring.refusal .entry = none) (hremove : keyring.refusal .remove = none) :
      Yields ⟨.keyring service, disk, keyring⟩

namespace Yields

theorem exists_remove (h : vault.Yields) (slot : Slot) :
    ∃ kept, vault.remove slot = .ok kept ∧ kept.Yields := by
  cases h with
  | memory => exact ⟨_, rfl, .memory⟩
  | @file path place entries disk keyring hleads =>
      rw [remove_file, SessionFile.remove_of_leads ⟨path, entries⟩ hleads]
      exact ⟨_, rfl, .file (hleads.rewritten _ _)⟩
  | keyring hentry hremove =>
      rw [remove_keyring, Keyring.remove_eq hentry hremove]
      exact ⟨_, rfl, .keyring hentry hremove⟩

theorem refusal_eq (h : vault.Yields) : refusal vault = fun _ => none := by
  funext slot
  obtain ⟨kept, hremove, -⟩ := h.exists_remove slot
  exact refusal_of_ok hremove

theorem after_without (h : vault.Yields) (slot : Slot) : (without vault slot).Yields := by
  obtain ⟨kept, hremove, hkept⟩ := h.exists_remove slot
  rwa [without_of_ok hremove]

theorem without_again (h : vault.Yields) (slot : Slot) :
    without (without vault slot) slot = without vault slot := by
  cases h with
  | memory => rw [without_memory, without_memory, Slots.put_put]
  | file hleads =>
      rw [without_file hleads, without_file (hleads.rewritten _ _),
        Disk.rewritten_rewritten hleads (Entries.erase_sublist _ _) (Entries.erase_sublist _ _),
        Entries.erase_erase]
  | @keyring service disk keyring hentry hremove =>
      rw [without_keyring keyring hentry hremove,
        without_keyring (keyring.erase service slot.key) hentry hremove, Keyring.erase_erase]

theorem without_swap (h : vault.Yields) (slot other : Slot) :
    without (without vault slot) other = without (without vault other) slot := by
  cases h with
  | memory => rw [without_memory, without_memory, without_memory, without_memory, Slots.put_comm]
  | file hleads =>
      rw [without_file hleads, without_file hleads, without_file (hleads.rewritten _ _),
        without_file (hleads.rewritten _ _),
        Disk.rewritten_rewritten hleads (Entries.erase_sublist _ _) (Entries.erase_sublist _ _),
        Disk.rewritten_rewritten hleads (Entries.erase_sublist _ _) (Entries.erase_sublist _ _),
        Entries.erase_comm]
  | @keyring service disk keyring hentry hremove =>
      rw [without_keyring keyring hentry hremove, without_keyring keyring hentry hremove,
        without_keyring (keyring.erase service slot.key) hentry hremove,
        without_keyring (keyring.erase service other.key) hentry hremove, Keyring.erase_comm]

end Yields

/-- Where not every slot can be removed, no removal changes anything. -/
theorem yields_or_stays (vault : Vault) :
    vault.Yields ∨ ∀ slot, without vault slot = vault := by
  obtain ⟨backend, disk, keyring⟩ := vault
  cases backend with
  | memory slots => exact .inl .memory
  | file file =>
      by_cases hleads : ∃ place, disk.Leads file.path place
      · obtain ⟨place, hleads⟩ := hleads
        exact .inl (.file hleads)
      · refine .inr fun slot => ?_
        have hvault := remove_file file disk keyring slot
        cases hremove : file.remove slot disk with
        | error fault =>
            rw [hremove] at hvault
            exact without_of_error hvault
        | ok after =>
            rw [hremove] at hvault
            obtain ⟨-, ⟨rfl, rfl⟩ | hwritten⟩ := SessionFile.remove_cases hremove
            · exact without_of_ok hvault
            · exact absurd hwritten hleads
  | keyring service =>
      by_cases hgrants : keyring.refusal .entry = none ∧ keyring.refusal .remove = none
      · exact .inl (.keyring hgrants.1 hgrants.2)
      · refine .inr fun slot => ?_
        have hvault := remove_keyring service disk keyring slot
        cases hremove : keyring.remove service slot with
        | error fault =>
            rw [hremove] at hvault
            exact without_of_error hvault
        | ok after =>
            rw [hremove] at hvault
            obtain ⟨-, rfl⟩ | ⟨hentry, hfree, -⟩ := Keyring.remove_cases hremove
            · exact without_of_ok hvault
            · exact absurd ⟨hentry, hfree⟩ hgrants

instance : Orderly Vault where
  refusal_without vault slot := by
    rcases vault.yields_or_stays with hyields | hstays
    · rw [hyields.refusal_eq, (hyields.after_without slot).refusal_eq]
    · rw [hstays]
  without_again vault slot := by
    rcases vault.yields_or_stays with hyields | hstays
    · exact hyields.without_again slot
    · rw [hstays, hstays]
  without_swap vault slot other := by
    rcases vault.yields_or_stays with hyields | hstays
    · exact hyields.without_swap slot other
    · rw [hstays, hstays, hstays]

/-- A keyring that says that it has no password to remove has none. -/
def Honest (vault : Vault) : Prop :=
  match vault.backend with
  | .keyring service =>
      vault.keyring.refusal .remove = some .noEntry →
        ∀ slot : Slot, vault.keyring.find? service slot.key = none
  | _ => True

/-- A removal that succeeds empties its slot. -/
theorem held_of_remove (hhonest : vault.Honest) (h : vault.remove slot = .ok kept) :
    kept.held = vault.held.put slot none ∧ kept.Honest := by
  obtain ⟨backend, disk, keyring⟩ := vault
  cases backend with
  | memory slots =>
      obtain rfl := Except.ok.inj h
      exact ⟨rfl, trivial⟩
  | file file =>
      rw [remove_file] at h
      cases hremove : file.remove slot disk with
      | error fault =>
          rw [hremove] at h
          contradiction
      | ok after =>
          rw [hremove] at h
          obtain rfl := Except.ok.inj h
          obtain ⟨hentries, -⟩ := SessionFile.remove_cases hremove
          refine ⟨held_eq_put ?_ fun other hother => ?_, trivial⟩
          · change after.1.entries.get? slot.key = none
            rw [hentries, Entries.get?_erase_same]
          · change after.1.entries.get? other.key = file.entries.get? other.key
            rw [hentries, Entries.get?_erase_other _ (key_ne_key hother)]
  | keyring service =>
      rw [remove_keyring] at h
      cases hremove : keyring.remove service slot with
      | error fault =>
          rw [hremove] at h
          contradiction
      | ok after =>
          rw [hremove] at h
          obtain rfl := Except.ok.inj h
          obtain ⟨hnothing, rfl⟩ | ⟨-, hfree, rfl⟩ := Keyring.remove_cases hremove
          · exact ⟨held_eq_put (hhonest hnothing slot) fun _ _ => rfl, hhonest⟩
          · refine ⟨held_eq_put Keyring.find?_erase_same fun other hother =>
              Keyring.find?_erase_other (key_ne_key hother), fun hnothing => ?_⟩
            have hsome : keyring.refusal .remove = some .noEntry := hnothing
            rw [hfree] at hsome
            contradiction

/-- What the slots hold after one was removed, as far as it could be. -/
theorem held_without (hhonest : vault.Honest) (slot : Slot) :
    (without vault slot).held =
        (if refusal vault slot = none then vault.held.put slot none else vault.held) ∧
      (without vault slot).Honest := by
  cases hremove : vault.remove slot with
  | error fault =>
      rw [without_of_error hremove, refusal_of_error hremove]
      exact ⟨rfl, hhonest⟩
  | ok kept =>
      rw [without_of_ok hremove, refusal_of_ok hremove]
      exact held_of_remove hhonest hremove

/-- What the slots hold after a list of them was removed, as far as they could
be. -/
theorem held_foldl_without (hhonest : vault.Honest) (slots : List Slot) (other : Slot) :
    (slots.foldl without vault).held other =
      if other ∈ slots ∧ refusal vault other = none then none else vault.held other := by
  induction slots generalizing vault with
  | nil => simp
  | cons slot rest ih =>
      obtain ⟨hheld, hafter⟩ := held_without hhonest slot
      rw [List.foldl_cons, ih hafter, Orderly.refusal_without, hheld]
      by_cases hother : other = slot
      · subst hother
        cases refusal vault other with
        | none => simp
        | some fault => simp
      · have hsame : (if refusal vault slot = none then vault.held.put slot none
            else vault.held) other = vault.held other := by
          split
          · exact Slots.put_other _ _ hother
          · rfl
        simp only [hsame, List.mem_cons, hother, false_or]

end Vault

namespace Session

/-- Every slot can be removed, and one that is said to be removed is. -/
structure Works (f : Faulty Vault) : Prop where
  honest : f.store.Honest
  free : ∀ slot, refusal f slot = none

theorem held_removeAll {f : Faulty Vault} (hhonest : f.store.Honest) (slots : List Slot)
    (slot : Slot) : ((removeAll slots).runFrom f).2.store.held slot =
      if slot ∈ slots ∧ refusal f slot = none then none else f.store.held slot := by
  obtain ⟨vault, failing⟩ := f
  rw [state_removeAll, foldl_without_faulty, Vault.held_foldl_without hhonest]
  cases hfails : failing.remove slot with
  | true => simp [refusal_of_fails hfails, hfails]
  | false => simp [refusal_of_works hfails, hfails]

/-- A store that works is cleared, whatever it holds. -/
theorem Works.cleared {f : Faulty Vault} (h : Works f) :
    ((clear).runFrom f).1 = .ok () ∧ ((clear).runFrom f).2.store.held = Slots.empty := by
  constructor
  · have hfree : Slot.all.findSome? (refusal f) = none :=
      List.findSome?_eq_none_iff.mpr fun slot _ => h.free slot
    rw [clear, result_removeAll, hfree]
    rfl
  · funext slot
    rw [clear, held_removeAll h.honest, if_pos ⟨slot.mem_all, h.free slot⟩]
    rfl

/-- What can be removed is removed, everything else stays, and the first slot
that cannot be removed decides the result.  So a store that works is cleared;
and one that was cleared in part is left, when it is cleared again with no
failure, exactly as it would have been without the first attempt. -/
theorem removeAll_removes_what_it_can {f : Faulty Vault} (hhonest : f.store.Honest)
    (slots : List Slot) :
    (∀ slot ∈ slots, refusal f slot = none →
      ((removeAll slots).runFrom f).2.store.held slot = none) ∧
    (∀ slot, (refusal f slot).isSome ∨ slot ∉ slots →
      ((removeAll slots).runFrom f).2.store.held slot = f.store.held slot) ∧
    ((removeAll slots).runFrom f).1 = resultOf (slots.findSome? (refusal f)) ∧
    (∀ working, Works working →
      ((clear).runFrom working).1 = .ok () ∧
        ((clear).runFrom working).2.store.held = Slots.empty) ∧
    ∀ restored : Failing, (∀ slot, restored.remove slot = false) →
      (clear).runFrom (Faulty.mk ((clear).runFrom f).2.store restored) =
        (clear).runFrom (Faulty.mk f.store restored) := by
  refine ⟨?emptied, ?kept, result_removeAll slots f, fun working => Works.cleared, ?again⟩
  case emptied =>
    intro slot hslot hfree
    rw [held_removeAll hhonest, if_pos ⟨hslot, hfree⟩]
  case kept =>
    intro slot hstays
    have hnot : ¬(slot ∈ slots ∧ refusal f slot = none) := by
      rintro ⟨hslot, hfree⟩
      rcases hstays with hrefused | hother
      · rw [hfree] at hrefused
        contradiction
      · exact hother hslot
    rw [held_removeAll hhonest, if_neg hnot]
  case again =>
    intro restored hworks
    exact removeAll_restored Slot.all f.store f.failing hworks

/-- A session in a keyring that will not give up its token and its state. -/
def guardedKeyring : Faulty Vault where
  store := {
    backend := .keyring Keyring.defaultService
    keyring := { secrets := [
      ⟨Keyring.defaultService, Slot.accessToken.key, "a"⟩,
      ⟨Keyring.defaultService, Slot.refreshToken.key, "r"⟩,
      ⟨"other", Slot.refreshToken.key, "o"⟩,
      ⟨Keyring.defaultService, Slot.state.key, "s"⟩] } }
  failing := { remove := fun slot => slot = .accessToken || slot = .state }

theorem guarded_slots_stay :
    let after := (removeAll [.refreshToken, .state, .accessToken, .refreshToken]).runFrom
      guardedKeyring
    guardedKeyring.store.Honest ∧ after.2.store.held .refreshToken = none ∧
      after.2.store.held .state = some "s" ∧
      after.1 = .error (Faulty.injected "remove" .state) ∧
      ((clear).runFrom (Faulty.mk ((clear).runFrom guardedKeyring).2.store {})).2.store.held =
        Slots.empty := by
  intro after
  have hhonest : guardedKeyring.store.Honest := fun hnothing => nomatch hnothing
  have hworks : Works (Faulty.mk guardedKeyring.store {}) := ⟨hhonest, fun slot => rfl⟩
  obtain ⟨hemptied, hstays, hresult, hcleared, hagain⟩ :=
    removeAll_removes_what_it_can hhonest [.refreshToken, .state, .accessToken, .refreshToken]
  refine ⟨hhonest, hemptied _ (by decide) rfl, ?_, hresult, ?_⟩
  · exact (hstays .state (.inl rfl)).trans (by decide +kernel)
  · rw [hagain {} fun _ => rfl]
    exact (hcleared _ hworks).2

end Session

end BillingAccess
