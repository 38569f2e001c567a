/-
An open session file does what memory does, and can be opened again at any time.
-/
import BillingAccess.Proofs.Session.Likeness
import BillingAccess.Proofs.Storage.Disk
import BillingAccess.Proofs.Storage.Entries
import BillingAccess.Storage.Memory

namespace BillingAccess

open BillingAccess.Action Session

/-- A file can be made at the path, and there is none yet. -/
structure Disk.Vacant (disk : Disk) (path : Path) : Prop where
  made : ∃ opened place, disk.makeParents path = .ok opened ∧ opened.Leads path place ∧
    opened.nodeAt? place = none

/-- The file on the disk has the entries of the open one, and these are what the
slots hold. -/
structure Mirrors (path : Path) (place : Place) (s : FileSession) (slots : Slots) : Prop where
  named : s.file.path = path
  leads : s.disk.Leads path place
  written : s.disk.nodeAt? place = none ∧ s.file.entries = [] ∨
    ∃ mode, s.disk.nodeAt? place = some (.file (Utf8.ofString s.file.entries.toText) mode)
  sorted : s.file.entries.Sorted
  slots : ∀ slot, s.file.get? slot = slots slot

namespace Mirrors

variable {path : Path} {place : Place} {s : FileSession} {slots : Slots}

/-- Entries that are saved are mirrored by the slots that hold them. -/
theorem exists_save (h : Mirrors path place s slots) {entries : Entries} {later : Slots}
    (hsorted : entries.Sorted) (hslots : ∀ slot, entries.get? slot.key = later slot) :
    ∃ disk, s.file.save entries s.disk = .ok (⟨path, entries⟩, disk) ∧
      Mirrors path place ⟨disk, ⟨path, entries⟩⟩ later := by
  obtain ⟨mode, hwrite⟩ := h.leads.exists_write (Utf8.ofString entries.toText) Disk.privateMode
  refine ⟨s.disk.put place (.file (Utf8.ofString entries.toText) mode), ?_, ?_⟩
  · rw [SessionFile.save, h.named, hwrite]
  · exact ⟨rfl, h.leads.put _ _, Or.inr ⟨mode, Disk.nodeAt?_put_same h.leads.free _⟩, hsorted,
      hslots⟩

theorem runFrom_step_of_ok {change : SessionFile → Disk → Except Fault (SessionFile × Disk)}
    {file : SessionFile} {disk : Disk} (h : change s.file s.disk = .ok (file, disk)) :
    (FileSession.step change).runFrom s = (.ok (), ⟨disk, file⟩) := by
  have hget : (get : Action FileSession FileSession).runFrom s = (.ok s, s) := rfl
  rw [FileSession.step, runFrom_bind_of_ok hget, h]
  rfl

theorem get_alike (path : Path) (place : Place) (slot : Slot) :
    Alike (Mirrors path place) (TokenStore.get slot) (TokenStore.get slot) := by
  intro s slots h
  have hfile : (TokenStore.get slot : Action FileSession (Option String)).runFrom s =
      (.ok (s.file.get? slot), s) := rfl
  have hmemory : (TokenStore.get slot : Action Slots (Option String)).runFrom slots =
      (.ok (slots slot), slots) := rfl
  rw [hfile, hmemory, h.slots slot]
  exact ⟨rfl, h⟩

theorem set_alike (path : Path) (place : Place) (slot : Slot) (value : String) :
    Alike (Mirrors path place) (TokenStore.set slot value) (TokenStore.set slot value) := by
  intro s slots h
  have hslots : ∀ other : Slot, (s.file.entries.put slot.key value).get? other.key =
      slots.put slot (some value) other := by
    intro other
    by_cases hsame : other = slot
    · rw [hsame, Entries.get?_put_same, Slots.put_same]
    · have hkey : other.key ≠ slot.key := fun hkey => hsame (Slot.key_injective hkey)
      rw [Entries.get?_put_other _ _ hkey, Slots.put_other _ _ hsame]
      exact h.slots other
  obtain ⟨disk, hsave, hmirrors⟩ := h.exists_save (h.sorted.put slot.key value) hslots
  have hfile : (TokenStore.set slot value : Action FileSession Unit).runFrom s =
      (.ok (), ⟨disk, ⟨path, s.file.entries.put slot.key value⟩⟩) := runFrom_step_of_ok hsave
  rw [hfile]
  exact ⟨rfl, hmirrors⟩

theorem remove_alike (path : Path) (place : Place) (slot : Slot) :
    Alike (Mirrors path place) (TokenStore.remove slot) (TokenStore.remove slot) := by
  intro s slots h
  have hmemory : (TokenStore.remove slot : Action Slots Unit).runFrom slots =
      (.ok (), slots.put slot none) := rfl
  cases hheld : s.file.get? slot with
  | none =>
      have hremove : s.file.remove slot s.disk = .ok (s.file, s.disk) := by
        rw [SessionFile.remove, hheld]
      have hfile : (TokenStore.remove slot : Action FileSession Unit).runFrom s = (.ok (), s) :=
        runFrom_step_of_ok hremove
      have hsame : slots.put slot none = slots := by
        funext other
        by_cases hother : other = slot
        · rw [hother, Slots.put_same, ← h.slots slot, hheld]
        · exact Slots.put_other _ _ hother
      rw [hfile, hmemory, hsame]
      exact ⟨rfl, h⟩
  | some value =>
      have hslots : ∀ other : Slot, (s.file.entries.erase slot.key).get? other.key =
          slots.put slot none other := by
        intro other
        by_cases hsame : other = slot
        · rw [hsame, Entries.get?_erase_same, Slots.put_same]
        · have hkey : other.key ≠ slot.key := fun hkey => hsame (Slot.key_injective hkey)
          rw [Entries.get?_erase_other _ hkey, Slots.put_other _ _ hsame]
          exact h.slots other
      obtain ⟨disk, hsave, hmirrors⟩ := h.exists_save (h.sorted.erase slot.key) hslots
      have hremove : s.file.remove slot s.disk =
          .ok (⟨path, s.file.entries.erase slot.key⟩, disk) := by
        rw [SessionFile.remove, hheld]
        exact hsave
      have hfile : (TokenStore.remove slot : Action FileSession Unit).runFrom s =
          (.ok (), ⟨disk, ⟨path, s.file.entries.erase slot.key⟩⟩) := runFrom_step_of_ok hremove
      rw [hfile]
      exact ⟨rfl, hmirrors⟩

/-- A session file does what memory does. -/
theorem interchangeable (path : Path) (place : Place) : Interchangeable (Mirrors path place) :=
  ⟨get_alike path place, set_alike path place, remove_alike path place⟩

/-- Opening the file again gives the entries of the one that is open. -/
theorem openAt_eq (h : Mirrors path place s slots) :
    SessionFile.openAt path s.disk = .ok (s.file, s.disk) := by
  have hfile : s.file = ⟨path, s.file.entries⟩ := by
    rw [← h.named]
  rw [SessionFile.openAt, h.leads.makeParents_eq]
  rcases h.written with ⟨hnone, hempty⟩ | ⟨mode, hwritten⟩
  · simp only [Except.mapError, bind, Except.bind, h.leads.holds_of_none hnone]
    rw [hfile, hempty]
    rfl
  · simp only [Except.mapError, bind, Except.bind, h.leads.holds_of_file hwritten,
      h.leads.readText_eq hwritten, Entries.ofText?_toText h.sorted]
    rw [← hfile]
    rfl

end Mirrors

/-- A file that is not there is opened without entries. -/
theorem exists_openAt_of_vacant {disk : Disk} {path : Path} (h : disk.Vacant path) :
    ∃ opened place, SessionFile.openAt path disk = .ok (⟨path, []⟩, opened) ∧
      Mirrors path place ⟨opened, ⟨path, []⟩⟩ Slots.empty := by
  obtain ⟨opened, place, hmade, hleads, hnone⟩ := h.made
  refine ⟨opened, place, ?_, rfl, hleads, Or.inl ⟨hnone, rfl⟩, List.Pairwise.nil, fun _ => rfl⟩
  rw [SessionFile.openAt, hmade]
  simp only [Except.mapError, bind, Except.bind, hleads.holds_of_none hnone]
  rfl

end BillingAccess
