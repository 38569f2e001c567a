/-
A session file that is opened again.

What an open file answers from is what is read when its path is opened again,
from the moment it is opened and after every change that could be written.
-/
import BillingAccess.Proofs.Storage.SessionFile

namespace BillingAccess.SessionFile

variable {disk opened : Disk} {path : Path} {file : SessionFile} {entries : Entries}
  {text : String}

theorem openAt_of_missing (hmade : disk.makeParents path = .ok opened)
    (h : opened.holds path = false) : openAt path disk = .ok (⟨path, []⟩, opened) := by
  rw [openAt, hmade]
  simp only [Except.mapError, bind, Except.bind, h]
  rfl

theorem openAt_of_text (hmade : disk.makeParents path = .ok opened)
    (hread : opened.readText path = .ok text) (hentries : Entries.ofText? text = some entries) :
    openAt path disk = .ok (⟨path, entries⟩, opened) := by
  rw [openAt, hmade]
  simp only [Except.mapError, bind, Except.bind, Disk.holds_of_readText hread, hread, hentries]
  rfl

/-- Opening fails for the disk's reasons, or for the text's. -/
theorem fault_of_openAt {fault : Fault} (h : openAt path disk = .error fault) :
    (∃ cause, fault = .disk cause) ∨ ∃ cause, fault = .storage cause := by
  rw [openAt] at h
  cases hmade : disk.makeParents path with
  | error cause =>
      rw [hmade] at h
      cases h
      exact .inl ⟨cause, rfl⟩
  | ok made =>
      simp only [hmade, Except.mapError, bind, Except.bind] at h
      cases hholds : made.holds path with
      | false =>
          simp only [hholds] at h
          cases h
      | true =>
          cases hread : made.readText path with
          | error cause =>
              simp only [hholds, hread] at h
              cases h
              exact .inl ⟨cause, rfl⟩
          | ok text =>
              cases hentries : Entries.ofText? text with
              | some entries =>
                  simp only [hholds, hread, hentries] at h
                  cases h
              | none =>
                  simp only [hholds, hread, hentries] at h
                  cases h
                  exact .inr ⟨_, rfl⟩

/-- All that opening can find: no file, or one whose text has entries. -/
theorem openAt_cases (h : openAt path disk = .ok (file, opened)) :
    disk.makeParents path = .ok opened ∧
      (opened.holds path = false ∧ file = ⟨path, []⟩ ∨
        ∃ text entries, opened.readText path = .ok text ∧
          Entries.ofText? text = some entries ∧ file = ⟨path, entries⟩) := by
  rw [openAt] at h
  cases hmade : disk.makeParents path with
  | error fault => rw [hmade] at h; contradiction
  | ok made =>
      simp only [hmade, Except.mapError, bind, Except.bind] at h
      cases hholds : made.holds path with
      | false =>
          simp only [hholds] at h
          injection h with h
          injection h with hfile hopened
          subst hopened
          exact ⟨rfl, Or.inl ⟨hholds, hfile.symm⟩⟩
      | true =>
          simp only [hholds, if_true] at h
          cases hread : made.readText path with
          | error fault => simp only [hread] at h; contradiction
          | ok text =>
              simp only [hread] at h
              cases hentries : Entries.ofText? text with
              | none => simp only [hentries] at h; contradiction
              | some entries =>
                  simp only [hentries] at h
                  injection h with h
                  injection h with hfile hopened
                  subst hopened
                  exact ⟨rfl, Or.inr ⟨text, entries, hread, hentries, hfile.symm⟩⟩

/-- Opening a path a second time gives the same and changes nothing more. -/
theorem openAt_again (h : openAt path disk = .ok (file, opened)) :
    openAt path opened = .ok (file, opened) := by
  obtain ⟨hmade, ⟨hmissing, rfl⟩ | ⟨text, entries, hread, hentries, rfl⟩⟩ := openAt_cases h
  · exact openAt_of_missing (Disk.makeParents_again hmade) hmissing
  · exact openAt_of_text (Disk.makeParents_again hmade) hread hentries

theorem path_of_openAt (h : openAt path disk = .ok (file, opened)) : file.path = path := by
  obtain ⟨-, ⟨-, rfl⟩ | ⟨text, entries, -, -, rfl⟩⟩ := openAt_cases h <;> rfl

theorem sorted_of_openAt (h : openAt path disk = .ok (file, opened)) : file.entries.Sorted := by
  obtain ⟨-, ⟨-, rfl⟩ | ⟨text, entries, -, hentries, rfl⟩⟩ := openAt_cases h
  · exact List.Pairwise.nil
  · exact Entries.sorted_of_ofText? hentries

/-- Entries that are saved are those of the file from then on, and are written
at the end of its path. -/
theorem leads_of_save {saved : SessionFile} {written : Disk}
    (h : file.save entries disk = .ok (saved, written)) :
    saved = ⟨file.path, entries⟩ ∧ ∃ place mode, disk.Leads file.path place ∧
      written = disk.put place (.file (Utf8.ofString entries.toText) mode) := by
  rw [save] at h
  cases hwrite : disk.write file.path (Utf8.ofString entries.toText) Disk.privateMode with
  | error fault =>
      rw [hwrite] at h
      cases h
  | ok after =>
      rw [hwrite] at h
      cases h
      exact ⟨rfl, Disk.leads_of_write hwrite⟩

/-- Entries that were saved are found when the path is opened again. -/
theorem openAt_of_save {saved : SessionFile} {written : Disk} (hpath : file.path = path)
    (hsorted : entries.Sorted) (h : file.save entries disk = .ok (saved, written)) :
    saved = ⟨path, entries⟩ ∧ openAt path written = .ok (saved, written) := by
  obtain ⟨rfl, place, mode, hleads, rfl⟩ := leads_of_save h
  rw [hpath] at hleads ⊢
  have hafter := hleads.put (Utf8.ofString entries.toText) mode
  have hread := hafter.readText_eq (Disk.nodeAt?_put_same hleads.free _)
  exact ⟨rfl, openAt_of_text hafter.makeParents_eq hread (Entries.ofText?_toText hsorted)⟩

end BillingAccess.SessionFile
