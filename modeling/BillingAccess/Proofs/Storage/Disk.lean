/-
A file that is written is found again at the end of its path.

Writing a file at the end of a path leaves the folders on the way as they are,
so the path still leads there.
-/
import BillingAccess.Proofs.Text.Utf8
import BillingAccess.Storage.Disk

namespace BillingAccess.Disk

variable {disk : Disk} {path : Path} {place other : Place}

theorem nodeAt?_put_same (h : disk.nodeAt? place ≠ some .folder) (node : Node) :
    (disk.put place node).nodeAt? place = some node := by
  have hplace : ¬ (place = [] ∨ place = workingFolder) := by
    intro hfixed
    rw [nodeAt?, if_pos hfixed] at h
    contradiction
  rw [nodeAt?, if_neg hplace, put, List.lookup_cons_self]

theorem nodeAt?_put_other (disk : Disk) (node : Node) (h : other ≠ place) :
    (disk.put place node).nodeAt? other = disk.nodeAt? other := by
  have hlookup (nodes : List (Place × Node)) :
      (nodes.filter (·.1 != place)).lookup other = nodes.lookup other := by
    induction nodes with
    | nil => rfl
    | cons first rest ih =>
        by_cases hsame : first.1 = place
        · rw [List.filter_cons_of_neg (by simpa using hsame), ih, List.lookup_cons, hsame,
            beq_false_of_ne h]
        · rw [List.filter_cons_of_pos (by simpa using hsame), List.lookup_cons,
            List.lookup_cons, ih]
  rw [nodeAt?, nodeAt?, put, List.lookup_cons, beq_false_of_ne h, hlookup]

/-- What is put at a place takes the place of what was there. -/
theorem put_put (disk : Disk) (place : Place) (first second : Node) :
    (disk.put place first).put place second = disk.put place second := by
  rw [put, put, put, List.filter_cons_of_neg (by simp), List.filter_filter]
  simp only [Bool.and_self]

/-- The permissions of a file that is written at a place: those of the file that
is there, if there is one. -/
def keptMode (disk : Disk) (place : Place) (mode : Nat) : Nat :=
  match disk.nodeAt? place with
  | some (.file _ kept) => kept
  | _ => mode

theorem keptMode_put (h : disk.nodeAt? place ≠ some .folder) (bytes : List UInt8)
    (kept mode : Nat) : (disk.put place (.file bytes kept)).keptMode place mode = kept := by
  rw [keptMode, nodeAt?_put_same h]

/-- A step is taken from a folder and along a name that can be kept. -/
theorem follow_cons {start reached : Place} {step : Step} {rest : List Step} :
    disk.follow start (step :: rest) = .ok reached ↔
      disk.nodeAt? start = some .folder ∧ checkName step = .ok () ∧
        disk.follow (take start step) rest = .ok reached := by
  rw [follow]
  cases hstart : disk.nodeAt? start with
  | none => simp
  | some held =>
      cases held with
      | file bytes mode => simp
      | folder =>
          cases hname : checkName step with
          | error fault => simp [bind, Except.bind]
          | ok allowed => simp [bind, Except.bind]

/-- What is put where there is no folder does not turn a path aside. -/
theorem follow_put (h : disk.nodeAt? place ≠ some .folder) (node : Node) {start reached : Place}
    {steps : List Step} (hfollow : disk.follow start steps = .ok reached) :
    (disk.put place node).follow start steps = .ok reached := by
  induction steps generalizing start with
  | nil => exact hfollow
  | cons step rest ih =>
      obtain ⟨hstart, hname, hrest⟩ := follow_cons.mp hfollow
      have hother : start ≠ place := by
        rintro rfl
        exact h hstart
      rw [follow_cons, nodeAt?_put_other disk node hother]
      exact ⟨hstart, hname, ih hrest⟩

/-- Folders that are there are not made again. -/
theorem makeFolders_of_follow {start reached : Place} {steps : List Step}
    (hfollow : disk.follow start steps = .ok reached) :
    disk.makeFolders start steps.dropLast = .ok disk := by
  induction steps generalizing start with
  | nil => rfl
  | cons step rest ih =>
      obtain ⟨-, hname, hrest⟩ := follow_cons.mp hfollow
      cases rest with
      | nil => rfl
      | cons next rest =>
          have hnext := (follow_cons.mp hrest).1
          rw [List.dropLast_cons_cons, makeFolders, hname]
          simp only [bind, Except.bind, hnext]
          exact ih hrest

theorem locate_eq_ok : disk.locate path = .ok place ↔
    path.text.toList.contains '\x00' = false ∧ path.text ≠ "" ∧
      disk.follow (if path.isAbsolute then [] else workingFolder) path.steps = .ok place := by
  rw [locate]
  cases hzero : path.text.toList.contains '\x00' with
  | true => simp only [if_true, reduceCtorEq, false_and]
  | false =>
      by_cases hempty : path.text = ""
      · simp only [hempty, Bool.false_eq_true, if_false, if_true, reduceCtorEq, ne_eq,
          not_true_eq_false, false_and, and_false]
      · simp only [hempty, Bool.false_eq_true, if_false, ne_eq, not_false_eq_true, true_and]

/-- A folder on the way is there, or is made where nothing is. -/
theorem makeFolders_cons {start : Place} {step : Step} {rest : List Step} {made : Disk} :
    disk.makeFolders start (step :: rest) = .ok made ↔
      checkName step = .ok () ∧
        (disk.nodeAt? (take start step) = some .folder ∧
            disk.makeFolders (take start step) rest = .ok made ∨
          disk.nodeAt? (take start step) = none ∧
            (disk.put (take start step) .folder).makeFolders (take start step) rest = .ok made) := by
  rw [makeFolders]
  cases hname : checkName step with
  | error fault => simp [bind, Except.bind]
  | ok allowed =>
      simp only [bind, Except.bind, true_and]
      cases hnext : disk.nodeAt? (take start step) with
      | none => simp
      | some held => cases held <;> simp

/-- Making folders takes none away. -/
theorem makeFolders_keeps {start : Place} {steps : List Step} {made : Disk}
    (hmade : disk.makeFolders start steps = .ok made) (h : disk.nodeAt? place = some .folder) :
    made.nodeAt? place = some .folder := by
  induction steps generalizing disk start with
  | nil =>
      obtain rfl := Except.ok.inj hmade
      exact h
  | cons step rest ih =>
      obtain ⟨-, ⟨-, hrest⟩ | ⟨hnone, hrest⟩⟩ := makeFolders_cons.mp hmade
      · exact ih hrest h
      · have hother : place ≠ take start step := by
          rintro rfl
          rw [h] at hnone
          contradiction
        exact ih hrest (by rwa [nodeAt?_put_other disk _ hother])

/-- Folders that have been made are not made again. -/
theorem makeFolders_again {start : Place} {steps : List Step} {made : Disk}
    (hmade : disk.makeFolders start steps = .ok made) :
    made.makeFolders start steps = .ok made := by
  induction steps generalizing disk start with
  | nil => rfl
  | cons step rest ih =>
      obtain ⟨hname, ⟨hfolder, hrest⟩ | ⟨hnone, hrest⟩⟩ := makeFolders_cons.mp hmade
      · exact makeFolders_cons.mpr ⟨hname, Or.inl ⟨makeFolders_keeps hrest hfolder, ih hrest⟩⟩
      · have hput : (disk.put (take start step) .folder).nodeAt? (take start step) =
            some .folder := nodeAt?_put_same (by rw [hnone]; exact nofun) .folder
        exact makeFolders_cons.mpr ⟨hname, Or.inl ⟨makeFolders_keeps hrest hput, ih hrest⟩⟩

theorem makeParents_again {made : Disk} (hmade : disk.makeParents path = .ok made) :
    made.makeParents path = .ok made := by
  rw [makeParents] at hmade ⊢
  split at hmade
  · contradiction
  · rename_i hallowed
    rw [if_neg hallowed]
    exact makeFolders_again hmade

/-- A path that leads somewhere leads through folders that are there. -/
theorem makeParents_of_locate (h : disk.locate path = .ok place) :
    disk.makeParents path = .ok disk := by
  obtain ⟨hzero, -, hfollow⟩ := locate_eq_ok.mp h
  rw [makeParents, hzero, if_neg (by simp)]
  exact makeFolders_of_follow hfollow

theorem exists_locate_of_readText {text : String} (h : disk.readText path = .ok text) :
    ∃ place, disk.locate path = .ok place := by
  cases hlocate : disk.locate path with
  | ok place => exact ⟨place, rfl⟩
  | error fault =>
      rw [readText, read, node, hlocate] at h
      contradiction

theorem holds_of_readText {text : String} (h : disk.readText path = .ok text) :
    disk.holds path = true := by
  rw [holds]
  cases hnode : disk.node path with
  | ok node => rfl
  | error fault =>
      rw [readText, read, hnode] at h
      contradiction

/-- The path of a file leads to a place where no folder is. -/
structure Leads (disk : Disk) (path : Path) (place : Place) : Prop where
  located : disk.locate path = .ok place
  free : disk.nodeAt? place ≠ some .folder
  plain : path.namesFolder = false

namespace Leads

theorem put (h : disk.Leads path place) (bytes : List UInt8) (mode : Nat) :
    (disk.put place (.file bytes mode)).Leads path place := by
  obtain ⟨hzero, hempty, hfollow⟩ := locate_eq_ok.mp h.located
  refine ⟨locate_eq_ok.mpr ⟨hzero, hempty, follow_put h.free _ hfollow⟩, ?_, h.plain⟩
  rw [nodeAt?_put_same h.free]
  simp

/-- The folders that the file needs are there already. -/
theorem makeParents_eq (h : disk.Leads path place) : disk.makeParents path = .ok disk :=
  makeParents_of_locate h.located

theorem node_eq (h : disk.Leads path place) {bytes : List UInt8} {mode : Nat}
    (hfile : disk.nodeAt? place = some (.file bytes mode)) :
    disk.node path = .ok (.file bytes mode) := by
  rw [node, h.located]
  simp only [bind, Except.bind, hfile, h.plain]
  rfl

theorem holds_of_file (h : disk.Leads path place) {bytes : List UInt8} {mode : Nat}
    (hfile : disk.nodeAt? place = some (.file bytes mode)) : disk.holds path = true := by
  rw [holds, h.node_eq hfile]
  rfl

theorem holds_of_none (h : disk.Leads path place) (hnone : disk.nodeAt? place = none) :
    disk.holds path = false := by
  rw [holds, node, h.located]
  simp only [bind, Except.bind, hnone]
  rfl

/-- A text that was written is read. -/
theorem readText_eq (h : disk.Leads path place) {text : String} {mode : Nat}
    (hfile : disk.nodeAt? place = some (.file (Utf8.ofString text) mode)) :
    disk.readText path = .ok text := by
  rw [readText, read, h.node_eq hfile]
  simp only [bind, Except.bind, Utf8.toString?_ofString]

/-- Writing puts the file at the end of its path. -/
theorem write_eq (h : disk.Leads path place) (bytes : List UInt8) (mode : Nat) :
    disk.write path bytes mode = .ok (disk.put place (.file bytes (disk.keptMode place mode))) := by
  rw [write, h.located, keptMode]
  simp only [bind, Except.bind, h.plain]
  cases hnode : disk.nodeAt? place with
  | none => rfl
  | some held =>
      cases held with
      | folder => exact absurd hnode h.free
      | file old kept => rfl

theorem exists_write (h : disk.Leads path place) (bytes : List UInt8) (mode : Nat) :
    ∃ kept, disk.write path bytes mode = .ok (disk.put place (.file bytes kept)) :=
  ⟨_, h.write_eq bytes mode⟩

end Leads

/-- What can be written is put at the end of the path of a file. -/
theorem leads_of_write {bytes : List UInt8} {mode : Nat} {written : Disk}
    (h : disk.write path bytes mode = .ok written) :
    ∃ place kept, disk.Leads path place ∧ written = disk.put place (.file bytes kept) := by
  rw [write] at h
  cases hlocate : disk.locate path with
  | error fault => rw [hlocate] at h; contradiction
  | ok place =>
      simp only [hlocate, bind, Except.bind] at h
      cases hplain : path.namesFolder with
      | true =>
          simp only [hplain, if_true] at h
          split at h <;> contradiction
      | false =>
          simp only [hplain, Bool.false_eq_true, if_false] at h
          cases hnode : disk.nodeAt? place with
          | none =>
              simp only [hnode] at h
              exact ⟨place, mode, ⟨hlocate, by rw [hnode]; exact nofun, hplain⟩,
                (Except.ok.inj h).symm⟩
          | some held =>
              cases held with
              | folder => simp only [hnode] at h; contradiction
              | file old kept =>
                  simp only [hnode] at h
                  exact ⟨place, kept, ⟨hlocate, by rw [hnode]; exact nofun, hplain⟩,
                    (Except.ok.inj h).symm⟩

end BillingAccess.Disk
