/-
A session file is a map that outlasts the process, even if some writes fail.

The map takes over the calls that succeed and no others.  The open file answers
from it, and opening the path again at any time gives it back, with all keys
that are no slots.
-/
import BillingAccess.Proofs.Storage.Reference

namespace BillingAccess

open BillingAccess.Action

/-- The map that a path holds: there is no file, or a blank one, or one that
spells an object of texts, where of one name the last member counts. -/
inductive Disk.Contains (disk : Disk) (path : Path) : TextMap → Prop
  | absent {made : Disk} (hmade : disk.makeParents path = .ok made)
      (hmissing : made.holds path = false) : Contains disk path fun _ => none
  | blank {text : String} (hread : disk.readText path = .ok text)
      (hblank : Text.isBlankText text) : Contains disk path fun _ => none
  | object {text : String} {members : List (String × String)}
      (hread : disk.readText path = .ok text) (hspells : Entries.Spells text members) :
      Contains disk path fun key => members.reverse.lookup key

/-- The open file answers from the map, and it is what opening its path gives. -/
structure Agrees (path : Path) (map : TextMap) (s : FileSession) : Prop where
  entries : s.file.entries.get? = map
  reopened : SessionFile.openAt path s.disk = .ok (s.file, s.disk)

theorem SessionFile.exists_openAt_of_contains {disk : Disk} {path : Path} {map : TextMap}
    (h : disk.Contains path map) :
    ∃ file opened, openAt path disk = .ok (file, opened) ∧ Agrees path map ⟨opened, file⟩ := by
  obtain ⟨file, opened, hopen, hentries⟩ :
      ∃ file opened, openAt path disk = .ok (file, opened) ∧ file.entries.get? = map := by
    cases h with
    | absent hmade hmissing => exact ⟨_, _, openAt_of_missing hmade hmissing, rfl⟩
    | blank hread hblank =>
        obtain ⟨place, hlocate⟩ := Disk.exists_locate_of_readText hread
        exact ⟨_, _, openAt_of_text (Disk.makeParents_of_locate hlocate) hread
          (Entries.ofText?_of_blank hblank), rfl⟩
    | object hread hspells =>
        obtain ⟨place, hlocate⟩ := Disk.exists_locate_of_readText hread
        exact ⟨_, _, openAt_of_text (Disk.makeParents_of_locate hlocate) hread
          (Entries.ofText?_of_spells hspells), funext (Entries.get?_sortMembers _)⟩
  exact ⟨file, opened, hopen, hentries, openAt_again hopen⟩

/-- A disk as it shows itself while nothing can be written at a path. -/
structure Refusal (path : Path) where
  disk : Disk
  refuses : ∀ bytes mode, ∃ fault, disk.write path bytes mode = .error fault

/-- Nothing is written where a folder is. -/
def Refusal.ofFolder {path : Path} (disk : Disk) {place : Place}
    (hlocate : disk.locate path = .ok place) (hfolder : disk.nodeAt? place = some .folder) :
    Refusal path where
  disk := disk
  refuses bytes mode := by
    refine ⟨.isDirectory, ?_⟩
    rw [Disk.write, hlocate]
    simp only [bind, Except.bind, hfolder]

/-- A call, and the refusal it meets, if writing fails then. -/
structure FileCall (path : Path) where
  demand : Demand
  refusal : Option (Refusal path) := none

variable {path : Path} {map : TextMap} {s : FileSession}

/-- Makes a call.  After a refusal the disk is as it was. -/
def FileCall.run (call : FileCall path) (s : FileSession) :
    Except Fault (Option String) × FileSession :=
  match call.refusal with
  | none => call.demand.act.runFrom s
  | some refusal =>
      let (result, later) := call.demand.act.runFrom ⟨refusal.disk, s.file⟩
      (result, ⟨s.disk, later.file⟩)

theorem FileCall.run_unrefused (demand : Demand) (s : FileSession) :
    (FileCall.mk demand none : FileCall path).run s = demand.act.runFrom s :=
  rfl

theorem FileCall.run_refused (demand : Demand) (refusal : Refusal path) (s : FileSession) :
    FileCall.run ⟨demand, some refusal⟩ s =
      ((demand.act.runFrom ⟨refusal.disk, s.file⟩).1,
        ⟨s.disk, (demand.act.runFrom ⟨refusal.disk, s.file⟩).2.file⟩) :=
  rfl

/-- A call that need not write is answered, refusal or not. -/
theorem FileCall.run_of_not_writes {call : FileCall path}
    (h : call.demand.writes s.file.entries = false) :
    call.run s = (.ok (call.demand.answer s.file.entries), s) := by
  obtain ⟨demand, _ | refusal⟩ := call
  · exact Demand.runFrom_act_of_not_writes h
  · have hrun := Demand.runFrom_act_of_not_writes (s := ⟨refusal.disk, s.file⟩) h
    rw [run_refused, hrun]

/-- A call that has to write fails and changes nothing, or saves. -/
theorem FileCall.run_of_writes {call : FileCall path} (hpath : s.file.path = path)
    (h : call.demand.writes s.file.entries = true) :
    (∃ fault, call.run s = (.error fault, s)) ∨
      ∃ file disk, s.file.save (call.demand.edit s.file.entries) s.disk = .ok (file, disk) ∧
        call.run s = (.ok none, ⟨disk, file⟩) := by
  obtain ⟨demand, _ | refusal⟩ := call
  · have hrun := Demand.runFrom_act_of_writes h
    rcases hsave : s.file.save (demand.edit s.file.entries) s.disk with fault | ⟨file, disk⟩ <;>
      rw [hsave] at hrun
    · exact Or.inl ⟨fault, hrun⟩
    · exact Or.inr ⟨file, disk, rfl, hrun⟩
  · obtain ⟨fault, hrefused⟩ := refusal.refuses
      (Utf8.ofString (demand.edit s.file.entries).toText) Disk.privateMode
    have hsave : s.file.save (demand.edit s.file.entries) refusal.disk = .error (.disk fault) := by
      rw [SessionFile.save, hpath, hrefused]
    have hrun := Demand.runFrom_act_of_writes (s := ⟨refusal.disk, s.file⟩) h
    rw [hsave] at hrun
    exact Or.inl ⟨.disk fault, by rw [run_refused, hrun]⟩

/-- A call that was made, with what was open before and after it. -/
structure Made (path : Path) where
  call : FileCall path
  before : FileSession
  result : Except Fault (Option String)
  after : FileSession

def FileCall.made (call : FileCall path) (s : FileSession) : Made path :=
  ⟨call, s, (call.run s).1, (call.run s).2⟩

/-- What comes of calls that are made one after another. -/
def callsFrom : FileSession → List (FileCall path) → List (Made path)
  | _, [] => []
  | s, call :: rest => call.made s :: callsFrom (call.made s).after rest

/-- Only a call that succeeds is taken over. -/
def Made.apply (map : TextMap) (made : Made path) : TextMap :=
  if made.result.isOk then made.call.demand.apply map else map

/-- The map after some calls. -/
def reference (map : TextMap) (calls : List (Made path)) : TextMap :=
  calls.foldl Made.apply map

/-- What is found under a key when a path is opened. -/
def Disk.found (disk : Disk) (path : Path) (key : String) : Option String :=
  (SessionFile.openAt path disk).toOption.bind fun opened => opened.1.entries.get? key

theorem Agrees.found (h : Agrees path map s) : s.disk.found path = map := by
  funext key
  rw [Disk.found, h.reopened, ← h.entries]
  rfl

/-- What a call does to a file that agrees with a map. -/
structure Faithful (path : Path) (map : TextMap) (made : Made path) : Prop where
  before : Agrees path map made.before
  after : Agrees path (made.apply map) made.after
  answer : ∀ slot, made.call.demand = .get slot → made.result = .ok (map slot.key)
  cached : ∀ key, key ≠ made.call.demand.slot.key →
    made.after.file.entries.get? key = made.before.file.entries.get? key
  stored : ∀ key, key ≠ made.call.demand.slot.key →
    made.after.disk.found path key = made.before.disk.found path key
  succeeds : ∀ place, made.call.refusal = none → made.before.disk.Leads path place →
    made.result.isOk

theorem Made.apply_other (made : Made path) (map : TextMap) {key : String}
    (h : key ≠ made.call.demand.slot.key) : made.apply map key = map key := by
  rw [apply]
  split
  · exact made.call.demand.apply_other map h
  · rfl

/-- Whether it fails or not, a call leaves the file in agreement with the map
that takes it over if it succeeds. -/
theorem FileCall.agrees_made (call : FileCall path) (h : Agrees path map s) :
    Agrees path ((call.made s).apply map) (call.made s).after := by
  have hpath := SessionFile.path_of_openAt h.reopened
  have hsorted := SessionFile.sorted_of_openAt h.reopened
  cases hwrites : call.demand.writes s.file.entries with
  | false =>
      have hrun := FileCall.run_of_not_writes hwrites
      have hsame : (call.made s).apply map = map := by
        have hok : (call.made s).result.isOk := by rw [made, hrun]; rfl
        rw [Made.apply, if_pos hok, ← h.entries]
        exact Demand.apply_of_not_writes hwrites
      rw [hsame, made, hrun]
      exact h
  | true =>
      rcases FileCall.run_of_writes hpath hwrites with ⟨fault, hrun⟩ | ⟨file, disk, hsave, hrun⟩
      · rw [Made.apply, made, hrun]
        exact h
      · obtain ⟨rfl, hreopened⟩ := SessionFile.openAt_of_save hpath
          (Demand.sorted_edit call.demand hsorted) hsave
        rw [Made.apply, made, hrun, ← h.entries]
        exact ⟨Demand.get?_edit _ _, hreopened⟩

/-- A call whose write is not refused succeeds where a file can be. -/
theorem FileCall.isOk_run {call : FileCall path} (hpath : s.file.path = path)
    (hrefusal : call.refusal = none) {place : Place} (hleads : s.disk.Leads path place) :
    (call.run s).1.isOk := by
  obtain ⟨demand, refusal⟩ := call
  obtain rfl : refusal = none := hrefusal
  cases hwrites : demand.writes s.file.entries with
  | false =>
      rw [run_of_not_writes hwrites]
      rfl
  | true =>
      obtain ⟨kept, hwrite⟩ := hleads.exists_write
        (Utf8.ofString (demand.edit s.file.entries).toText) Disk.privateMode
      rw [run_unrefused, Demand.runFrom_act_of_writes hwrites, SessionFile.save, hpath, hwrite]
      rfl

theorem FileCall.faithful_made (call : FileCall path) (h : Agrees path map s) :
    Faithful path map (call.made s) := by
  have hafter := call.agrees_made h
  have hother : ∀ key, key ≠ call.demand.slot.key → (call.made s).apply map key = map key :=
    fun _ hkey => (call.made s).apply_other map hkey
  refine ⟨h, hafter, ?_, ?_, ?_, ?_⟩
  · intro slot hget
    obtain ⟨demand, refusal⟩ := call
    obtain rfl : demand = .get slot := hget
    have hrun : (FileCall.mk (.get slot) refusal).run s = (.ok (s.file.entries.get? slot.key), s) :=
      FileCall.run_of_not_writes rfl
    rw [made, hrun, ← h.entries]
  · intro key hkey
    rw [hafter.entries, hother key hkey]
    exact (congrFun h.entries key).symm
  · intro key hkey
    rw [hafter.found, hother key hkey]
    exact (congrFun h.found key).symm
  · intro place hrefusal hleads
    exact FileCall.isOk_run (SessionFile.path_of_openAt h.reopened) hrefusal hleads

theorem callsFrom_faithful (h : Agrees path map s) {calls : List (FileCall path)}
    {earlier later : List (Made path)} {made : Made path}
    (hcalls : callsFrom s calls = earlier ++ made :: later) :
    Faithful path (reference map earlier) made := by
  induction calls generalizing s map earlier with
  | nil => simp [callsFrom] at hcalls
  | cons call rest ih =>
      cases earlier with
      | nil =>
          obtain ⟨rfl, -⟩ := List.cons.inj hcalls
          exact call.faithful_made h
      | cons first earlier =>
          obtain ⟨rfl, hrest⟩ := List.cons.inj hcalls
          exact ih (call.agrees_made h) hrest

/-- A session file is the map that its path holds, with the calls that have
succeeded taken over, as long as nobody else touches the file. -/
theorem SessionFile.refines_map {disk : Disk} (h : disk.Contains path map)
    (calls : List (FileCall path)) :
    ∃ file opened, openAt path disk = .ok (file, opened) ∧ Agrees path map ⟨opened, file⟩ ∧
      ∀ earlier made later, callsFrom ⟨opened, file⟩ calls = earlier ++ made :: later →
        Faithful path (reference map earlier) made := by
  obtain ⟨file, opened, hopen, hagrees⟩ := exists_openAt_of_contains h
  exact ⟨file, opened, hopen, hagrees, fun _ _ _ hcalls => callsFrom_faithful hagrees hcalls⟩

/-- A file with a key that is no slot: the first writing is refused, the second
is not. -/
theorem SessionFile.refines_map_with_refusal :
    let path : Path := ⟨"session.json"⟩
    let place : Place := ["work", "session.json"]
    let entries : Entries := [("theme", "dark")]
    let disk : Disk := ⟨[(place, .file (Utf8.ofString entries.toText) 420)]⟩
    let map : TextMap := fun key => entries.reverse.lookup key
    ∃ refusal : Refusal path,
      let calls := [FileCall.mk (.set .state "s") (some refusal), ⟨.set .state "t", none⟩,
        ⟨.get .state, none⟩]
      disk.Contains path map ∧ ∃ file opened, openAt path disk = .ok (file, opened) ∧
        Agrees path map ⟨opened, file⟩ ∧
        ∀ earlier made later, callsFrom ⟨opened, file⟩ calls = earlier ++ made :: later →
          Faithful path (reference map earlier) made := by
  intro path place entries disk map
  have hsteps : path.steps = [.down "session.json"] := by decide +kernel
  have hrelative : path.isAbsolute = false := by decide +kernel
  have hzero : path.text.toList.contains '\x00' = false := by decide +kernel
  have hlocate : ∀ disk : Disk, disk.locate path = .ok place := by
    intro disk
    rw [Disk.locate_eq_ok, hsteps, hrelative]
    exact ⟨hzero, by decide +kernel, rfl⟩
  have hleads : disk.Leads path place := ⟨hlocate disk, by exact nofun, by decide +kernel⟩
  have hcontains : disk.Contains path map :=
    .object (hleads.readText_eq rfl) (Entries.spells_toText entries)
  exact ⟨.ofFolder ⟨[(place, .folder)]⟩ (hlocate _) rfl, hcontains, refines_map hcontains _⟩

end BillingAccess
