/-
Session files that are open at the same path at the same time.

Each handle answers from the entries that it has read and that it has changed
itself, and whoever writes puts all of them into the file.  The file therefore
holds the map of the handle that wrote last, and changes that this handle has
not read are lost.  Nothing is lost as long as every call is made through a
handle that holds what the file holds.
-/
import BillingAccess.Proofs.Storage.Refinement

namespace BillingAccess

open BillingAccess.Action

variable {ι : Type} [DecidableEq ι]

/-- A disk, and the session files that are open on it. -/
structure Shared (ι : Type) where
  disk : Disk
  file : ι → SessionFile

/-- What one of the handles answers from. -/
def Shared.held (s : Shared ι) (handle : ι) : TextMap :=
  (s.file handle).entries.get?

/-- A handle is opened anew, or a call is made through it. -/
inductive Move (ι : Type)
  | reopen (handle : ι)
  | call (handle : ι) (demand : Demand)

namespace Move

def handle : Move ι → ι
  | reopen handle | call handle _ => handle

/-- What the move asks of a map. -/
def apply : Move ι → TextMap → TextMap
  | reopen _, map => map
  | call _ demand, map => demand.apply map

/-- Whether the move writes the file. -/
def writes (s : Shared ι) : Move ι → Bool
  | reopen _ => false
  | call handle demand => demand.writes (s.file handle).entries

def run (path : Path) (s : Shared ι) : Move ι → Except Fault (Option String) × Shared ι
  | reopen handle =>
      match SessionFile.openAt path s.disk with
      | .ok (file, disk) => (.ok none, ⟨disk, Function.update s.file handle file⟩)
      | .error fault => (.error fault, s)
  | call handle demand =>
      let (result, later) := demand.act.runFrom ⟨s.disk, s.file handle⟩
      (result, ⟨later.disk, Function.update s.file handle later.file⟩)

end Move

/-- A move that was made. -/
structure Moved (ι : Type) where
  move : Move ι
  before : Shared ι
  result : Except Fault (Option String)
  after : Shared ι

def Move.moved (path : Path) (move : Move ι) (s : Shared ι) : Moved ι :=
  ⟨move, s, (move.run path s).1, (move.run path s).2⟩

/-- What comes of moves that are made one after another. -/
def movesFrom (path : Path) : Shared ι → List (Move ι) → List (Moved ι)
  | _, [] => []
  | s, move :: rest => move.moved path s :: movesFrom path (move.moved path s).after rest

/-- The map that all moves make of a map, in their order. -/
def applied (map : TextMap) (moves : List (Moved ι)) : TextMap :=
  moves.foldl (fun map moved => moved.move.apply map) map

/-- After every move the file holds what all moves so far make of the map. -/
def NothingLost (path : Path) (map : TextMap) (moves : List (Moved ι)) : Prop :=
  ∀ earlier moved later, moves = earlier ++ moved :: later →
    moved.after.disk.found path = applied map (earlier ++ [moved])

/-- A call is made through a handle that holds what the file holds. -/
def Moved.Current (path : Path) (moved : Moved ι) : Prop :=
  match moved.move with
  | .reopen _ => True
  | .call handle _ => moved.before.held handle = moved.before.disk.found path

/-- Files can be written at the path, once its folders are made. -/
structure Disk.Writable (disk : Disk) (path : Path) : Prop where
  made : ∃ opened place, disk.makeParents path = .ok opened ∧ opened.Leads path place

/-- What holds as long as nothing but the handles touches the file. -/
structure Shared.Sound (path : Path) (place : Place) (s : Shared ι) : Prop where
  leads : s.disk.Leads path place
  opens : ∃ file, SessionFile.openAt path s.disk = .ok (file, s.disk)
  named : ∀ handle, (s.file handle).path = path
  sorted : ∀ handle, (s.file handle).entries.Sorted

/-- What a move does.  A call changes its own handle's map, and what it writes
is all of that map. -/
structure Published (path : Path) (moved : Moved ι) : Prop where
  succeeds : moved.result.isOk
  opens : ∃ file, SessionFile.openAt path moved.after.disk = .ok (file, moved.after.disk)
  others : ∀ other, other ≠ moved.move.handle → moved.after.file other = moved.before.file other
  own : moved.after.held moved.move.handle =
    match moved.move with
    | .reopen _ => moved.before.disk.found path
    | .call handle demand => demand.apply (moved.before.held handle)
  written : moved.move.writes moved.before = true →
    moved.after.disk.found path = moved.after.held moved.move.handle
  unwritten : moved.move.writes moved.before = false →
    moved.after.disk.found path = moved.before.disk.found path

variable {path : Path} {place : Place} {map : TextMap} {s : Shared ι}

theorem Disk.found_of_openAt {disk opened : Disk} {file : SessionFile}
    (h : SessionFile.openAt path disk = .ok (file, opened)) :
    disk.found path = file.entries.get? := by
  funext key
  rw [found, h]
  rfl

theorem Shared.Sound.update (h : s.Sound path place) {disk : Disk} {handle : ι}
    {file : SessionFile} (hleads : disk.Leads path place)
    (hopens : ∃ file, SessionFile.openAt path disk = .ok (file, disk))
    (hpath : file.path = path) (hsorted : file.entries.Sorted) :
    (Shared.mk disk (Function.update s.file handle file)).Sound path place where
  leads := hleads
  opens := hopens
  named := (Function.forall_update_iff s.file fun _ file => file.path = path).mpr
    ⟨hpath, fun other _ => h.named other⟩
  sorted := (Function.forall_update_iff s.file fun _ file => file.entries.Sorted).mpr
    ⟨hsorted, fun other _ => h.sorted other⟩

theorem Shared.held_update (disk : Disk) (file : ι → SessionFile) (handle : ι)
    (own : SessionFile) :
    (Shared.mk disk (Function.update file handle own)).held handle = own.entries.get? :=
  congrArg (fun file : SessionFile => file.entries.get?) (Function.update_self handle own file)

theorem Move.sound_reopen (h : s.Sound path place) (handle : ι) :
    ((reopen handle).moved path s).after.Sound path place ∧
      Published path ((reopen handle).moved path s) := by
  obtain ⟨file, hopen⟩ := h.opens
  have hrun : (reopen handle).run path s =
      (.ok none, ⟨s.disk, Function.update s.file handle file⟩) := by
    rw [run, hopen]
  rw [moved, hrun]
  refine ⟨h.update h.leads h.opens (SessionFile.path_of_openAt hopen)
    (SessionFile.sorted_of_openAt hopen), ?_⟩
  exact {
    succeeds := rfl
    opens := h.opens
    others := fun other hother => Function.update_of_ne hother _ _
    own := by rw [Move.handle, Shared.held_update, Disk.found_of_openAt hopen]
    written := nofun
    unwritten := fun _ => rfl }

theorem Move.sound_call_of_not_writes (h : s.Sound path place) {handle : ι} {demand : Demand}
    (hwrites : demand.writes (s.file handle).entries = false) :
    ((call handle demand).moved path s).after.Sound path place ∧
      Published path ((call handle demand).moved path s) := by
  have hact := Demand.runFrom_act_of_not_writes (s := ⟨s.disk, s.file handle⟩) hwrites
  rw [moved, run, hact]
  refine ⟨h.update h.leads h.opens (h.named handle) (h.sorted handle), ?_⟩
  exact {
    succeeds := rfl
    opens := h.opens
    others := fun other hother => Function.update_of_ne hother _ _
    own := by
      rw [Move.handle, Shared.held_update]
      exact (Demand.apply_of_not_writes hwrites).symm
    written := fun hwritten => absurd (hwrites.symm.trans hwritten) Bool.false_ne_true
    unwritten := fun _ => rfl }

omit [DecidableEq ι] in
/-- The changed entries are saved, and found when the path is opened. -/
theorem Shared.Sound.exists_save (h : s.Sound path place) (handle : ι) {entries : Entries}
    (hsorted : entries.Sorted) :
    ∃ disk, (s.file handle).save entries s.disk = .ok (⟨path, entries⟩, disk) ∧
      disk.Leads path place ∧ SessionFile.openAt path disk = .ok (⟨path, entries⟩, disk) := by
  obtain ⟨kept, hwrite⟩ := h.leads.exists_write (Utf8.ofString entries.toText) Disk.privateMode
  have hsave : (s.file handle).save entries s.disk =
      .ok (⟨path, entries⟩, s.disk.put place (.file (Utf8.ofString entries.toText) kept)) := by
    rw [SessionFile.save, h.named handle, hwrite]
  exact ⟨_, hsave, h.leads.put _ _,
    (SessionFile.openAt_of_save (h.named handle) hsorted hsave).2⟩

theorem Move.sound_call_of_writes (h : s.Sound path place) {handle : ι} {demand : Demand}
    (hwrites : demand.writes (s.file handle).entries = true) :
    ((call handle demand).moved path s).after.Sound path place ∧
      Published path ((call handle demand).moved path s) := by
  have hsorted := Demand.sorted_edit demand (h.sorted handle)
  obtain ⟨disk, hsave, hleads, hopen⟩ := h.exists_save handle hsorted
  have hact := Demand.runFrom_act_of_writes (s := ⟨s.disk, s.file handle⟩) hwrites
  simp only [hsave] at hact
  rw [moved, run, hact]
  refine ⟨h.update hleads ⟨_, hopen⟩ rfl hsorted, ?_⟩
  exact {
    succeeds := rfl
    opens := ⟨_, hopen⟩
    others := fun other hother => Function.update_of_ne hother _ _
    own := by
      rw [Move.handle, Shared.held_update]
      exact Demand.get?_edit demand _
    written := fun _ => by
      rw [Move.handle, Shared.held_update]
      exact Disk.found_of_openAt hopen
    unwritten := fun hunwritten => absurd (hunwritten.symm.trans hwrites) Bool.false_ne_true }

theorem Move.sound_moved (h : s.Sound path place) (move : Move ι) :
    (move.moved path s).after.Sound path place ∧ Published path (move.moved path s) := by
  cases move with
  | reopen handle => exact sound_reopen h handle
  | call handle demand =>
      cases hwrites : demand.writes (s.file handle).entries with
      | false => exact sound_call_of_not_writes h hwrites
      | true => exact sound_call_of_writes h hwrites

theorem published_of_mem (h : s.Sound path place) {moves : List (Move ι)} {moved : Moved ι}
    (hmem : moved ∈ movesFrom path s moves) : Published path moved := by
  induction moves generalizing s with
  | nil => exact absurd hmem List.not_mem_nil
  | cons move rest ih =>
      obtain ⟨hsound, hpublished⟩ := move.sound_moved h
      rcases List.mem_cons.mp hmem with rfl | hrest
      · exact hpublished
      · exact ih hsound hrest

/-- What is asked of a handle that holds what the file holds is done to the
file. -/
theorem Move.found_moved (h : s.Sound path place) (move : Move ι)
    (hcurrent : (move.moved path s).Current path) :
    (move.moved path s).after.disk.found path = move.apply (s.disk.found path) := by
  obtain ⟨-, hpublished⟩ := move.sound_moved h
  cases move with
  | reopen handle => exact hpublished.unwritten rfl
  | call handle demand =>
      have hheld : s.held handle = s.disk.found path := hcurrent
      rw [Move.apply, ← hheld]
      cases hwrites : demand.writes (s.file handle).entries with
      | false =>
          have happly : demand.apply (s.held handle) = s.held handle :=
            Demand.apply_of_not_writes hwrites
          rw [hpublished.unwritten hwrites, happly]
          exact hheld.symm
      | true =>
          rw [hpublished.written hwrites]
          exact hpublished.own

theorem nothingLost_of_current (h : s.Sound path place) (hmap : s.disk.found path = map)
    {moves : List (Move ι)}
    (hcurrent : ∀ moved ∈ movesFrom path s moves, moved.Current path) :
    NothingLost path map (movesFrom path s moves) := by
  induction moves generalizing s map with
  | nil =>
      intro earlier moved later hmoves
      simp [movesFrom] at hmoves
  | cons move rest ih =>
      obtain ⟨hfirst, hrest⟩ := List.forall_mem_cons.mp hcurrent
      obtain ⟨hsound, -⟩ := move.sound_moved h
      have hfound := move.found_moved h hfirst
      rw [hmap] at hfound
      intro earlier moved later hmoves
      cases earlier with
      | nil =>
          obtain ⟨rfl, -⟩ := List.cons.inj hmoves
          exact hfound
      | cons first earlier =>
          obtain ⟨rfl, hlater⟩ := List.cons.inj hmoves
          exact ih hsound hfound hrest earlier moved later hlater

/-- The handles take turns: a call is made through the handle that has made the
last call, or has been opened since. -/
def InTurn : ι → List (Move ι) → Prop
  | _, [] => True
  | _, .reopen handle :: rest => InTurn handle rest
  | latest, .call handle _ :: rest => handle = latest ∧ InTurn latest rest

theorem current_of_inTurn (h : s.Sound path place) {latest : ι}
    (hheld : s.held latest = s.disk.found path) {moves : List (Move ι)}
    (hturns : InTurn latest moves) : ∀ moved ∈ movesFrom path s moves, moved.Current path := by
  induction moves generalizing s latest with
  | nil => exact fun _ hmem => absurd hmem List.not_mem_nil
  | cons move rest ih =>
      obtain ⟨hsound, hpublished⟩ := move.sound_moved h
      rw [movesFrom, List.forall_mem_cons]
      cases move with
      | reopen handle =>
          refine ⟨trivial, ih hsound ?_ hturns⟩
          exact hpublished.own.trans (hpublished.unwritten rfl).symm
      | call handle demand =>
          obtain ⟨rfl, hrest⟩ := hturns
          refine ⟨hheld, ih hsound ?_ hrest⟩
          rw [Move.found_moved h (.call handle demand) hheld, Move.apply, ← hheld]
          exact hpublished.own

/-- Whoever writes last decides what the file holds.  Nothing is lost as long as
every call is made through a handle that holds what the file holds. -/
theorem SessionFile.last_writer_decides {disk : Disk} (hwritable : disk.Writable path)
    (hcontains : disk.Contains path map) (moves : List (Move ι)) :
    ∃ file opened, openAt path disk = .ok (file, opened) ∧
      (∀ moved ∈ movesFrom path ⟨opened, fun _ => file⟩ moves, Published path moved) ∧
      ((∀ moved ∈ movesFrom path ⟨opened, fun _ => file⟩ moves, moved.Current path) →
        NothingLost path map (movesFrom path ⟨opened, fun _ => file⟩ moves)) := by
  obtain ⟨file, opened, hopen, hagrees⟩ := exists_openAt_of_contains hcontains
  obtain ⟨made, place, hmade, hleads⟩ := hwritable.made
  obtain rfl : made = opened :=
    Except.ok.inj (hmade.symm.trans (openAt_cases hopen).1)
  have hsound : (Shared.mk made fun _ : ι => file).Sound path place :=
    { leads := hleads
      opens := ⟨file, hagrees.reopened⟩
      named := fun _ => path_of_openAt hopen
      sorted := fun _ => sorted_of_openAt hopen }
  exact ⟨file, made, hopen, fun _ hmem => published_of_mem hsound hmem,
    nothingLost_of_current hsound hagrees.found⟩

/-- One handle keeps a token; the other is opened anew, keeps a state and
removes the token. -/
theorem SessionFile.handles_in_turn :
    let path : Path := ⟨"session.json"⟩
    let disk : Disk := {}
    let s : Shared Bool := ⟨disk, fun _ => ⟨path, []⟩⟩
    let moves : List (Move Bool) := [.call false (.set .accessToken "a"), .reopen true,
      .call true (.set .state "s"), .call true (.remove .accessToken)]
    disk.Writable path ∧ disk.Contains path (fun _ => none) ∧
      (∀ moved ∈ movesFrom path s moves, moved.Current path) ∧
      ∃ file opened, openAt path disk = .ok (file, opened) ∧
        (∀ moved ∈ movesFrom path ⟨opened, fun _ => file⟩ moves, Published path moved) ∧
        ((∀ moved ∈ movesFrom path ⟨opened, fun _ => file⟩ moves, moved.Current path) →
          NothingLost path (fun _ => none) (movesFrom path ⟨opened, fun _ => file⟩ moves)) := by
  intro path disk s moves
  have hsteps : path.steps = [.down "session.json"] := by decide +kernel
  have hrelative : path.isAbsolute = false := by decide +kernel
  have hzero : path.text.toList.contains '\x00' = false := by decide +kernel
  have hlocate : disk.locate path = .ok ["work", "session.json"] := by
    rw [Disk.locate_eq_ok, hsteps, hrelative]
    exact ⟨hzero, by decide +kernel, rfl⟩
  have hleads : disk.Leads path ["work", "session.json"] :=
    ⟨hlocate, by decide +kernel, by decide +kernel⟩
  have hmissing : disk.holds path = false := hleads.holds_of_none (by decide +kernel)
  have hopen := openAt_of_missing hleads.makeParents_eq hmissing
  have hsound : s.Sound path ["work", "session.json"] :=
    ⟨hleads, ⟨_, hopen⟩, fun _ => rfl, fun _ => List.Pairwise.nil⟩
  have hwritable : disk.Writable path := ⟨⟨disk, _, hleads.makeParents_eq, hleads⟩⟩
  have hcontains : disk.Contains path fun _ => none := .absent hleads.makeParents_eq hmissing
  have hturns : InTurn false moves := ⟨rfl, rfl, rfl, trivial⟩
  exact ⟨hwritable, hcontains, current_of_inTurn hsound (Disk.found_of_openAt hopen).symm hturns,
    last_writer_decides hwritable hcontains moves⟩

/-- Two handles are opened before the file is there.  One keeps a token, the
other a state, and the token is gone. -/
theorem SessionFile.update_lost :
    let path : Path := ⟨"session.json"⟩
    let s : Shared Bool := ⟨{}, fun _ => ⟨path, []⟩⟩
    let moves := movesFrom path s [.reopen false, .reopen true,
      .call false (.set .accessToken "a"), .call true (.set .state "s")]
    (moves.all fun moved => moved.result.isOk) = true ∧
      ¬NothingLost path (fun _ => none) moves := by
  intro path s moves
  refine ⟨by decide +kernel, ?_⟩
  intro h
  have hlast := h (moves.take 3) _ [] (rfl : moves = moves.take 3 ++ [_])
  have hlost := congrFun hlast Slot.accessToken.key
  revert hlost
  decide +kernel

end BillingAccess
