/-
A sign-in does not notice that its program is started anew for every operation.

What one process leaves in the session file is all that the next one needs: a
course that is cut into as many processes as it has operations gives the same
results, makes the same requests and keeps the same values as one process that
keeps them in memory.
-/
import BillingAccess.Proofs.SignIn.Likeness
import BillingAccess.Proofs.Storage.SessionFile

namespace BillingAccess.SignIn

open BillingAccess.Action Session

variable {σ τ : Type}

/-- What is seen of an operation: its result, its requests, and what the slots
hold afterwards. -/
structure Observation where
  result : Except Fault Answer
  requests : List (Request × Bool)
  slots : Slots

/-- The world as another process finds it that keeps its session elsewhere: the
sign-in is idle there, and no request has been made. -/
def handOver (w : World σ) (store : τ) : World τ where
  store := store
  now := w.now
  later := w.later
  random := w.random
  network := w.network

/-- One process that keeps the session in memory. -/
def inOneProcess (app : Application) (w : World Slots) (operations : List Operation) :
    List Observation :=
  (course app w operations).map fun event =>
    ⟨event.result, event.attempts.map seen, event.after.store⟩

/-- A process for every operation.  Each opens the session file anew, and so
does whoever looks at the slots afterwards. -/
def acrossRestarts (app : Application) (path : Path) :
    World Disk → List Operation → Except Fault (List Observation)
  | _, [] => .ok []
  | w, operation :: rest => do
      let (file, disk) ← SessionFile.openAt path w.store
      let event := operation.event app (handOver w (FileSession.mk disk file))
      let (reopened, disk) ← SessionFile.openAt path event.after.store.disk
      let later ← acrossRestarts app path (handOver event.after disk) rest
      return ⟨event.result, event.attempts.map seen, reopened.get?⟩ :: later

/-- Worlds that differ in their stores alone. -/
structure SameOutside (w : World σ) (v : World τ) : Prop where
  now : w.now = v.now
  later : w.later = v.later
  random : w.random = v.random
  network : w.network = v.network

/-- Such worlds are alike from now on if their stores are. -/
theorem SameOutside.likeWorlds {R : σ → τ → Prop} {w : World σ} {v : World τ}
    (h : SameOutside w v) (hstore : R w.store v.store) :
    LikeWorlds R w.attempts.length v.attempts.length w v where
  store := hstore
  now := h.now
  later := h.later
  random := h.random
  network := h.network
  enough := ⟨Nat.le_refl _, Nat.le_refl _⟩
  attempts := by
    rw [List.drop_length, List.drop_length]
    rfl

/-- One operation in a process of its own and in the one that goes on. -/
theorem event_alike (app : Application) (operation : Operation) {path : Path} {place : Place}
    {w : World FileSession} {v : World Slots} (hstore : Mirrors path place w.store v.store)
    (houtside : SameOutside w v) :
    (operation.event app w).result = (operation.event app v).result ∧
      (operation.event app w).attempts.map seen = (operation.event app v).attempts.map seen ∧
      Mirrors path place (operation.event app w).after.store
        (operation.event app v).after.store ∧
      SameOutside (operation.event app w).after (operation.event app v).after := by
  obtain ⟨hresult, hafter⟩ := act_alike (Mirrors.interchangeable path place) app operation w v
    (houtside.likeWorlds hstore)
  exact ⟨hresult, hafter.attempts, hafter.store,
    ⟨hafter.now, hafter.later, hafter.random, hafter.network⟩⟩

theorem acrossRestarts_of_openAt (app : Application) {path : Path} {place : Place}
    {w : World Disk} {v : World Slots} {file : SessionFile} {disk : Disk}
    (hopen : SessionFile.openAt path w.store = .ok (file, disk))
    (hmirrors : Mirrors path place ⟨disk, file⟩ v.store) (houtside : SameOutside w v)
    (operations : List Operation) :
    acrossRestarts app path w operations = .ok (inOneProcess app v operations) := by
  induction operations generalizing w v file disk with
  | nil => rfl
  | cons operation rest ih =>
      obtain ⟨hresult, hrequests, hafter, hworld⟩ :=
        event_alike app operation (w := handOver w (FileSession.mk disk file)) hmirrors
          ⟨houtside.now, houtside.later, houtside.random, houtside.network⟩
      have hreopen := hafter.openAt_eq
      have hslots : (operation.event app
          (handOver w (FileSession.mk disk file))).after.store.file.get? =
            (operation.event app v).after.store := funext hafter.slots
      have hrest := ih (w := handOver (operation.event app
          (handOver w (FileSession.mk disk file))).after _) hreopen hafter
        ⟨hworld.now, hworld.later, hworld.random, hworld.network⟩
      rw [acrossRestarts, hopen]
      simp only [bind, Except.bind, hreopen, hrest]
      rw [hresult, hrequests, hslots]
      rfl

/-- Restarts are not noticed. -/
theorem acrossRestarts_eq_inOneProcess (app : Application) {path : Path} {w : World Disk}
    (hvacant : w.store.Vacant path) (operations : List Operation) :
    acrossRestarts app path w operations =
      .ok (inOneProcess app (handOver w Slots.empty) operations) := by
  obtain ⟨opened, place, hopen, hmirrors⟩ := exists_openAt_of_vacant hvacant
  exact acrossRestarts_of_openAt app hopen hmirrors ⟨rfl, rfl, rfl, rfl⟩ operations

/-- The folder of the session file is made by the first process. -/
theorem sign_in_across_restarts :
    let app : Application := ⟨"http://iam", "web", "http://app/callback", defaultScopes⟩
    let path : Path := ⟨"data/session.json"⟩
    let url : Url :=
      { scheme := "http", query := some "code=c&state=00000000000000000000000000000000" }
    let answer := "\x7b\"access_token\":\"a\\u0000\",\"refresh_token\":\"r\"\x7d"
    let w : World Disk :=
      { store := {}
        now := 0
        random := ⟨fun _ => 0, 0⟩
        network := { reply := fun _ => .answer 200 (some (Utf8.ofString answer)) } }
    let operations : List Operation := [.start, .callback url, .refresh, .accessToken]
    w.store.Vacant path ∧ acrossRestarts app path w operations =
      .ok (inOneProcess app (handOver w Slots.empty) operations) := by
  intro app path url answer w operations
  have hsteps : path.steps = [.down "data", .down "session.json"] := by decide +kernel
  have hrelative : path.isAbsolute = false := by decide +kernel
  have hzero : path.text.toList.contains '\x00' = false := by decide +kernel
  have hvacant : w.store.Vacant path := by
    refine ⟨⟨[(["work", "data"], .folder)]⟩, ["work", "data", "session.json"], ?_, ⟨?_, ?_, ?_⟩, ?_⟩
    · rw [Disk.makeParents, hzero, hsteps, hrelative]
      rfl
    · rw [Disk.locate_eq_ok, hsteps, hrelative]
      exact ⟨hzero, by decide +kernel, rfl⟩
    · decide +kernel
    · decide +kernel
    · decide +kernel
  exact ⟨hvacant, acrossRestarts_eq_inOneProcess app hvacant operations⟩

end BillingAccess.SignIn
