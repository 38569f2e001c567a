/-
The program on a real machine.

The files that the command line is about are read, the program is run on what
was read, and what is new is written.  The machine lends no net and no keyring.
-/
import BillingAccess.Program
import Std.Time.DateTime.Timestamp

namespace BillingAccess.Machine

/-- What is at a path. -/
def look (path : Path) : IO (Option Disk.Node) := do
  try
    let _ ← IO.FS.realPath (path.text ++ "/.")
    return some .folder
  catch _ =>
    try
      return some (.file (← IO.FS.readBinFile path.text).toList Disk.privateMode)
    catch _ => return none

/-- A disk with what is found along some paths. -/
def explore (paths : List Path) : IO Disk :=
  (paths.flatMap Disk.placesOf).foldlM (fun disk (place, path) => do
    match ← look path with
    | some node => return disk.put place node
    | none => return disk) {}

/-- Makes a folder or writes a file; a new file is for its owner alone. -/
def store : Path × Disk.Node → IO Unit
  | (path, .folder) => IO.FS.createDir path.text
  | (path, .file bytes _) => do
      let isNew := (← look path).isNone
      IO.FS.writeBinFile path.text (ByteArray.mk bytes.toArray)
      if isNew then IO.setAccessRights path.text ⟨⟨true, true, false⟩, {}, {}⟩

def environment : IO Environment := do
  let values ← Program.knownVariables.mapM fun name => return (← IO.getEnv name).map (name, ·)
  return ⟨values.filterMap id, none⟩

/-- A row of random bytes, enough for one sign-in. -/
def randomSource : IO SignIn.RandomSource := do
  let bytes ← IO.getRandomBytes (SignIn.stateLength + SignIn.verifierLength).toUSize
  return ⟨fun i => bytes[i]?.getD 0, 0⟩

/-- The world in which the program is run. -/
def world (disk : Disk) : IO (World Vault) := do
  let now ← Std.Time.Timestamp.now
  return {
    store := { disk := disk }
    now := Int64.ofInt now.toMillisecondsSinceUnixEpoch.val
    random := ← randomSource
    network := { connected := false, reply := fun _ => .hangUp } }

/-- Runs the program and writes what it changes. -/
def run (words : List String) : IO UInt32 := do
  let env ← environment
  let settingsDisk ← explore (Program.files words env {})
  let files := Program.files words env settingsDisk
  let disk ← explore files
  let (ending, after) :=
    Program.run words env (← (← IO.getStdout).isTty) (← world disk)
  (files.flatMap (disk.newsAlong after.store.disk)).forM store
  IO.print after.printed
  IO.eprint ending.complaint
  return UInt32.ofNat ending.code

end BillingAccess.Machine

def main (words : List String) : IO UInt32 :=
  BillingAccess.Machine.run words
