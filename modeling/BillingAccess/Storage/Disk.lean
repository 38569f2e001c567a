/-
Files and folders.

A place is the list of names from the root.  A path is a text that leads from
the root or from the folder where the program runs; every name on the way has
to be a folder.
-/
import BillingAccess.Fault
import BillingAccess.Text.Utf8

namespace BillingAccess

/-- One step of a path. -/
inductive Step
  | down (name : String)
  | up
deriving Repr, DecidableEq

structure Path where
  text : String
deriving Repr, DecidableEq

namespace Path

def isAbsolute (path : Path) : Bool :=
  path.text.toList.head? == some '/'

/-- The steps; a single point and an empty name are none. -/
def steps (path : Path) : List Step :=
  (path.text.toList.splitOn '/').filterMap fun name =>
    if name = [] ∨ name = ['.'] then none
    else if name = ['.', '.'] then some .up
    else some (.down (String.ofList name))

/-- A path with a slash at its end can only be a folder. -/
def namesFolder (path : Path) : Bool :=
  path.text.toList.getLast? == some '/'

end Path

/-- Permissions are kept, and nothing depends on them. -/
inductive Disk.Node
  | folder
  | file (bytes : List UInt8) (mode : Nat)
deriving Repr, DecidableEq

abbrev Place := List String

structure Disk where
  nodes : List (Place × Disk.Node) := []
deriving Repr

namespace Disk

/-- Where the program runs. -/
def workingFolder : Place := ["work"]

/-- The permissions of a file that the program makes: for its owner alone. -/
def privateMode : Nat := 384

def nodeAt? (disk : Disk) (place : Place) : Option Node :=
  if place = [] ∨ place = workingFolder then some .folder else disk.nodes.lookup place

def put (disk : Disk) (place : Place) (node : Node) : Disk :=
  ⟨(place, node) :: disk.nodes.filter (·.1 != place)⟩

def erase (disk : Disk) (place : Place) : Disk :=
  ⟨disk.nodes.filter (·.1 != place)⟩

def take (place : Place) : Step → Place
  | .down name => place ++ [name]
  | .up => place.dropLast

/-- No system keeps names that are longer or hold a zero. -/
def checkName : Step → Except DiskFault Unit
  | .down name =>
      if 255 < name.utf8ByteSize then .error .nameTooLong else .ok ()
  | .up => .ok ()

/-- Follows steps; each place that is left has to be a folder. -/
def follow (disk : Disk) : Place → List Step → Except DiskFault Place
  | place, [] => .ok place
  | place, step :: rest =>
      match disk.nodeAt? place with
      | none => .error .notFound
      | some (.file _ _) => .error .notDirectory
      | some .folder => do
          checkName step
          disk.follow (take place step) rest

/-- Where a path leads. -/
def locate (disk : Disk) (path : Path) : Except DiskFault Place :=
  if path.text.toList.contains '\x00' then .error .invalidInput
  else if path.text = "" then .error .notFound
  else disk.follow (if path.isAbsolute then [] else workingFolder) path.steps

/-- What a path leads to. -/
def node (disk : Disk) (path : Path) : Except DiskFault Node := do
  match disk.nodeAt? (← disk.locate path) with
  | none => .error .notFound
  | some (.file bytes mode) =>
      if path.namesFolder then .error .notDirectory else .ok (.file bytes mode)
  | some .folder => .ok .folder

def holds (disk : Disk) (path : Path) : Bool :=
  (disk.node path).toOption.isSome

/-- The bytes of a file. -/
def read (disk : Disk) (path : Path) : Except DiskFault (List UInt8) := do
  match ← disk.node path with
  | .folder => .error .isDirectory
  | .file bytes _ => .ok bytes

/-- The text of a file. -/
def readText (disk : Disk) (path : Path) : Except DiskFault String := do
  match Utf8.toString? (← disk.read path) with
  | some text => .ok text
  | none => .error .invalidData

/-- Writes a file.  One that is there keeps its permissions. -/
def write (disk : Disk) (path : Path) (bytes : List UInt8) (mode : Nat) :
    Except DiskFault Disk := do
  let place ← disk.locate path
  match disk.nodeAt? place with
  | some .folder => .error .isDirectory
  | some (.file _ kept) =>
      if path.namesFolder then .error .notDirectory else .ok (disk.put place (.file bytes kept))
  | none =>
      if path.namesFolder then .error .isDirectory else .ok (disk.put place (.file bytes mode))

/-- Makes the folders along steps that are missing. -/
def makeFolders (disk : Disk) : Place → List Step → Except DiskFault Disk
  | _, [] => .ok disk
  | place, step :: rest => do
      checkName step
      let next := take place step
      match disk.nodeAt? next with
      | some .folder => disk.makeFolders next rest
      | some (.file _ _) => .error (if rest = [] then .alreadyExists else .notDirectory)
      | none => (disk.put next .folder).makeFolders next rest

/-- Makes the folders that a file at the path needs. -/
def makeParents (disk : Disk) (path : Path) : Except DiskFault Disk :=
  if path.text.toList.contains '\x00' ∧ 1 < path.steps.length then .error .invalidInput
  else disk.makeFolders (if path.isAbsolute then [] else workingFolder) path.steps.dropLast

/-- Makes one folder. -/
def makeFolder (disk : Disk) (path : Path) : Except DiskFault Disk := do
  let place ← disk.locate path
  match disk.nodeAt? place with
  | some _ => .error .alreadyExists
  | none => .ok (disk.put place .folder)

/-- Removes a folder that holds nothing. -/
def removeFolder (disk : Disk) (path : Path) : Except DiskFault Disk := do
  let place ← disk.locate path
  match disk.nodeAt? place with
  | none => .error .notFound
  | some (.file _ _) => .error .notDirectory
  | some .folder =>
      if disk.nodes.any fun (other, _) => place.isPrefixOf other && other != place then
        .error .unclassified
      else .ok (disk.erase place)

def removeFile (disk : Disk) (path : Path) : Except DiskFault Disk := do
  let place ← disk.locate path
  match disk.nodeAt? place with
  | none => .error .notFound
  | some (.file _ _) => .ok (disk.erase place)
  | some .folder => .error .isDirectory

def setMode (disk : Disk) (path : Path) (mode : Nat) : Except DiskFault Disk := do
  match ← disk.node path with
  | .file bytes _ => return disk.put (← disk.locate path) (.file bytes mode)
  | .folder => return disk

def mode? (disk : Disk) (path : Path) : Option Nat :=
  match disk.node path with
  | .ok (.file _ mode) => some mode
  | .ok .folder => some 493
  | .error _ => none

/-- The places that steps lead through, each with a path to it. -/
def placesAlong : Place → Path → List Step → List (Place × Path)
  | _, _, [] => []
  | place, path, step :: rest =>
      let name := match step with
        | .down name => name
        | .up => ".."
      let next := take place step
      let reached : Path := ⟨path.text ++ "/" ++ name⟩
      (next, reached) :: placesAlong next reached rest

/-- The places on the way to the end of a path, and the end itself. -/
def placesOf (path : Path) : List (Place × Path) :=
  if path.isAbsolute then placesAlong [] ⟨""⟩ path.steps
  else placesAlong workingFolder ⟨"."⟩ path.steps

/-- What is new along a path in a later disk. -/
def newsAlong (earlier later : Disk) (path : Path) : List (Path × Node) :=
  (placesOf path).filterMap fun (place, reached) =>
    if later.nodeAt? place = earlier.nodeAt? place then none
    else (later.nodeAt? place).map fun node => (reached, node)

end Disk

example : Disk.placesOf ⟨"a/../b"⟩
    = [(["work", "a"], ⟨"./a"⟩), (["work"], ⟨"./a/.."⟩), (["work", "b"], ⟨"./a/../b"⟩)] := by
  decide +kernel

end BillingAccess
