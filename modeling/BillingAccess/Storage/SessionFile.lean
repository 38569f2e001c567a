/-
A session in a file: one JSON object of texts.

An open session file has read its entries once and answers from them; a change
writes the whole file first and is taken over only if that succeeds.  Entries
that are no slots are kept as they are.
-/
import BillingAccess.Json.Printer
import BillingAccess.Json.Record
import BillingAccess.Json.Reader
import BillingAccess.Storage.Disk
import BillingAccess.Storage.TokenStore
import BillingAccess.Text.Blank
import BillingAccess.Text.Quoted

namespace BillingAccess

/-- Texts by key, sorted. -/
abbrev Entries := List (String × String)

namespace Entries

def codec : Json.Codec Entries := .dictionary .text

/-- The entries in the text of a file; a blank file has none. -/
def ofText? (text : String) : Option Entries :=
  if Text.isBlankText text then some []
  else (Json.decodeText codec.read text.toList).toOption

def toText (entries : Entries) : String :=
  (codec.write entries).pretty

def get? (entries : Entries) (key : String) : Option String :=
  entries.lookup key

def put (entries : Entries) (key value : String) : Entries :=
  Json.insertSorted key value entries

def erase (entries : Entries) (key : String) : Entries :=
  entries.filter (·.1 != key)

end Entries

structure SessionFile where
  path : Path
  entries : Entries
deriving Repr, DecidableEq

namespace SessionFile

/-- Opens the file at a path, or prepares to make it.  The folders that it
needs are made at once. -/
def openAt (path : Path) (disk : Disk) : Except Fault (SessionFile × Disk) := do
  let disk ← (disk.makeParents path).mapError .disk
  if disk.holds path then
    let text ← (disk.readText path).mapError .disk
    match Entries.ofText? text with
    | some entries => return (⟨path, entries⟩, disk)
    | none => throw (.storage (.malformed path.text))
  else return (⟨path, []⟩, disk)

/-- Writes entries and, if that succeeds, goes on with them. -/
def save (file : SessionFile) (entries : Entries) (disk : Disk) :
    Except Fault (SessionFile × Disk) :=
  match disk.write file.path (Utf8.ofString entries.toText) Disk.privateMode with
  | .ok disk => .ok ({ file with entries := entries }, disk)
  | .error fault => .error (.disk fault)

def get? (file : SessionFile) (slot : Slot) : Option String :=
  file.entries.get? slot.key

def set (file : SessionFile) (slot : Slot) (value : String) (disk : Disk) :
    Except Fault (SessionFile × Disk) :=
  file.save (file.entries.put slot.key value) disk

/-- A slot that is not there is not removed, and nothing is written. -/
def remove (file : SessionFile) (slot : Slot) (disk : Disk) : Except Fault (SessionFile × Disk) :=
  match file.get? slot with
  | none => .ok (file, disk)
  | some _ => file.save (file.entries.erase slot.key) disk

/-- How a session file shows itself. -/
def display (file : SessionFile) : String :=
  "FileTokenStore \x7b path: " ++ Text.quoted file.path.text ++ " \x7d"

end SessionFile

/-- A disk and one session file that is open on it. -/
structure FileSession where
  disk : Disk
  file : SessionFile

namespace FileSession

/-- A step that may change the file and the disk; a failing one changes nothing. -/
def step (change : SessionFile → Disk → Except Fault (SessionFile × Disk)) :
    Action FileSession Unit := do
  let s ← get
  match change s.file s.disk with
  | .ok (file, disk) => set (FileSession.mk disk file)
  | .error fault => throw fault

end FileSession

instance : TokenStore FileSession where
  get slot := do return (← get).file.get? slot
  set slot value := FileSession.step fun file disk => file.set slot value disk
  remove slot := FileSession.step fun file disk => file.remove slot disk

end BillingAccess
