import PocketShell.Json.Plain
import PocketShell.Json.Reader
import PocketShell.Json.Writer
import PocketShell.Store.Memory

/-!
A store in one JSON file. The file is read when a key is first asked for, and written whenever
an entry changes. A missing file counts as empty, and so do a file that is no JSON and a value
that is no object; bytes that are no text, a number that is too long and a path that the host
cannot take make every call fail. There are no bytes for a half, so a write ends in front of the
first piece that has one in it.
-/

namespace PocketShell

/-- What is wrong with a path before the disk is asked. A half may be in a name if it stands for a
byte that is no text. -/
def DiskPath.fault? (p : DiskPath) : Option StoreFault :=
  match p.text.unencodable? fun c => c.isHalf && !Disk.standsForByte c with
  | some cause => some (.unencodable cause)
  | none => if p.text.contains '\x00' then some .nullInPath else none

structure FileStore where
  path : DiskPath
  disk : Disk
  /-- The entries, once they have been read. -/
  loaded : Option MemoryStore := none

namespace FileStore

def unreadable (s : FileStore) : LogEntry :=
  ⟨.warning, .persistence, "Ignoring unreadable state file " ++ s.path.text⟩

/-- The entries of a state file; values that are no strings are taken by their plain text. -/
def entriesOf : Json.Value → MemoryStore
  | .object members => .ofList (members.toList.map fun (name, v) => (name, v.plain))
  | _ => {}

/-- What the file holds, and whether it had to be ignored. -/
def readFile (s : FileStore) : Except StoreFault (MemoryStore × Bool) :=
  match s.path.fault? with
  | some fault => .error fault
  | none =>
      match s.disk.read s.path.names with
      | .error .noSuchFile => .ok ({}, false)
      | .error _ => .ok ({}, true)
      | .ok bytes =>
          match Text.decode bytes with
          | none => .error .undecodable
          | some text =>
              match Json.read text with
              | .error .malformed => .ok ({}, true)
              | .error (.longNumber n) => .error (.longNumber n)
              | .ok v => .ok (entriesOf v, false)

def load (s : FileStore) : Reply FileStore MemoryStore :=
  match s.loaded with
  | some entries => ⟨.ok entries, s, []⟩
  | none =>
      match s.readFile with
      | .error e => ⟨.error e, s, []⟩
      | .ok (entries, ignored) =>
          ⟨.ok entries, { s with loaded := some entries }, if ignored then [s.unreadable] else []⟩

/-- The text of a file with the entries, in the pieces in which it is written. -/
def filePieces (entries : MemoryStore) : List Text :=
  Json.recordPieces entries.entries.toList ++ [("\n" : Text)]

/-- The disk after writing the entries to the file, and what went wrong. The pieces in front of
one that has no bytes are written all the same. -/
def writeDisk (s : FileStore) (entries : MemoryStore) : Disk × Except StoreFault Unit :=
  match s.disk.makeDirectories s.path.names.dropLast with
  | (disk, .error e) => (disk, .error (.unwritable e))
  | (disk, .ok ()) =>
      let (bytes, encoded) := Text.encodeAll (filePieces entries)
      match disk.write s.path.names bytes with
      | (disk, .error e) => (disk, .error (.unwritable e))
      | (disk, .ok ()) => (disk, encoded.mapError .unencodable)

/-- Takes the entries as the present ones and writes them; they stay the present ones when the
file cannot be written. -/
def keep (s : FileStore) (entries : MemoryStore) : Reply FileStore Unit :=
  let (disk, result) := s.writeDisk entries
  ⟨result, { s with disk := disk, loaded := some entries }, []⟩

def get (s : FileStore) (key : Text) : Reply FileStore (Option Text) :=
  s.load.andThen fun entries s => ⟨.ok (entries.get key), s, []⟩

def set (s : FileStore) (key value : Text) : Reply FileStore Unit :=
  s.load.andThen fun entries s => s.keep (entries.set key value)

def remove (s : FileStore) (key : Text) : Reply FileStore Unit :=
  s.load.andThen fun entries s =>
    if entries.contains key then s.keep (entries.remove key) else ⟨.ok (), s, []⟩

/-- A new store on the same file. -/
def reopen (s : FileStore) : FileStore := { s with loaded := none }

instance : KeyValueStore FileStore where
  get := get
  set := set
  remove := remove

end FileStore
end PocketShell
