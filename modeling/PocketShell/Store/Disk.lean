import PocketShell.OrderedMap
import PocketShell.Path

/-!
A host disk, as far as a state file needs it: files of bytes and directories, by the names that
lead to them. The empty list of names is the working directory of the program, which is always
there; names from the root begin with the root. In a path, `..` goes up from a directory that
exists, and the root is above itself. Names and whole paths have a greatest length in bytes. Some
places may not be changed: a file there cannot be written, and nothing can be made in a directory
there. There may be room for the beginning of a file only: then a write breaks off, and what was in
the file before is lost all the same.
-/

namespace PocketShell

inductive DiskError
  | noSuchFile
  | fileExists
  | notADirectory
  | isADirectory
  | nameTooLong
  | noSpace
  | permissionDenied
  deriving DecidableEq, Repr

namespace DiskError

def message : DiskError → Text
  | .noSuchFile => "[Errno 2] No such file or directory"
  | .fileExists => "[Errno 17] File exists"
  | .notADirectory => "[Errno 20] Not a directory"
  | .isADirectory => "[Errno 21] Is a directory"
  | .nameTooLong => "[Errno 36] File name too long"
  | .noSpace => "[Errno 28] No space left on device"
  | .permissionDenied => "[Errno 13] Permission denied"

end DiskError

structure Disk where
  files : OrderedMap (List Text) ByteArray := .empty
  directories : List (List Text) := []
  /-- The places that may not be changed. -/
  locked : List (List Text) := []
  /-- How many bytes can be written to a file, if not as many as there are. -/
  room : Option Nat := none

namespace Disk

def isDirectory (d : Disk) (place : List Text) : Bool :=
  place.isEmpty || d.directories.contains place

/-- What is wrong with a place that should be a directory. -/
def checkDirectory (d : Disk) (place : List Text) : Except DiskError Unit :=
  if d.isDirectory place then .ok ()
  else if d.files.contains place then .error .notADirectory
  else .error .noSuchFile

def rootName : Text := ['/']

def maxNameBytes : Nat := 255

def maxPathBytes : Nat := 4095

/-- Whether a code point stands for a byte that is no text, in the names of the host. -/
def standsForByte (c : CodePoint) : Bool := 0xDC80 ≤ c.toNat && c.toNat < 0xDD00

/-- How many bytes a code point of a name takes. -/
def byteCount : CodePoint → Nat
  | .char c => c.utf8Size
  | .half _ => 1

def byteLength (t : Text) : Nat := t.foldr (fun c n => byteCount c + n) 0

/-- The length in bytes of a path with these names. -/
def pathBytes : List Text → Nat
  | [] => 0
  | name :: names =>
      if name = rootName then 1 + byteLength (Text.join ['/'] names)
      else byteLength (Text.join ['/'] (name :: names))

/-- The place above a place. -/
def above (place : List Text) : List Text := if place = [rootName] then place else place.dropLast

/-- The place that a segment leads to from another place. -/
def step (place : List Text) (segment : Text) : List Text :=
  if segment = (['.', '.'] : Text) then above place else place ++ [segment]

/-- The place that a path leads to from a directory; the last segment need not exist. -/
def follow (d : Disk) (place : List Text) : List Text → Except DiskError (List Text)
  | [] => .ok place
  | segment :: segments =>
      match d.checkDirectory place with
      | .error e => .error e
      | .ok () =>
          if maxNameBytes < byteLength segment then .error .nameTooLong
          else d.follow (step place segment) segments

/-- The place of a path, from the working directory or the root. -/
def locate (d : Disk) (path : List Text) : Except DiskError (List Text) :=
  if maxPathBytes < pathBytes path then .error .nameTooLong else d.follow [] path

def read (d : Disk) (path : List Text) : Except DiskError ByteArray :=
  match d.locate path with
  | .error e => .error e
  | .ok place =>
      if d.isDirectory place then .error .isADirectory
      else match d.files.get? place with
        | some bytes => .ok bytes
        | none => .error .noSuchFile

/-- The bytes of a file for which there is room. -/
def fitting (d : Disk) (bytes : ByteArray) : ByteArray :=
  match d.room with
  | none => bytes
  | some n => bytes.extract 0 n

/-- Whether a file may be written, and made in its directory if it is not there. -/
def mayWrite (d : Disk) (place : List Text) : Bool :=
  !d.locked.contains place && (d.files.contains place || !d.locked.contains (above place))

/-- Puts bytes into a file in the place of what it held, as far as there is room for them. -/
def write (d : Disk) (path : List Text) (bytes : ByteArray) : Disk × Except DiskError Unit :=
  match d.locate path with
  | .error e => (d, .error e)
  | .ok place =>
      if d.isDirectory place then (d, .error .isADirectory)
      else if !d.mayWrite place then (d, .error .permissionDenied)
      else
        ({ d with files := d.files.insert place (d.fitting bytes) },
          if (d.fitting bytes).size < bytes.size then .error .noSpace else .ok ())

/-- Makes one directory; one that is there already will do. -/
def makeDirectory (d : Disk) (path : List Text) : Except DiskError Disk :=
  match d.locate path with
  | .error e => .error e
  | .ok place =>
      if d.isDirectory place then .ok d
      else if d.files.contains place then .error .fileExists
      else if d.locked.contains (above place) then .error .permissionDenied
      else .ok { d with directories := d.directories ++ [place] }

/-- Makes a directory, after those above it if they are missing; the path comes last segment
first. What was made stays when a later one cannot be made. -/
def makeDirectoriesUp (d : Disk) : List Text → Disk × Except DiskError Unit
  | [] => (d, .ok ())
  | segment :: above =>
      match d.makeDirectory (segment :: above).reverse with
      | .ok d => (d, .ok ())
      | .error .noSuchFile =>
          match d.makeDirectoriesUp above with
          | (d, .error e) => (d, .error e)
          | (d, .ok ()) =>
              match d.makeDirectory (segment :: above).reverse with
              | .ok d => (d, .ok ())
              | .error e => (d, .error e)
      | .error e => (d, .error e)

def makeDirectories (d : Disk) (path : List Text) : Disk × Except DiskError Unit :=
  d.makeDirectoriesUp path.reverse

end Disk

/-- A path on the host disk: what roots it, and its segments. -/
structure DiskPath where
  root : Text
  segments : List Text
  deriving DecidableEq, Repr

namespace DiskPath

/-- Empty segments and `.` say nothing and are left out. Two slashes at the head are a root of
their own, more are as good as one. -/
def ofText (t : Text) : DiskPath :=
  let slashes := (t.takeWhile fun c : CodePoint => c = '/').length
  let root : Text := if slashes = 0 then [] else if slashes = 2 then ['/', '/'] else ['/']
  ⟨root, (Path.segments t).filter (· ≠ (['.'] : Text))⟩

def text (p : DiskPath) : Text :=
  if p.root.isEmpty && p.segments.isEmpty then ['.'] else p.root ++ Text.join ['/'] p.segments

/-- The names that lead to the path on a disk; both roots are the same there. -/
def names (p : DiskPath) : List Text :=
  if p.root.isEmpty then p.segments else Disk.rootName :: p.segments

/-- The place of the path when every directory on the way is there. -/
def place (p : DiskPath) : List Text := p.names.foldl Disk.step []

/-- The directories that the path leads through, from the top. -/
def directories (p : DiskPath) : List (List Text) :=
  (List.range p.names.length).map fun n => (p.names.take n).foldl Disk.step []

end DiskPath
end PocketShell
