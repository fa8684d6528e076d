import PocketShell.Pipeline.Redirect
import PocketShell.Session.Basic

/-!
Changes to the tree of a session. Writing a file asks for no permission, only for a directory to
write in; creating asks for permission first; removing asks for permission to write in the
parent directory.
-/

namespace PocketShell

/-- Why there is no directory at a place. -/
inductive LookupFault
  | missing
  | notADirectory
  deriving DecidableEq, Repr

def Directory.directoryAt (root : Directory) (names : List Text) : Except LookupFault Directory :=
  match root.walk names with
  | none => .error .missing
  | some (.file _) => .error .notADirectory
  | some (.dir d) => .ok d

inductive WriteFault
  | lookup (fault : LookupFault)
  | isADirectory
  deriving DecidableEq, Repr

inductive CreateFault
  | denied
  | lookup (fault : LookupFault)
  | alreadyThere
  deriving DecidableEq, Repr

namespace LookupFault

def reason : LookupFault → Text
  | .missing => "No such file or directory"
  | .notADirectory => "Not a directory"

end LookupFault

namespace WriteFault

def reason : WriteFault → Text
  | .lookup fault => fault.reason
  | .isADirectory => "Is a directory"

def message (file : Text) (fault : WriteFault) : Text := "bash: " ++ file ++ ": " ++ fault.reason

end WriteFault

namespace CreateFault

def reason : CreateFault → Text
  | .denied => "Permission denied"
  | .lookup fault => fault.reason
  | .alreadyThere => "File exists"

end CreateFault

/-- The file that stands in the place of an entry after a write. -/
def written (existing : Option Node) (content : Text) (mode : WriteMode) : Node :=
  match mode, existing with
  | .append, some (.file old) => .file (old ++ content)
  | _, _ => .file content

/-- Whether a target can be removed, and from where. -/
inductive Removal
  | allowed (parent : List Text) (name : Text)
  | denied
  | missing
  | isADirectory
  deriving DecidableEq, Repr

namespace Session

def change (s : Session) (place : List Text) (f : Directory → Directory) : Session :=
  { s with root := s.root.modify f place }

def write (s : Session) (file content : Text) (mode : WriteMode) : Except WriteFault Session :=
  let (parent, name) := Path.parentAndName (s.resolve file)
  let place := Path.segments parent
  if name.isEmpty then .error .isADirectory
  else match s.root.directoryAt place with
    | .error fault => .error (.lookup fault)
    | .ok d =>
        match d.get? name with
        | some (.dir _) => .error .isADirectory
        | existing => .ok (s.change place (·.insert name (written existing content mode)))

/-- Where a new entry would go: the place of its parent directory, that directory, and the name,
which is empty for the root. -/
def newEntry (s : Session) (target : Text) : Except CreateFault (List Text × Directory × Text) :=
  let path := s.resolve target
  if !canWrite path s.user then .error .denied
  else
    let (parent, name) := Path.parentAndName path
    match s.root.directoryAt (Path.segments parent) with
    | .error fault => .error (.lookup fault)
    | .ok d => .ok (Path.segments parent, d, name)

def makeDirectory (s : Session) (target : Text) : Except CreateFault Session :=
  match s.newEntry target with
  | .error fault => .error fault
  | .ok (place, d, name) =>
      if name.isEmpty || d.contains name then .error .alreadyThere
      else .ok (s.change place (·.insert name (.dir .nil)))

/-- What is there already stays as it is. -/
def touch (s : Session) (target : Text) : Except CreateFault Session :=
  match s.newEntry target with
  | .error fault => .error fault
  | .ok (place, d, name) =>
      if name.isEmpty || d.contains name then .ok s
      else .ok (s.change place (·.insert name (.file [])))

def removal (s : Session) (recursive : Bool) (target : Text) : Removal :=
  let (parent, name) := Path.parentAndName (s.resolve target)
  if !canWrite parent s.user then .denied
  else match s.nodeAt parent with
    | some (.dir d) =>
        match d.get? name with
        | none => .missing
        | some node =>
            if node.isDir && !recursive then .isADirectory
            else .allowed (Path.segments parent) name
    | _ => .missing

end Session
end PocketShell
