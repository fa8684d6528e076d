import PocketShell.FileTree.Basic
import PocketShell.Json.Reader
import PocketShell.Json.Writer

/-!
File trees as JSON: a file is a string, a directory an object with one member for each entry,
and a whole tree an object whose member `/` is the root directory.
-/

namespace PocketShell

inductive TreeError
  | missingRoot
  | rootIsFile
  | unsupported (kind : Text)
  deriving DecidableEq, Repr

def TreeError.message : TreeError → Text
  | .missingRoot => "Filesystem is missing its root entry"
  | .rootIsFile => "Filesystem root must be a directory"
  | .unsupported kind => "Unsupported node type: " ++ kind

mutual

def Node.toJson : Node → Json.Value
  | .file content => .string content
  | .dir entries => .object entries.toMembers

def Directory.toMembers : Directory → Json.Members
  | .nil => .nil
  | .cons name node rest => .cons name node.toJson rest.toMembers

end

mutual

/-- A value that is neither string nor object makes no node; the first such value is named by
its kind. -/
def Node.ofJson : Json.Value → Except TreeError Node
  | .string content => .ok (.file content)
  | .object members => do return .dir (← Directory.ofMembers members)
  | .null => .error (.unsupported "NoneType")
  | .boolean _ => .error (.unsupported "bool")
  | .integer _ => .error (.unsupported "int")
  | .floating _ => .error (.unsupported "float")
  | .array _ => .error (.unsupported "list")

def Directory.ofMembers : Json.Members → Except TreeError Directory
  | .nil => .ok .nil
  | .cons name v rest => do
      let node ← Node.ofJson v
      return .cons name node (← Directory.ofMembers rest)

end

def rootKey : Text := ['/']

namespace Directory

def toTreeJson (root : Directory) : Json.Value :=
  .object (.cons rootKey (Node.dir root).toJson .nil)

def ofTreeJson (value : Json.Value) : Except TreeError Directory :=
  match value with
  | .object members =>
      match members.get? rootKey with
      | none => .error .missingRoot
      | some v =>
          match Node.ofJson v with
          | .error e => .error e
          | .ok (.file _) => .error .rootIsFile
          | .ok (.dir root) => .ok root
  | _ => .error .missingRoot

def treeText (root : Directory) : Text := root.toTreeJson.write

end Directory
end PocketShell
