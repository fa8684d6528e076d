import PocketShell.Text.Basic

/-!
The virtual file tree. A node is a file with its text or a directory; a directory lists its
entries in the order of their arrival. Places in the tree are lists of names, read from the
root. `walk` looks a node up, `modify` changes the directory at a place; giving an entry anew
keeps its place among its siblings, a new entry comes last.
-/

namespace PocketShell

mutual

inductive Node
  | file (content : Text)
  | dir (entries : Directory)
  deriving DecidableEq

inductive Directory
  | nil
  | cons (name : Text) (node : Node) (rest : Directory)
  deriving DecidableEq

end

instance : Inhabited Directory := ⟨.nil⟩

instance : Inhabited Node := ⟨.dir .nil⟩

namespace Node

def isDir : Node → Bool
  | .file _ => false
  | .dir _ => true

end Node

namespace Directory

def toList : Directory → List (Text × Node)
  | .nil => []
  | .cons name node rest => (name, node) :: rest.toList

def ofList : List (Text × Node) → Directory
  | [] => .nil
  | (name, node) :: entries => .cons name node (ofList entries)

def names (d : Directory) : List Text := d.toList.map Prod.fst

def get? (key : Text) : Directory → Option Node
  | .nil => none
  | .cons name node rest => if name = key then some node else rest.get? key

def contains (d : Directory) (key : Text) : Bool := (d.get? key).isSome

def insert (key : Text) (value : Node) : Directory → Directory
  | .nil => .cons key value .nil
  | .cons name node rest =>
      if name = key then .cons name value rest else .cons name node (rest.insert key value)

def erase (key : Text) : Directory → Directory
  | .nil => .nil
  | .cons name node rest => if name = key then rest else .cons name node (rest.erase key)

end Directory

/-- The node that the names lead to; files have no entries. -/
def Node.walk (node : Node) : List Text → Option Node
  | [] => some node
  | name :: names =>
      match node with
      | .file _ => none
      | .dir d =>
          match d.get? name with
          | none => none
          | some child => child.walk names

namespace Directory

def walk (root : Directory) (names : List Text) : Option Node := (Node.dir root).walk names

/-- Changes the directory at a place; without a directory there, nothing changes. -/
def modify (f : Directory → Directory) : Directory → List Text → Directory
  | d, [] => f d
  | d, name :: names =>
      match d.get? name with
      | some (.dir child) => d.insert name (.dir (child.modify f names))
      | _ => d

end Directory
end PocketShell
