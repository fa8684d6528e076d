import PocketShell.Text.Basic

/-!
Ownership and the right to write, both told from the path alone: what lies in the home directory
of a user belongs to that user, all else to root, and root may write everywhere.
-/

namespace PocketShell

def rootUser : Text := "root"

def directoryMode : Text := "drwxr-xr-x"

def fileMode : Text := "-rw-r--r--"

structure Owner where
  user : Text
  group : Text
  deriving DecidableEq, Repr

def homeFor (user : Text) : Text := if user = rootUser then "/root" else "/home/" ++ user

def withinHome (path user : Text) : Bool :=
  let home : Text := "/home/" ++ user
  path = home || (home ++ (['/'] : Text)).isPrefixOf path

def ownerOf (path user : Text) : Owner :=
  if withinHome path user then ⟨user, user⟩ else ⟨rootUser, rootUser⟩

def canWrite (path user : Text) : Bool := user = rootUser || withinHome path user

end PocketShell
