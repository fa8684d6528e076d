import PocketShell.FileTree.Basic
import PocketShell.Path
import PocketShell.Permission
import PocketShell.Session.Registry
import PocketShell.Wildcard

/-!
The state of a session: its tree, its user and working directory, the environment, the lines
entered so far and the users to return to. Switching users keeps the working directory;
returning restores what was left.
-/

namespace PocketShell

structure Environment where
  user : Text
  home : Text
  workingDirectory : Text
  searchPath : Text
  shell : Text
  deriving DecidableEq, Repr

namespace Environment

def start (user path : Text) : Environment :=
  ⟨user, homeFor user, path, "/usr/local/bin:/usr/bin:/bin", "/bin/bash"⟩

def entries (e : Environment) : List (Text × Text) :=
  [("USER", e.user), ("HOME", e.home), ("PWD", e.workingDirectory), ("PATH", e.searchPath),
   ("SHELL", e.shell)]

end Environment

/-- What is kept of a user who has switched to another one. -/
structure UserState where
  user : Text
  home : Text
  path : Text
  deriving DecidableEq, Repr

structure Session where
  root : Directory
  user : Text
  path : Text
  environment : Environment
  history : List Text := []
  /-- The users to return to, the latest first. -/
  userStack : List UserState := []
  registry : Registry := Registry.builtins
  /-- The number of the editor that the session has opened last, while it is open. -/
  editor : Option Nat := none
  /-- The stem of the keys under which checkpoints are kept, if they are. -/
  stem : Option Text := none

namespace Session

def start (root : Directory) (user path : Text) : Session :=
  { root := root, user := user, path := path, environment := .start user path }

def resolve (s : Session) (path : Text) : Text := Path.resolve path s.path s.environment.home

def nodeAt (s : Session) (path : Text) : Option Node := s.root.walk (Path.segments path)

def node? (s : Session) (path : Text) : Option Node := s.nodeAt (s.resolve path)

def owner (s : Session) (path : Text) : Owner := ownerOf (s.resolve path) s.user

def mayWrite (s : Session) (path : Text) : Bool := canWrite (s.resolve path) s.user

/-- The environment follows the user, the home directory and the working directory. -/
def moveTo (s : Session) (path : Text) : Session :=
  { s with path := path, environment := { s.environment with workingDirectory := path } }

def userSwitchedMark : Text := "__USER_SWITCHED__:"

def switchUser (s : Session) (user : Text) : Text × Session :=
  (userSwitchedMark ++ user,
    { s with
      userStack := ⟨s.user, s.environment.home, s.path⟩ :: s.userStack,
      user := user,
      environment :=
        { s.environment with user := user, home := homeFor user, workingDirectory := s.path } })

/-- Without a user to return to, nothing changes and nothing is said. -/
def restoreUser (s : Session) : Option Text × Session :=
  match s.userStack with
  | [] => (none, s)
  | previous :: stack =>
      (some (userSwitchedMark ++ previous.user),
        { s with
          userStack := stack,
          user := previous.user,
          path := previous.path,
          environment :=
            { s.environment with
              user := previous.user, home := previous.home, workingDirectory := previous.path } })

/-- Wildcards stand for names in the working directory. -/
def expandWildcards (s : Session) (args : List Text) : List Text :=
  match s.nodeAt s.path with
  | some (.dir d) => Wildcard.expand args d.names
  | _ => args

def remember (s : Session) (line : Text) : Session := { s with history := s.history ++ [line] }

end Session
end PocketShell
