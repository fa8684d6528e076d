import PocketShell.FileTree.Codec
import PocketShell.Path
import PocketShell.Store.Basic

/-!
Checkpoints: the tree, the user and the working directory of a session under three keys of a
store, whose common stem keeps sessions apart. A failing store never stops a session; what went
wrong is noted. A checkpoint counts when all three texts are there and not empty, the tree can be
read and the working directory leads to a node of it. Only a number in the tree that is too long
to be read is more than a note: then nothing is loaded at all.
-/

namespace PocketShell

structure SavedState where
  root : Directory
  user : Text
  path : Text
  deriving DecidableEq

namespace Checkpoint

def defaultStem : Text := "unixshell"

/-- An empty stem stands for the default one. -/
def effectiveStem (stem : Text) : Text := if stem.isEmpty then defaultStem else stem

def treeKey (stem : Text) : Text := stem ++ "_filesystem"

def userKey (stem : Text) : Text := stem ++ "_current_user"

def pathKey (stem : Text) : Text := stem ++ "_current_path"

def keys (stem : Text) : List Text := [treeKey stem, userKey stem, pathKey stem]

inductive Rejection
  | unreadable (cause : StoreFault)
  | incomplete
  | notJson
  | longNumber (n : Json.LongNumber)
  | noTree (cause : TreeError)
  | pathGone (path : Text)
  deriving DecidableEq, Repr

/-- A checkpoint that is not there is no matter for the log. -/
def Rejection.notes : Rejection → List LogEntry
  | .incomplete => []
  | .longNumber _ => []
  | .unreadable cause =>
      [⟨.warning, .persistence, "Could not read saved shell state: " ++ cause.message⟩]
  | .notJson =>
      [⟨.warning, .persistence, "Discarding saved filesystem with invalid JSON: not a JSON value"⟩]
  | .noTree cause => [⟨.warning, .persistence, "Discarding saved filesystem: " ++ cause.message⟩]
  | .pathGone path =>
      [⟨.warning, .persistence, "Discarding saved state; path " ++ path ++ " does not exist"⟩]

/-- The state that three stored texts stand for. -/
def decode (tree user path : Option Text) : Except Rejection SavedState :=
  match tree.getD [], user.getD [], path.getD [] with
  | tree@(_ :: _), user@(_ :: _), path@(_ :: _) =>
      match Json.read tree with
      | .error .malformed => .error .notJson
      | .error (.longNumber n) => .error (.longNumber n)
      | .ok v =>
          match Directory.ofTreeJson v with
          | .error e => .error (.noTree e)
          | .ok root =>
              match root.walk (Path.segments path) with
              | none => .error (.pathGone path)
              | some _ => .ok ⟨root, user, path⟩
  | _, _, _ => .error .incomplete

def entries (stem : Text) (state : SavedState) : List (Text × Text) :=
  [(treeKey stem, state.root.treeText), (userKey stem, state.user), (pathKey stem, state.path)]

variable {σ : Type} [KeyValueStore σ]

/-- Asks for the three texts in turn, up to the first failure. -/
def getTexts (stem : Text) (store : σ) : Reply σ (Option Text × Option Text × Option Text) :=
  (KeyValueStore.get store (treeKey stem)).andThen fun tree store =>
    (KeyValueStore.get store (userKey stem)).andThen fun user store =>
      (KeyValueStore.get store (pathKey stem)).andThen fun path store =>
        ⟨.ok (tree, user, path), store, []⟩

/-- Sets keys in turn, up to the first failure. -/
def setAll (store : σ) : List (Text × Text) → Reply σ Unit
  | [] => ⟨.ok (), store, []⟩
  | (key, value) :: rest =>
      (KeyValueStore.set store key value).andThen fun () store => setAll store rest

/-- Removes keys in turn, up to the first failure. -/
def removeAll (store : σ) : List Text → Reply σ Unit
  | [] => ⟨.ok (), store, []⟩
  | key :: rest => (KeyValueStore.remove store key).andThen fun () store => removeAll store rest

/-- What a look for a checkpoint comes to. -/
abbrev Found := Except Json.LongNumber (Option SavedState)

def load (stem : Text) (store : σ) : Found × σ × List LogEntry :=
  match getTexts stem store with
  | ⟨.error e, store, notes⟩ => (.ok none, store, notes ++ (Rejection.unreadable e).notes)
  | ⟨.ok (tree, user, path), store, notes⟩ =>
      match decode tree user path with
      | .error (.longNumber n) => (.error n, store, notes)
      | .error e => (.ok none, store, notes ++ e.notes)
      | .ok state => (.ok (some state), store, notes)

/-- The store and the notes of a reply, a failure being noted behind `what`. -/
def settle (what : Text) (reply : Reply σ Unit) : σ × List LogEntry :=
  match reply with
  | ⟨.ok (), store, notes⟩ => (store, notes)
  | ⟨.error e, store, notes⟩ => (store, notes ++ [⟨.error, .persistence, what ++ e.message⟩])

def save (stem : Text) (state : SavedState) (store : σ) : σ × List LogEntry :=
  settle "Failed to checkpoint shell state: " (setAll store (entries stem state))

def clear (stem : Text) (store : σ) : σ × List LogEntry :=
  settle "Failed to clear saved shell state: " (removeAll store (keys stem))

end Checkpoint
end PocketShell
