import PocketShell.Checkpoint
import PocketShell.Desk
import PocketShell.FileTree.Samples
import PocketShell.Session.Write

/-!
A shell: a session with a store for its checkpoints and a desk for its editors. When a session
takes the place of another one, the store and the desk stay. Editors that are still open then
write to the tree of the session that has opened them, and checkpoint that session.
-/

namespace PocketShell

/-- How a session begins. -/
structure StartOptions where
  tree : Option Directory := none
  user : Text
  commands : List (Text × HostCommand) := []
  /-- The stem of the checkpoint keys, if there are to be checkpoints. -/
  stem : Option Text := none

structure Machine (σ : Type) where
  session : Session
  /-- The sessions before this one, the oldest first; a session is numbered by its place. -/
  former : List Session := []
  store : σ
  clock : Moment
  log : List LogEntry := []
  /-- The number of editors that were closed. -/
  exits : Nat := 0

structure Shell (σ : Type) where
  machine : Machine σ
  desk : Desk := {}

namespace Session

def register (s : Session) (name : Text) (command : Command) : Session :=
  { s with registry := s.registry.insert name command }

def savedState (s : Session) : SavedState := ⟨s.root, s.user, s.path⟩

/-- A session in the state that was saved, or else in the home directory of its user. -/
def launch (options : StartOptions) (saved : Option SavedState) : Session :=
  let session := match saved with
    | some state => Session.start state.root state.user state.path
    | none =>
        Session.start (options.tree.getD (.defaultTree options.user)) options.user
          ("/home/" ++ options.user)
  options.commands.foldl (fun s entry => s.register entry.1 { handler := .job (.host entry.2) })
    { session with stem := options.stem }

end Session

namespace Machine

variable {σ : Type}

def note (m : Machine σ) (entries : List LogEntry) : Machine σ := { m with log := m.log ++ entries }

/-- The number of the present session. -/
def number (m : Machine σ) : Nat := m.former.length

def sessionOf (m : Machine σ) (owner : Nat) : Option Session :=
  if owner = m.number then some m.session else m.former[owner]?

def putSession (m : Machine σ) (owner : Nat) (s : Session) : Machine σ :=
  if owner = m.number then { m with session := s } else { m with former := m.former.set owner s }

variable [KeyValueStore σ]

def checkpointOf (m : Machine σ) (s : Session) : Machine σ :=
  match s.stem with
  | none => m
  | some stem =>
      let (store, notes) := Checkpoint.save stem s.savedState m.store
      { m with store := store }.note notes

def checkpoint (m : Machine σ) : Machine σ := m.checkpointOf m.session

def clearCheckpoint (m : Machine σ) : Machine σ :=
  match m.session.stem with
  | none => m
  | some stem =>
      let (store, notes) := Checkpoint.clear stem m.store
      { m with store := store }.note notes

/-- Editors save into the session that has opened them, and checkpoint it. -/
def host : Host (Machine σ) where
  save owner file text m :=
    match m.sessionOf owner with
    | none => (false, m)
    | some s =>
        match s.write file text .overwrite with
        | .error _ => (false, m)
        | .ok s => (true, (m.putSession owner s).checkpointOf s)
  refused file m := m.note [.couldNotWrite file]
  closed owner m :=
    let m := { m with exits := m.exits + 1 }
    match m.sessionOf owner with
    | none => m
    | some s => m.putSession owner { s with editor := none }

/-- The saved state that the options ask for, with the store and the notes after looking. -/
def lookUp (options : StartOptions) (store : σ) : Checkpoint.Found × σ × List LogEntry :=
  match options.stem with
  | none => (.ok none, store, [])
  | some stem => Checkpoint.load stem store

end Machine

namespace Shell

variable {σ : Type}

def session (sh : Shell σ) : Session := sh.machine.session

def withSession (sh : Shell σ) (s : Session) : Shell σ :=
  { sh with machine := { sh.machine with session := s } }

def onMachine (sh : Shell σ) (f : Machine σ → Machine σ) : Shell σ :=
  { sh with machine := f sh.machine }

/-- The editor that the session has opened last, while it is open. -/
def editor? (sh : Shell σ) : Option Editor := sh.session.editor.bind sh.desk.editor?

def editorOpenedMark : Text := "__VI_OPENED__"

/-- Opens an editor on a file of the tree; what is no file counts as an empty one. -/
def openEditor (sh : Shell σ) (file : Text) : Text × Shell σ :=
  let content := match sh.session.node? file with
    | some (.file content) => content
    | _ => []
  let id := sh.desk.windows.length
  (editorOpenedMark,
    { sh.withSession { sh.session with editor := some id } with
      desk := sh.desk.add sh.machine.number (.ofFile file content) })

variable [KeyValueStore σ]

def start (options : StartOptions) (store : σ) (clock : Moment) (desk : Desk) :
    Except Json.LongNumber (Shell σ) :=
  match Machine.lookUp options store with
  | (.error n, _) => .error n
  | (.ok saved, store, notes) =>
      .ok
        { machine :=
            { session := .launch options saved, store := store, clock := clock, log := notes },
          desk := desk }

/-- A new session takes the place of the present one. -/
def restart (options : StartOptions) (sh : Shell σ) : Except Json.LongNumber (Shell σ) :=
  match Machine.lookUp options sh.machine.store with
  | (.error n, _) => .error n
  | (.ok saved, store, notes) =>
      let m := { sh.machine with
        session := .launch options saved, former := sh.machine.former ++ [sh.session],
        store := store }
      .ok { sh with machine := m.note notes }

def checkpoint (sh : Shell σ) : Shell σ := sh.onMachine Machine.checkpoint

def onDesk (sh : Shell σ) (f : Desk × Machine σ → Desk × Machine σ) : Shell σ :=
  let (desk, machine) := f (sh.desk, sh.machine)
  { desk := desk, machine := machine }

/-- Gives a key to the editor of the session; without one, nothing can be done. -/
def press (sh : Shell σ) (k : Key) : Option (Shell σ) :=
  sh.session.editor.map fun id => sh.onDesk (Desk.press Machine.host id k)

/-- Sends a key through the surface, to all editors that are open on it. -/
def send (sh : Shell σ) (k : Key) : Shell σ := sh.onDesk (Desk.send Machine.host k)

end Shell
end PocketShell
