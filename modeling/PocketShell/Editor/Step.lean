import PocketShell.Editor.Command
import PocketShell.Editor.Insert
import PocketShell.Editor.Normal

/-!
One key, whatever the mode. `savesOn` tells beforehand whether the key asks the host for a save,
and `press` takes the answer, which matters only then. A closed editor takes no keys.
-/

namespace PocketShell.Editor

def savesOn (e : Editor) (k : Key) : Bool :=
  !e.closed && e.mode == .command && k.isEnter && (Directive.ofText e.command).saves

def press (e : Editor) (written : Bool) (k : Key) : Editor :=
  if e.closed then e
  else
    let e := { e with message := none }
    match e.mode with
    | .normal => e.pressNormal k
    | .insert => e.pressInsert k
    | .command => e.pressCommand written k

/-- What the host sees of a running editor, from the answers that it gives to saves. -/
inductive Event
  | key (k : Key)
  | execute (text : Text)
  | save
  | close
  deriving DecidableEq, Repr

/-- Whether an event asks the host for a save. -/
def asksToSave (e : Editor) : Event → Bool
  | .key k => e.savesOn k
  | .execute text => (Directive.ofText text).saves
  | .save => true
  | .close => false

def step (e : Editor) (written : Bool) : Event → Editor
  | .key k => e.press written k
  | .execute text => e.execute written text
  | .save => e.save written
  | .close => e.close

end PocketShell.Editor
