import PocketShell.Editor.Render
import PocketShell.Editor.Step
import PocketShell.Surface

/-!
Editors at work. A desk holds every editor that was opened, and a surface if there is one; an
open editor is subscribed to the surface and draws on it after each key. The host answers when
an editor asks for a save, and is told of refused saves and of closing.
-/

namespace PocketShell

structure Window where
  editor : Editor
  token : Nat
  /-- For whom the host has opened the editor. -/
  owner : Nat

structure Desk where
  surface : Option (Surface Nat) := none
  windows : List Window := []

structure Host (W : Type) where
  /-- Writes the text of a file for an owner and tells whether it was written. -/
  save : (owner : Nat) → (file text : Text) → W → Bool × W
  refused : (file : Text) → W → W
  closed : (owner : Nat) → W → W

namespace Desk

def editor? (d : Desk) (id : Nat) : Option Editor := d.windows[id]?.map Window.editor

def surfaceD (d : Desk) : Surface Nat := d.surface.getD {}

def draw (d : Desk) (e : Editor) : Desk := { d with surface := d.surface.map (·.draw e.frame) }

/-- Opens an editor; its number is that of the windows before it. -/
def add (d : Desk) (owner : Nat) (e : Editor) : Desk :=
  let window : Window := ⟨e, d.surfaceD.nextToken, owner⟩
  let opened : Desk :=
    { windows := d.windows ++ [window], surface := d.surface.map (·.subscribe d.windows.length) }
  opened.draw e

def put (d : Desk) (id : Nat) (w : Window) : Desk := { d with windows := d.windows.set id w }

def leave (d : Desk) (token : Nat) : Desk :=
  { d with surface := d.surface.map (·.unsubscribe token) }

variable {W : Type}

/-- Asks the host for a save if the event needs one. -/
def askToSave (host : Host W) (window : Window) (event : Editor.Event) (w : W) : Bool × W :=
  if window.editor.asksToSave event then
    let (written, w) := host.save window.owner window.editor.file window.editor.content w
    (written, if written then w else host.refused window.editor.file w)
  else (true, w)

/-- Whether a frame follows the event: keys are followed by one as long as the editor is open. -/
def drawsAfter (before after : Editor) : Editor.Event → Bool
  | .key _ => !before.closed && !after.closed
  | _ => false

def act (host : Host W) (id : Nat) (event : Editor.Event) (state : Desk × W) : Desk × W :=
  let (desk, w) := state
  match desk.windows[id]? with
  | none => (desk, w)
  | some window =>
      let (written, w) := askToSave host window event w
      let after := window.editor.step written event
      let desk := desk.put id { window with editor := after }
      let (desk, w) :=
        if !window.editor.closed && after.closed then
          (desk.leave window.token, host.closed window.owner w)
        else (desk, w)
      (if drawsAfter window.editor after event then desk.draw after else desk, w)

def press (host : Host W) (id : Nat) (k : Key) (state : Desk × W) : Desk × W :=
  act host id (.key k) state

/-- Sends a key through the surface. -/
def send (host : Host W) (k : Key) (state : Desk × W) : Desk × W :=
  Surface.dispatch (fun (state : Desk × W) => state.1.surfaceD)
    (fun subscription => press host subscription.2 k) state

end Desk
end PocketShell
