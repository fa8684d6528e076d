import PocketShell.Editor.Basic
import PocketShell.Editor.Key

/-!
Command mode, saving and closing. A save is asked of the host, and `written` is the host's
answer: with it the text counts as saved, without it the buffer stays as it is and a message
says so. An editor with unsaved changes closes only by force or after a save.
-/

namespace PocketShell

inductive Directive
  | write
  | quit
  | forceQuit
  | writeQuit
  | unknown (text : Text)
  deriving DecidableEq, Repr

namespace Directive

def ofText (text : Text) : Directive :=
  if text = (['w'] : Text) then .write
  else if text = (['q'] : Text) then .quit
  else if text = (['q', '!'] : Text) then .forceQuit
  else if text = (['w', 'q'] : Text) ∨ text = (['x'] : Text) then .writeQuit
  else .unknown text

def saves : Directive → Bool
  | .write => true
  | .writeQuit => true
  | _ => false

end Directive

namespace Editor

def unsavedMessage : Text := "No write since last change (add ! to override)"

def quotedFile (e : Editor) : Text := "\"" ++ e.file ++ "\""

def close (e : Editor) : Editor :=
  if e.closed then e else { e with closed := true, deleting := false }

def save (e : Editor) (written : Bool) : Editor :=
  if written then { e with modified := false }
  else e.say (e.quotedFile ++ " E212: Can't open file for writing")

def perform (e : Editor) (written : Bool) : Directive → Editor
  | .write =>
      if written then
        (e.save true).say (e.quotedFile ++ " " ++ Text.ofNat e.lines.length ++ "L written")
      else e.save false
  | .quit => if e.modified then e.say unsavedMessage else e.close
  | .forceQuit => e.close
  | .writeQuit => if written then (e.save true).close else e.save false
  | .unknown text => e.say ("Not an editor command: " ++ text)

def execute (e : Editor) (written : Bool) (text : Text) : Editor :=
  (e.withMode .normal).perform written (Directive.ofText text)

def pressCommand (e : Editor) (written : Bool) (k : Key) : Editor :=
  if k.isEscape then { e with mode := .normal, command := [] }
  else if k.isEnter then { e with command := [] }.execute written e.command
  else if k.isBackspace then
    let left := e.command.dropLast
    { e with command := left, mode := if left.isEmpty then .normal else e.mode }
  else match k.typed? with
    | some c => { e with command := e.command ++ [c] }
    | none => e

end Editor
end PocketShell
