import PocketShell.Editor.Basic

/-!
The frame that an editor draws: its lines, with the cursor marked in its line, and a status
line. The status line shows the command being typed, else a message, else the state.
-/

namespace PocketShell

def Mode.label : Mode → Text
  | .normal => "NORMAL"
  | .insert => "INSERT"
  | .command => "COMMAND"

namespace Editor

/-- A bar stands at the cursor in insert mode; else brackets hold the character under it, or a
block behind the end of the line. -/
def markCursor (mode : Mode) (col : Nat) (line : Text) : Text :=
  match mode, line.drop col with
  | .insert, tail => line.take col ++ .char '|' :: tail
  | _, c :: tail => line.take col ++ (['[', c, ']'] : Text) ++ tail
  | _, [] => line.take col ++ "[█]"

def drawnLines (e : Editor) : List Text :=
  e.lines.zipIdx.map fun (line, row) => if row = e.row then markCursor e.mode e.col line else line

def position (e : Editor) : Text := Text.ofNat (e.row + 1) ++ "," ++ Text.ofNat (e.col + 1)

def summary (e : Editor) : Text :=
  "-- " ++ e.mode.label ++ " -- " ++ (if e.modified then ("[+]" : Text) else []) ++ " \"" ++ e.file
    ++ "\" " ++ Text.ofNat e.lines.length ++ "L  " ++ e.position

def status (e : Editor) : Text :=
  match e.mode, e.message with
  | .command, _ => ':' :: e.command
  | _, some (c :: message) => c :: message
  | _, _ => e.summary

def frame (e : Editor) : Text := Text.unlines e.drawnLines ++ .char '\n' :: e.status

end Editor
end PocketShell
