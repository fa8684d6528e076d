import PocketShell.Text.Blank

/-!
The state of an editor: lines with a cursor in them, a mode, and what is waiting. The cursor may
stand behind the last character of its line. The content of the buffer is its lines joined by
line feeds, and `offset` is the place of the cursor in that content.
-/

namespace PocketShell

inductive Mode
  | normal
  | insert
  | command
  deriving DecidableEq, Repr

structure Editor where
  file : Text
  lines : List Text
  row : Nat := 0
  col : Nat := 0
  mode : Mode := .normal
  deleting : Bool := false
  yank : Text := []
  command : Text := []
  modified : Bool := false
  message : Option Text := none
  closed : Bool := false
  deriving DecidableEq, Repr

namespace Editor

/-- An editor on a file; a file without text has one empty line. -/
def ofFile (file content : Text) : Editor := { file := file, lines := Text.lines content }

def content (e : Editor) : Text := Text.unlines e.lines

def lineAt (e : Editor) (row : Nat) : Text := (e.lines[row]?).getD []

def line (e : Editor) : Text := e.lineAt e.row

def lastRow (e : Editor) : Nat := e.lines.length - 1

/-- The place of the cursor in the content: the lines above with their line feeds, and the
column. -/
def offset (e : Editor) : Nat :=
  (e.lines.take e.row).foldr (fun line n => line.length + 1 + n) e.col

/-- The cursor is in the buffer, a delete is pending in normal mode only, and there is no command
text outside command mode. -/
structure WellFormed (e : Editor) : Prop where
  row_lt : e.row < e.lines.length
  col_le : e.col ≤ e.line.length
  normal_of_deleting : e.deleting = true → e.mode = .normal
  command_eq_nil : e.mode ≠ .command → e.command = []

def setLine (e : Editor) (line : Text) : Editor := { e with lines := e.lines.set e.row line }

def setLines (e : Editor) (lines : List Text) : Editor := { e with lines := lines }

def moveTo (e : Editor) (row col : Nat) : Editor := { e with row := row, col := col }

/-- Goes to a row; the column stays, unless the line there is shorter. -/
def moveToRow (e : Editor) (row : Nat) : Editor := e.moveTo row (min e.col (e.lineAt row).length)

def withMode (e : Editor) (mode : Mode) : Editor := { e with mode := mode }

def touched (e : Editor) : Editor := { e with modified := true }

def say (e : Editor) (message : Text) : Editor := { e with message := some message }

/-- Puts rows above the row with the given number. -/
def insertRows (e : Editor) (row : Nat) (rows : List Text) : Editor :=
  e.setLines (e.lines.take row ++ rows ++ e.lines.drop row)

end Editor
end PocketShell
