import PocketShell.Editor.Basic
import PocketShell.Editor.Key

/-!
Insert mode: characters go in at the cursor, Enter parts the line there, and Backspace takes away
what stands before the cursor, be it a character or the end of the line above.
-/

namespace PocketShell.Editor

def insertChar (e : Editor) (c : CodePoint) : Editor :=
  ((e.setLine (e.line.take e.col ++ c :: e.line.drop e.col)).moveTo e.row (e.col + 1)).touched

def splitLine (e : Editor) : Editor :=
  let parts := [e.line.take e.col, e.line.drop e.col]
  let parted := e.lines.take e.row ++ parts ++ e.lines.drop (e.row + 1)
  ((e.setLines parted).moveTo (e.row + 1) 0).touched

def joinWithPrevious (e : Editor) : Editor :=
  let previous := e.lineAt (e.row - 1)
  let joined := e.lines.take (e.row - 1) ++ [previous ++ e.line] ++ e.lines.drop (e.row + 1)
  ((e.setLines joined).moveTo (e.row - 1) previous.length).touched

def backspace (e : Editor) : Editor :=
  if 0 < e.col then
    ((e.setLine (e.line.take (e.col - 1) ++ e.line.drop e.col)).moveTo e.row (e.col - 1)).touched
  else if 0 < e.row then e.joinWithPrevious
  else e

def pressInsert (e : Editor) (k : Key) : Editor :=
  if k.isEscape then (e.moveTo e.row (e.col - 1)).withMode .normal
  else if k.isEnter then e.splitLine
  else if k.isBackspace then e.backspace
  else match k.typed? with
    | some c => e.insertChar c
    | none => e

end PocketShell.Editor
