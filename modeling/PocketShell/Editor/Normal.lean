import PocketShell.Editor.Basic
import PocketShell.Editor.Key

/-!
Normal mode: moving, small changes, and deleting by a motion. What a motion deletes goes to the
yank buffer. Rows that are deleted leave at least one empty line; a motion in the line deletes
the span of columns that it names, and nothing at all if that span is empty.
-/

namespace PocketShell.Editor

def pasteRows (e : Editor) : Editor :=
  if e.yank.isEmpty then e
  else
    let pasted := e.insertRows (e.row + 1) (Text.lines e.yank)
    (pasted.moveToRow (e.row + 1)).touched

def act (e : Editor) : Action → Editor
  | .left => e.moveTo e.row (e.col - 1)
  | .down => e.moveToRow (min e.lastRow (e.row + 1))
  | .up => e.moveToRow (e.row - 1)
  | .right => e.moveTo e.row (min e.line.length (e.col + 1))
  | .lineStart => e.moveTo e.row 0
  | .lineEnd => e.moveTo e.row e.line.length
  | .lastLine => e.moveToRow e.lastRow
  | .insertHere => e.withMode .insert
  | .insertAfter => (e.moveTo e.row (min e.line.length (e.col + 1))).withMode .insert
  | .openBelow =>
      (((e.insertRows (e.row + 1) [[]]).moveTo (e.row + 1) 0).withMode .insert).touched
  | .openAbove => (((e.insertRows e.row [[]]).moveTo e.row 0).withMode .insert).touched
  | .deleteChar =>
      if e.col < e.line.length then
        (e.setLine (e.line.take e.col ++ e.line.drop (e.col + 1))).touched
      else e
  | .truncate =>
      if e.col < e.line.length then (e.setLine (e.line.take e.col)).touched else e
  | .startDelete => { e with deleting := true }
  | .yankLine => { e with yank := e.line }.say "yanked line"
  | .paste => e.pasteRows
  | .startCommand => { e with mode := .command, command := [] }

/-- The first row that a motion deletes and the number of rows; at the edge of the buffer it is
the current row alone. -/
def rowsOf (e : Editor) : RowMotion → Nat × Nat
  | .current => (e.row, 1)
  | .below => (e.row, if e.row < e.lastRow then 2 else 1)
  | .above => if 0 < e.row then (e.row - 1, 2) else (e.row, 1)

def deleteRows (e : Editor) (start count : Nat) : Editor :=
  let removed := (e.lines.drop start).take count
  let kept := e.lines.take start ++ e.lines.drop (start + count)
  let left := if kept.isEmpty then [[]] else kept
  let unit : Text := if count = 1 then " line deleted" else " lines deleted"
  ({ e with lines := left, row := min start (left.length - 1), col := 0,
            yank := Text.unlines removed, modified := true }).say (Text.ofNat count ++ unit)

/-- The length of the word at the head of a text with the blanks behind it; no word begins with a
blank. -/
def wordLength (t : Text) : Nat :=
  let word := t.takeWhile fun c => !isBlank c
  if word.isEmpty then 0
  else word.length + ((t.drop word.length).takeWhile isBlank).length

/-- The columns that a motion deletes, as the first one and the first one behind. -/
def spanOf (e : Editor) : SpanMotion → Nat × Nat
  | .toEnd => (e.col, e.line.length)
  | .toStart => (0, e.col)
  | .word => (e.col, e.col + wordLength (e.line.drop e.col))
  | .right => (e.col, min e.line.length (e.col + 1))
  | .left => (e.col - 1, e.col)

def deleteSpan (e : Editor) (start stop : Nat) : Editor :=
  let removed := (e.line.drop start).take (stop - start)
  if removed.isEmpty then e
  else
    ({ e.setLine (e.line.take start ++ e.line.drop stop) with
        col := start, yank := removed, modified := true }).say "deleted"

def deleteMotion (e : Editor) : Motion → Editor
  | .rows m => let (start, count) := e.rowsOf m; e.deleteRows start count
  | .span m => let (start, stop) := e.spanOf m; e.deleteSpan start stop

/-- A key in normal mode; behind `d` it is a motion, and any other key ends the waiting. -/
def pressNormal (e : Editor) (k : Key) : Editor :=
  if e.deleting then
    let e := { e with deleting := false }
    match k.motion? with
    | some m => e.deleteMotion m
    | none => e
  else
    match k.action? with
    | some a => e.act a
    | none => e

end PocketShell.Editor
