import PocketShell.Editor.Step
import PocketShell.Proofs.Text.Lines

/-!
No key takes an editor out of shape. An edit is well formed where it leaves the cursor in the
buffer, so the cases below come down to the lengths of the rows that the cursor ends in; the
rest of the invariant says which modes a key may leave with a delete or a command waiting.
-/

namespace PocketShell.Editor

theorem lineAt_of_lt (e : Editor) (row : Nat) (h : row < e.lines.length) :
    e.lines[row]? = some (e.lineAt row) := by
  simp [lineAt, h]

/-- A well-formed editor of which no delete and no command is waiting may be in any mode. -/
structure Idle (e : Editor) : Prop where
  row_lt : e.row < e.lines.length
  col_le : e.col ≤ e.line.length
  not_deleting : e.deleting = false
  no_command : e.command = []

theorem WellFormed.not_deleting {e : Editor} (h : e.WellFormed) (elsewhere : e.mode ≠ .normal) :
    e.deleting = false := by
  cases deleting : e.deleting with
  | false => rfl
  | true => exact absurd (h.normal_of_deleting deleting) elsewhere

theorem WellFormed.idle {e : Editor} (h : e.WellFormed) (not_deleting : e.deleting = false)
    (not_command : e.mode ≠ .command) : e.Idle :=
  ⟨h.row_lt, h.col_le, not_deleting, h.command_eq_nil not_command⟩

namespace Idle

variable {e : Editor}

theorem wellFormed (h : e.Idle) : e.WellFormed where
  row_lt := h.row_lt
  col_le := h.col_le
  normal_of_deleting deleting := by simp [h.not_deleting] at deleting
  command_eq_nil _ := h.no_command

theorem moveTo (h : e.Idle) {row col : Nat} (row_lt : row < e.lines.length)
    (col_le : col ≤ (e.lineAt row).length) : (e.moveTo row col).Idle :=
  ⟨row_lt, col_le, h.not_deleting, h.no_command⟩

theorem moveTo_col (h : e.Idle) {col : Nat} (col_le : col ≤ e.line.length) :
    (e.moveTo e.row col).Idle :=
  h.moveTo h.row_lt col_le

theorem moveToRow (h : e.Idle) {row : Nat} (row_lt : row < e.lines.length) :
    (e.moveToRow row).Idle :=
  h.moveTo row_lt (Nat.min_le_right _ _)

theorem withMode (h : e.Idle) (mode : Mode) : (e.withMode mode).Idle :=
  ⟨h.row_lt, h.col_le, h.not_deleting, h.no_command⟩

theorem touched (h : e.Idle) : e.touched.Idle :=
  ⟨h.row_lt, h.col_le, h.not_deleting, h.no_command⟩

theorem say (h : e.Idle) (message : Text) : (e.say message).Idle :=
  ⟨h.row_lt, h.col_le, h.not_deleting, h.no_command⟩

theorem edit (h : e.Idle) {lines : List Text} {row col : Nat} (line : Text)
    (at_row : lines[row]? = some line) (col_le : col ≤ line.length) :
    ((e.setLines lines).moveTo row col).Idle := by
  obtain ⟨row_lt, _⟩ := List.getElem?_eq_some_iff.mp at_row
  refine ⟨row_lt, ?_, h.not_deleting, h.no_command⟩
  show col ≤ ((lines[row]?).getD []).length
  simpa [at_row] using col_le

theorem editLine (h : e.Idle) (line : Text) (col : Nat) (col_le : col ≤ line.length) :
    ((e.setLine line).moveTo e.row col).Idle :=
  h.edit line (by simp [h.row_lt]) col_le

end Idle

theorem insertRows_at (e : Editor) {row : Nat} (line : Text) (rows : List Text)
    (row_le : row ≤ e.lines.length) :
    (e.lines.take row ++ (line :: rows) ++ e.lines.drop row)[row]? = some line := by
  have length : (e.lines.take row).length = row := by simp [row_le]
  rw [List.append_assoc, List.getElem?_append_right (by omega), length]
  simp

theorem idle_openRow {e : Editor} (h : e.Idle) {row : Nat} (row_le : row ≤ e.lines.length) :
    ((((e.insertRows row [[]]).moveTo row 0).withMode .insert).touched).Idle :=
  ((h.edit [] (e.insertRows_at [] [] row_le) (Nat.zero_le _)).withMode .insert).touched

theorem idle_pasteRows {e : Editor} (h : e.Idle) : e.pasteRows.Idle := by
  simp only [pasteRows]
  split
  · exact h
  · have row_le : e.row + 1 ≤ e.lines.length := h.row_lt
    obtain ⟨line, rows, yanked⟩ := List.exists_cons_of_ne_nil (Text.lines_ne_nil e.yank)
    have at_row := e.insertRows_at line rows row_le
    rw [yanked]
    refine (h.edit line at_row ?_).touched
    show min e.col (((_ : List Text)[e.row + 1]?).getD []).length ≤ line.length
    rw [show (e.insertRows (e.row + 1) (line :: rows)).lines[e.row + 1]? = some line from at_row]
    exact Nat.min_le_right _ _

theorem lastRow_lt {e : Editor} (h : e.row < e.lines.length) : e.lastRow < e.lines.length := by
  simp only [lastRow]
  omega

theorem idle_deleteChar {e : Editor} (h : e.Idle) (col_lt : e.col < e.line.length) :
    (e.setLine (e.line.take e.col ++ e.line.drop (e.col + 1))).touched.Idle := by
  refine (h.editLine _ e.col ?_).touched
  simp only [List.length_append, List.length_take, List.length_drop]
  omega

theorem idle_truncate {e : Editor} (h : e.Idle) (col_lt : e.col < e.line.length) :
    (e.setLine (e.line.take e.col)).touched.Idle := by
  refine (h.editLine _ e.col ?_).touched
  simp only [List.length_take]
  omega

theorem wellFormed_act {e : Editor} (h : e.Idle) (normal : e.mode = .normal) (a : Action) :
    (e.act a).WellFormed := by
  have col_le := h.col_le
  cases a with
  | left => exact (h.moveTo_col (by omega)).wellFormed
  | right => exact (h.moveTo_col (by omega)).wellFormed
  | lineStart => exact (h.moveTo_col (Nat.zero_le _)).wellFormed
  | lineEnd => exact (h.moveTo_col (Nat.le_refl _)).wellFormed
  | down =>
      have last := lastRow_lt h.row_lt
      exact (h.moveToRow (by omega)).wellFormed
  | up =>
      have row_lt := h.row_lt
      exact (h.moveToRow (by omega)).wellFormed
  | lastLine => exact (h.moveToRow (lastRow_lt h.row_lt)).wellFormed
  | insertHere => exact (h.withMode .insert).wellFormed
  | insertAfter => exact ((h.moveTo_col (by omega)).withMode .insert).wellFormed
  | openBelow => exact (idle_openRow h h.row_lt).wellFormed
  | openAbove => exact (idle_openRow h (Nat.le_of_lt h.row_lt)).wellFormed
  | deleteChar =>
      simp only [act]
      split
      case isTrue col_lt => exact (idle_deleteChar h col_lt).wellFormed
      case isFalse => exact h.wellFormed
  | truncate =>
      simp only [act]
      split
      case isTrue col_lt => exact (idle_truncate h col_lt).wellFormed
      case isFalse => exact h.wellFormed
  | startDelete => exact ⟨h.row_lt, h.col_le, fun _ => normal, fun _ => h.no_command⟩
  | yankLine => exact ⟨h.row_lt, h.col_le, h.wellFormed.normal_of_deleting, fun _ => h.no_command⟩
  | paste => exact (idle_pasteRows h).wellFormed
  | startCommand =>
      refine ⟨h.row_lt, h.col_le, fun deleting => ?_, fun _ => rfl⟩
      simp [act, h.not_deleting] at deleting

theorem idle_deleteRows {e : Editor} (h : e.Idle) (start count : Nat) :
    (e.deleteRows start count).Idle := by
  let kept := e.lines.take start ++ e.lines.drop (start + count)
  let left := if kept.isEmpty then [[]] else kept
  have left_ne : 0 < left.length := by
    simp only [left]
    split
    · simp
    · rename_i kept_ne
      exact List.length_pos_iff.mpr (by simpa using kept_ne)
  refine ⟨?_, Nat.zero_le _, h.not_deleting, h.no_command⟩
  show min start (left.length - 1) < left.length
  omega

theorem idle_deleteSpan {e : Editor} (h : e.Idle) {start stop : Nat}
    (start_le : start ≤ e.line.length) : (e.deleteSpan start stop).Idle := by
  by_cases nothing : ((e.line.drop start).take (stop - start)).isEmpty
  · simpa [deleteSpan, nothing] using h
  · simp only [deleteSpan, nothing, Bool.false_eq_true, if_false]
    have start_le_left : start ≤ (e.line.take start ++ e.line.drop stop).length := by
      simp only [List.length_append, List.length_take]
      omega
    have edited := h.editLine _ start start_le_left
    exact ⟨edited.row_lt, edited.col_le, h.not_deleting, h.no_command⟩

theorem spanOf_le {e : Editor} (col_le : e.col ≤ e.line.length) (m : SpanMotion) :
    (e.spanOf m).1 ≤ e.line.length := by
  cases m with
  | toEnd | word | right => exact col_le
  | toStart => exact Nat.zero_le _
  | left => exact Nat.le_trans (Nat.sub_le _ _) col_le

theorem idle_deleteMotion {e : Editor} (h : e.Idle) (m : Motion) : (e.deleteMotion m).Idle := by
  cases m with
  | rows m => exact idle_deleteRows h _ _
  | span m => exact idle_deleteSpan h (spanOf_le h.col_le m)

theorem wellFormed_pressNormal {e : Editor} (h : e.WellFormed) (normal : e.mode = .normal)
    (k : Key) : (e.pressNormal k).WellFormed := by
  have no_command : e.command = [] := h.command_eq_nil (by simp [normal])
  simp only [pressNormal]
  split
  · have idle : Idle { e with deleting := false } := ⟨h.row_lt, h.col_le, rfl, no_command⟩
    cases k.motion? with
    | none => exact idle.wellFormed
    | some m => exact (idle_deleteMotion idle m).wellFormed
  · rename_i not_deleting
    have idle : e.Idle := ⟨h.row_lt, h.col_le, by simpa using not_deleting, no_command⟩
    cases k.action? with
    | none => exact h
    | some a => exact wellFormed_act idle normal a

theorem idle_insertChar {e : Editor} (h : e.Idle) (c : CodePoint) : (e.insertChar c).Idle := by
  have col_le := h.col_le
  refine (h.editLine _ _ ?_).touched
  simp only [List.length_append, List.length_take, List.length_cons]
  omega

theorem idle_splitLine {e : Editor} (h : e.Idle) : e.splitLine.Idle := by
  have row_lt := h.row_lt
  refine (h.edit (e.line.drop e.col) ?_ (Nat.zero_le _)).touched
  have length : (e.lines.take e.row).length = e.row := by simp; omega
  rw [List.append_assoc, List.getElem?_append_right (by omega), length]
  simp

theorem idle_joinWithPrevious {e : Editor} (h : e.Idle) : e.joinWithPrevious.Idle := by
  have row_lt := h.row_lt
  refine (h.edit (e.lineAt (e.row - 1) ++ e.line) ?_ (by simp)).touched
  have length : (e.lines.take (e.row - 1)).length = e.row - 1 := by simp; omega
  rw [List.append_assoc, List.getElem?_append_right (by omega), length]
  simp

theorem idle_backspace {e : Editor} (h : e.Idle) : e.backspace.Idle := by
  have col_le := h.col_le
  simp only [backspace]
  split
  · refine (h.editLine _ _ ?_).touched
    simp only [List.length_append, List.length_take]
    omega
  · split
    case isTrue => exact idle_joinWithPrevious h
    case isFalse => exact h

theorem idle_pressInsert {e : Editor} (h : e.Idle) (k : Key) : (e.pressInsert k).Idle := by
  have col_le := h.col_le
  simp only [pressInsert]
  split
  · exact (h.moveTo_col (by omega)).withMode .normal
  · split
    · exact idle_splitLine h
    · split
      · exact idle_backspace h
      · cases k.typed? with
        | none => exact h
        | some c => exact idle_insertChar h c

theorem Idle.save {e : Editor} (h : e.Idle) (written : Bool) : (e.save written).Idle := by
  cases written with
  | true => exact ⟨h.row_lt, h.col_le, h.not_deleting, h.no_command⟩
  | false => exact h.say _

theorem Idle.close {e : Editor} (h : e.Idle) : e.close.Idle := by
  simp only [Editor.close]
  split
  · exact h
  · exact ⟨h.row_lt, h.col_le, rfl, h.no_command⟩

theorem idle_perform {e : Editor} (h : e.Idle) (written : Bool) (d : Directive) :
    (e.perform written d).Idle := by
  cases d with
  | write =>
      cases written with
      | true => exact (h.save true).say _
      | false => exact h.save false
  | quit =>
      simp only [perform]
      split
      · exact h.say _
      · exact h.close
  | forceQuit => exact h.close
  | writeQuit =>
      cases written with
      | true => exact (h.save true).close
      | false => exact h.save false
  | unknown text => exact h.say _

theorem wellFormed_pressCommand {e : Editor} (h : e.WellFormed) (command : e.mode = .command)
    (written : Bool) (k : Key) : (e.pressCommand written k).WellFormed := by
  have not_deleting : e.deleting = false := h.not_deleting (by simp [command])
  have idle : Idle { e with command := [] } := ⟨h.row_lt, h.col_le, not_deleting, rfl⟩
  simp only [pressCommand]
  split
  · exact (idle.withMode .normal).wellFormed
  · split
    · exact (idle_perform (idle.withMode .normal) written _).wellFormed
    · split
      · refine ⟨h.row_lt, h.col_le, fun deleting => ?_, fun outside => ?_⟩
        · simp [not_deleting] at deleting
        · cases left : e.command.dropLast with
          | nil => rfl
          | cons c rest => simp [left, command] at outside
      · cases k.typed? with
        | none => exact h
        | some c =>
            refine ⟨h.row_lt, h.col_le, fun deleting => ?_, fun outside => ?_⟩
            · simp [not_deleting] at deleting
            · exact absurd command outside

theorem press_of_closed {e : Editor} (closed : e.closed = true) (written : Bool) (k : Key) :
    e.press written k = e := by
  simp [press, closed]

/-- What an open editor does with a key in each mode, the last message being gone. -/
theorem press_of_open {e : Editor} (still : e.closed = false) (written : Bool) (k : Key) :
    let quiet := { e with message := none }
    (e.mode = .normal → e.press written k = quiet.pressNormal k) ∧
      (e.mode = .insert → e.press written k = quiet.pressInsert k) ∧
      (e.mode = .command → e.press written k = quiet.pressCommand written k) := by
  refine ⟨fun mode => ?_, fun mode => ?_, fun mode => ?_⟩ <;> simp [press, still, mode]

theorem wellFormed_press {e : Editor} (h : e.WellFormed) (written : Bool) (k : Key) :
    (e.press written k).WellFormed := by
  cases closed : e.closed with
  | true => rwa [press_of_closed closed]
  | false =>
      obtain ⟨normal, insert, command⟩ := press_of_open closed written k
      have quiet : WellFormed { e with message := none } :=
        ⟨h.row_lt, h.col_le, h.normal_of_deleting, h.command_eq_nil⟩
      cases mode : e.mode with
      | normal =>
          rw [normal mode]
          exact wellFormed_pressNormal quiet mode k
      | insert =>
          have idle := quiet.idle (h.not_deleting (by simp [mode])) (by simp [mode])
          rw [insert mode]
          exact (idle_pressInsert idle k).wellFormed
      | command =>
          rw [command mode]
          exact wellFormed_pressCommand quiet mode written k

theorem wellFormed_ofFile (file content : Text) : (ofFile file content).WellFormed where
  row_lt := List.length_pos_iff.mpr (Text.lines_ne_nil content)
  col_le := Nat.zero_le _
  normal_of_deleting _ := rfl
  command_eq_nil _ := rfl

/-- Presses keys in turn; each comes with the answer that a save would get. -/
def pressAll (e : Editor) (keys : List (Bool × Key)) : Editor :=
  keys.foldl (fun e (written, k) => e.press written k) e

theorem wellFormed_pressAll {e : Editor} (h : e.WellFormed) (keys : List (Bool × Key)) :
    (e.pressAll keys).WellFormed := by
  induction keys generalizing e with
  | nil => exact h
  | cons first keys ih => exact ih (wellFormed_press h first.1 first.2)

end PocketShell.Editor
