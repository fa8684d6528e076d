import PocketShell.Editor.Render
import PocketShell.Proofs.Editor.WellFormed

/-!
The keys and the frame once more, with every access checked: a row or a character is read, set or
taken out only where there is one, a line is cut only at a column that it has, and an index goes
one back only from above zero. A check that fails gives no editor. In a well-formed editor none
does, and the result is that of the functions that look the other way.
-/

namespace PocketShell.Editor

def before? : Nat → Option Nat
  | 0 => none
  | n + 1 => some n

/-- What stands in a line before a column and from there on. -/
def cut? (line : Text) (col : Nat) : Option (Text × Text) :=
  if col ≤ line.length then some (line.take col, line.drop col) else none

def setRow? (e : Editor) (row : Nat) (line : Text) : Option Editor :=
  if row < e.lines.length then some (e.setLines (e.lines.set row line)) else none

def eraseRow? (e : Editor) (row : Nat) : Option Editor :=
  if row < e.lines.length then some (e.setLines (e.lines.eraseIdx row)) else none

def insertRows? (e : Editor) (row : Nat) (rows : List Text) : Option Editor :=
  if row ≤ e.lines.length then some (e.insertRows row rows) else none

def moveToRow? (e : Editor) (row : Nat) : Option Editor := do
  let line ← e.lines[row]?
  pure (e.moveTo row (min e.col line.length))

def openRow? (e : Editor) (row : Nat) : Option Editor := do
  let opened ← e.insertRows? row [[]]
  pure ((opened.moveTo row 0).withMode .insert).touched

def pasteRows? (e : Editor) : Option Editor :=
  if e.yank.isEmpty then pure e
  else do
    let pasted ← e.insertRows? (e.row + 1) (Text.lines e.yank)
    let moved ← pasted.moveToRow? (e.row + 1)
    pure moved.touched

/-- Puts what stands before one column and from another one on in the place of the line. -/
def keepOutside? (e : Editor) (line : Text) (start stop : Nat) : Option Editor := do
  let (head, _) ← cut? line start
  let (_, tail) ← cut? line stop
  e.setRow? e.row (head ++ tail)

def act? (e : Editor) (line : Text) : Action → Option Editor
  | .left => pure (e.moveTo e.row (e.col - 1))
  | .down => e.moveToRow? (min e.lastRow (e.row + 1))
  | .up => e.moveToRow? (e.row - 1)
  | .right => pure (e.moveTo e.row (min line.length (e.col + 1)))
  | .lineStart => pure (e.moveTo e.row 0)
  | .lineEnd => pure (e.moveTo e.row line.length)
  | .lastLine => e.moveToRow? e.lastRow
  | .insertHere => pure (e.withMode .insert)
  | .insertAfter => pure ((e.moveTo e.row (min line.length (e.col + 1))).withMode .insert)
  | .openBelow => e.openRow? (e.row + 1)
  | .openAbove => e.openRow? e.row
  | .deleteChar =>
      if e.col < line.length then touched <$> e.keepOutside? line e.col (e.col + 1) else pure e
  | .truncate =>
      if e.col < line.length then touched <$> e.keepOutside? line e.col line.length else pure e
  | .startDelete => pure { e with deleting := true }
  | .yankLine => pure ({ e with yank := line }.say "yanked line")
  | .paste => e.pasteRows?
  | .startCommand => pure { e with mode := .command, command := [] }

def rowsOf? (e : Editor) : RowMotion → Option (Nat × Nat)
  | .current => pure (e.row, 1)
  | .below => pure (e.row, if e.row < e.lastRow then 2 else 1)
  | .above =>
      if 0 < e.row then do
        let above ← before? e.row
        pure (above, 2)
      else pure (e.row, 1)

def deleteRows? (e : Editor) (m : RowMotion) : Option Editor := do
  let (start, count) ← e.rowsOf? m
  if start + count ≤ e.lines.length then some (e.deleteRows start count) else none

/-- The columns that a motion deletes, and what stands there. -/
def spanOf? (text : Text) (col : Nat) : SpanMotion → Option (Nat × Nat × Text)
  | .toEnd => do
      let (_, tail) ← cut? text col
      pure (col, text.length, tail)
  | .toStart => do
      let (head, _) ← cut? text col
      pure (0, col, head)
  | .word => do
      let (_, tail) ← cut? text col
      let (word, _) ← cut? tail (wordLength tail)
      pure (col, col + wordLength tail, word)
  | .right =>
      if col < text.length then do
        let c ← text[col]?
        pure (col, col + 1, [c])
      else pure (col, col, [])
  | .left =>
      if 0 < col then do
        let left ← before? col
        let c ← text[left]?
        pure (left, col, [c])
      else pure (col, col, [])

def deleteSpan? (e : Editor) (line : Text) (m : SpanMotion) : Option Editor := do
  let (start, stop, removed) ← spanOf? line e.col m
  if removed.isEmpty then pure e
  else do
    let edited ← e.keepOutside? line start stop
    pure ({ edited with col := start, yank := removed, modified := true }.say "deleted")

def pressNormal? (e : Editor) (k : Key) : Option Editor := do
  let line ← e.lines[e.row]?
  if e.deleting then
    let e := { e with deleting := false }
    match k.motion? with
    | some (.rows m) => e.deleteRows? m
    | some (.span m) => e.deleteSpan? line m
    | none => pure e
  else
    match k.action? with
    | some a => e.act? line a
    | none => pure e

def insertChar? (e : Editor) (line : Text) (c : CodePoint) : Option Editor := do
  let (head, tail) ← cut? line e.col
  let edited ← e.setRow? e.row (head ++ c :: tail)
  pure (edited.moveTo e.row (e.col + 1)).touched

def splitLine? (e : Editor) (line : Text) : Option Editor := do
  let (head, tail) ← cut? line e.col
  let headed ← e.setRow? e.row head
  let parted ← headed.insertRows? (e.row + 1) [tail]
  pure (parted.moveTo (e.row + 1) 0).touched

def joinWithPrevious? (e : Editor) (line : Text) : Option Editor := do
  let above ← before? e.row
  let previous ← e.lines[above]?
  let lengthened ← e.setRow? above (previous ++ line)
  let joined ← lengthened.eraseRow? e.row
  pure (joined.moveTo above previous.length).touched

def backspace? (e : Editor) (line : Text) : Option Editor :=
  if 0 < e.col then do
    let left ← before? e.col
    let edited ← e.keepOutside? line left e.col
    pure (edited.moveTo e.row left).touched
  else if 0 < e.row then e.joinWithPrevious? line
  else pure e

def pressInsert? (e : Editor) (k : Key) : Option Editor := do
  let line ← e.lines[e.row]?
  if k.isEscape then pure ((e.moveTo e.row (e.col - 1)).withMode .normal)
  else if k.isEnter then e.splitLine? line
  else if k.isBackspace then e.backspace? line
  else match k.typed? with
    | some c => e.insertChar? line c
    | none => pure e

/-- In command mode no key looks into the buffer. -/
def press? (e : Editor) (written : Bool) (k : Key) : Option Editor :=
  if e.closed then pure e
  else
    let e := { e with message := none }
    match e.mode with
    | .normal => e.pressNormal? k
    | .insert => e.pressInsert? k
    | .command => pure (e.pressCommand written k)

def markCursor? (mode : Mode) (col : Nat) (line : Text) : Option Text := do
  let (head, tail) ← cut? line col
  if mode = .insert then pure (head ++ .char '|' :: tail)
  else if tail.isEmpty then pure (head ++ ("[█]" : Text))
  else do
    let c ← tail[0]?
    let (_, behind) ← cut? tail 1
    pure (head ++ ([.char '[', c, .char ']'] : Text) ++ behind)

def frame? (e : Editor) : Option Text := do
  let drawn ← e.lines.zipIdx.mapM fun (line, row) =>
    if row = e.row then markCursor? e.mode e.col line else pure line
  pure (Text.unlines drawn ++ .char '\n' :: e.status)

theorem before?_eq {n : Nat} (h : 0 < n) : before? n = some (n - 1) := by
  cases n with
  | zero => omega
  | succ n => rfl

theorem cut?_eq {line : Text} {col : Nat} (h : col ≤ line.length) :
    cut? line col = some (line.take col, line.drop col) := by
  simp [cut?, h]

theorem setRow?_eq {e : Editor} {row : Nat} (line : Text) (h : row < e.lines.length) :
    e.setRow? row line = some (e.setLines (e.lines.set row line)) := by
  simp [setRow?, h]

theorem insertRows?_eq {e : Editor} {row : Nat} (rows : List Text) (h : row ≤ e.lines.length) :
    e.insertRows? row rows = some (e.insertRows row rows) := by
  simp [insertRows?, h]

theorem moveToRow?_eq {e : Editor} {row : Nat} (h : row < e.lines.length) :
    e.moveToRow? row = some (e.moveToRow row) := by
  simp only [moveToRow?, lineAt_of_lt e row h]
  rfl

theorem openRow?_eq {e : Editor} {row : Nat} (h : row ≤ e.lines.length) :
    e.openRow? row =
      some ((((e.insertRows row [[]]).moveTo row 0).withMode .insert).touched) := by
  simp only [openRow?, insertRows?_eq [[]] h]
  rfl

theorem keepOutside?_eq {e : Editor} {start stop : Nat} (h : e.row < e.lines.length)
    (start_le : start ≤ e.line.length) (stop_le : stop ≤ e.line.length) :
    e.keepOutside? e.line start stop =
      some (e.setLine (e.line.take start ++ e.line.drop stop)) := by
  simp only [keepOutside?, cut?_eq start_le, cut?_eq stop_le]
  exact setRow?_eq _ h

theorem pasteRows?_eq {e : Editor} (h : e.Idle) : e.pasteRows? = some e.pasteRows := by
  simp only [pasteRows?, pasteRows]
  split
  · rfl
  · have row_le : e.row + 1 ≤ e.lines.length := h.row_lt
    obtain ⟨line, rows, yanked⟩ := List.exists_cons_of_ne_nil (Text.lines_ne_nil e.yank)
    have at_row := e.insertRows_at line rows row_le
    obtain ⟨row_lt, _⟩ := List.getElem?_eq_some_iff.mp at_row
    have moved := moveToRow?_eq (e := e.insertRows (e.row + 1) (line :: rows)) row_lt
    simp only [yanked, insertRows?_eq _ row_le, Option.bind_eq_bind, Option.bind_some, moved]
    rfl

theorem act?_eq {e : Editor} (h : e.Idle) (a : Action) : e.act? e.line a = some (e.act a) := by
  have row_lt := h.row_lt
  have last_lt := lastRow_lt row_lt
  cases a with
  | left | right | lineStart | lineEnd | insertHere | insertAfter => rfl
  | startDelete | yankLine | startCommand => rfl
  | down => exact moveToRow?_eq (by omega)
  | up => exact moveToRow?_eq (by omega)
  | lastLine => exact moveToRow?_eq last_lt
  | openBelow => exact openRow?_eq row_lt
  | openAbove => exact openRow?_eq (Nat.le_of_lt row_lt)
  | paste => exact pasteRows?_eq h
  | deleteChar =>
      simp only [act?, act]
      split
      case isTrue col_lt => rw [keepOutside?_eq row_lt h.col_le col_lt]; rfl
      case isFalse => rfl
  | truncate =>
      simp only [act?, act]
      split
      case isTrue col_lt =>
        rw [keepOutside?_eq row_lt h.col_le (Nat.le_refl _)]
        simp
      case isFalse => rfl

theorem deleteRows?_eq {e : Editor} (h : e.row < e.lines.length) (m : RowMotion) :
    e.deleteRows? m = some (e.deleteMotion (.rows m)) := by
  have asked : e.rowsOf? m = some (e.rowsOf m) := by
    cases m with
    | current | below => rfl
    | above =>
        simp only [rowsOf?, rowsOf]
        split
        case isTrue below => rw [before?_eq below]; rfl
        case isFalse => rfl
  have inside : (e.rowsOf m).1 + (e.rowsOf m).2 ≤ e.lines.length := by
    cases m with
    | current => exact h
    | below =>
        by_cases above_last : e.row < e.lastRow
        · simp only [rowsOf, above_last, if_true]
          simp only [lastRow] at above_last
          omega
        · simp only [rowsOf, above_last, if_false]
          omega
    | above =>
        by_cases below : 0 < e.row
        · simp only [rowsOf, below, if_true]
          omega
        · simp only [rowsOf, below, if_false]
          omega
  simp only [deleteRows?, asked, deleteMotion]
  exact if_pos inside

theorem wordLength_le (t : Text) : wordLength t ≤ t.length := by
  have word_le : (t.takeWhile fun c => !isBlank c).length ≤ t.length :=
    List.IsPrefix.length_le <| List.takeWhile_prefix _
  have blanks_le (n : Nat) : ((t.drop n).takeWhile isBlank).length ≤ t.length - n := by
    have inside : ((t.drop n).takeWhile isBlank).length ≤ (t.drop n).length :=
      List.IsPrefix.length_le <| List.takeWhile_prefix _
    simpa using inside
  have := blanks_le (t.takeWhile fun c => !isBlank c).length
  simp only [wordLength]
  split
  · exact Nat.zero_le _
  · omega

theorem spanOf?_eq {e : Editor} (col_le : e.col ≤ e.line.length) (m : SpanMotion) :
    spanOf? e.line e.col m = some ((e.spanOf m).1, (e.spanOf m).2,
        (e.line.drop (e.spanOf m).1).take ((e.spanOf m).2 - (e.spanOf m).1)) ∧
      (e.spanOf m).1 ≤ e.line.length ∧ (e.spanOf m).2 ≤ e.line.length := by
  cases m with
  | toEnd =>
      have all : (e.line.drop e.col).take (e.line.length - e.col) = e.line.drop e.col := by
        apply List.take_of_length_le
        simp
      exact ⟨by simp [spanOf?, spanOf, cut?_eq col_le, all], col_le, Nat.le_refl _⟩
  | toStart => exact ⟨by simp [spanOf?, spanOf, cut?_eq col_le], Nat.zero_le _, col_le⟩
  | word =>
      have word_le := wordLength_le (e.line.drop e.col)
      refine ⟨?_, col_le, ?_⟩
      · simp [spanOf?, spanOf, cut?_eq col_le, cut?_eq word_le]
      · simp only [List.length_drop] at word_le
        simp only [spanOf]
        omega
  | right =>
      refine ⟨?_, col_le, Nat.min_le_left _ _⟩
      by_cases inside : e.col < e.line.length
      · have stop : min e.line.length (e.col + 1) = e.col + 1 := by omega
        simp only [spanOf?, spanOf, inside, if_true, stop]
        simp [inside, List.take_one]
      · have stop : min e.line.length (e.col + 1) = e.col := by omega
        simp [spanOf?, spanOf, inside, stop]
  | left =>
      refine ⟨?_, Nat.le_trans (Nat.sub_le _ _) col_le, col_le⟩
      by_cases inside : 0 < e.col
      · have one : e.col - (e.col - 1) = 1 := by omega
        have left_lt : e.col - 1 < e.line.length := by omega
        simp [spanOf?, spanOf, inside, before?_eq inside, one, List.take_one, left_lt]
      · have zero : e.col = 0 := by omega
        simp [spanOf?, spanOf, zero]

theorem deleteSpan?_eq {e : Editor} (h : e.Idle) (m : SpanMotion) :
    e.deleteSpan? e.line m = some (e.deleteMotion (.span m)) := by
  obtain ⟨asked, start_le, stop_le⟩ := spanOf?_eq h.col_le m
  have kept := keepOutside?_eq h.row_lt start_le stop_le
  simp only [deleteSpan?, asked, deleteMotion, deleteSpan, Option.bind_eq_bind, Option.bind_some,
    kept]
  by_cases nothing :
      ((e.line.drop (e.spanOf m).1).take ((e.spanOf m).2 - (e.spanOf m).1)).isEmpty
  · simp only [nothing, if_true]
    rfl
  · simp only [nothing, Bool.false_eq_true, if_false]
    rfl

theorem pressNormal?_eq {e : Editor} (h : e.WellFormed) (normal : e.mode = .normal) (k : Key) :
    e.pressNormal? k = some (e.pressNormal k) := by
  have no_command : e.command = [] := h.command_eq_nil (by simp [normal])
  simp only [pressNormal?, pressNormal, lineAt_of_lt e e.row h.row_lt, Option.bind_eq_bind,
    Option.bind_some]
  split
  · have idle : Idle { e with deleting := false } := ⟨h.row_lt, h.col_le, rfl, no_command⟩
    cases k.motion? with
    | none => rfl
    | some m =>
        cases m with
        | rows m => exact deleteRows?_eq idle.row_lt m
        | span m => exact deleteSpan?_eq idle m
  · rename_i not_deleting
    have idle : e.Idle := ⟨h.row_lt, h.col_le, by simpa using not_deleting, no_command⟩
    cases k.action? with
    | none => rfl
    | some a => exact act?_eq idle a

theorem insertChar?_eq {e : Editor} (h : e.Idle) (c : CodePoint) :
    e.insertChar? e.line c = some (e.insertChar c) := by
  simp only [insertChar?, cut?_eq h.col_le, Option.bind_eq_bind, Option.bind_some,
    setRow?_eq _ h.row_lt]
  rfl

theorem take_set_succ (lines : List Text) {row : Nat} (line : Text) (h : row < lines.length) :
    (lines.set row line).take (row + 1) = lines.take row ++ [line] := by
  rw [List.take_add_one, List.take_set_of_le (Nat.le_refl row)]
  simp [h]

theorem splitLine?_eq {e : Editor} (h : e.Idle) : e.splitLine? e.line = some e.splitLine := by
  have row_lt := h.row_lt
  have row_le : e.row + 1 ≤ (e.lines.set e.row (e.line.take e.col)).length := by
    rw [List.length_set]
    exact row_lt
  simp only [splitLine?, cut?_eq h.col_le, Option.bind_eq_bind, Option.bind_some,
    setRow?_eq _ row_lt]
  rw [insertRows?_eq _ row_le]
  simp only [insertRows, setLines, take_set_succ _ _ row_lt,
    List.drop_set_of_lt (Nat.lt_succ_self e.row), List.append_assoc]
  simp [splitLine, setLines]

theorem joinWithPrevious?_eq {e : Editor} (h : e.Idle) (below : 0 < e.row) :
    e.joinWithPrevious? e.line = some e.joinWithPrevious := by
  have row_lt := h.row_lt
  have above_lt : e.row - 1 < e.lines.length := by omega
  have row_eq : e.row = e.row - 1 + 1 := by omega
  -- the row above takes the text first, so the row that goes away is still the one at the cursor
  have joined (line : Text) : (e.lines.set (e.row - 1) line).eraseIdx e.row =
      e.lines.take (e.row - 1) ++ [line] ++ e.lines.drop (e.row + 1) := by
    rw [List.eraseIdx_eq_take_drop_succ, List.drop_set_of_lt (by omega)]
    congr 1
    rw [row_eq]
    exact take_set_succ _ _ above_lt
  simp only [joinWithPrevious?, before?_eq below, lineAt_of_lt e _ above_lt,
    Option.bind_eq_bind, Option.bind_some, setRow?_eq _ above_lt, eraseRow?, setLines,
    List.length_set, row_lt, if_true, joined]
  rfl

theorem backspace?_eq {e : Editor} (h : e.Idle) : e.backspace? e.line = some e.backspace := by
  have col_le := h.col_le
  simp only [backspace?, backspace]
  split
  case isTrue inside =>
    rw [before?_eq inside]
    simp only [Option.bind_eq_bind, Option.bind_some]
    rw [keepOutside?_eq h.row_lt (by omega) col_le]
    rfl
  case isFalse =>
    split
    case isTrue below => exact joinWithPrevious?_eq h below
    case isFalse => rfl

theorem pressInsert?_eq {e : Editor} (h : e.Idle) (k : Key) :
    e.pressInsert? k = some (e.pressInsert k) := by
  simp only [pressInsert?, pressInsert, lineAt_of_lt e e.row h.row_lt, Option.bind_eq_bind,
    Option.bind_some]
  split
  · rfl
  · split
    · exact splitLine?_eq h
    · split
      · exact backspace?_eq h
      · cases k.typed? with
        | none => rfl
        | some c => exact insertChar?_eq h c

theorem press?_eq {e : Editor} (h : e.WellFormed) (written : Bool) (k : Key) :
    e.press? written k = some (e.press written k) := by
  have quiet : WellFormed { e with message := none } :=
    ⟨h.row_lt, h.col_le, h.normal_of_deleting, h.command_eq_nil⟩
  simp only [press?, press]
  split
  · rfl
  · cases mode : e.mode with
    | normal => simpa only [mode] using pressNormal?_eq quiet mode k
    | insert =>
        have idle := quiet.idle (h.not_deleting (by simp [mode])) (by simp [mode])
        simpa only [mode] using pressInsert?_eq idle k
    | command => rfl

theorem markCursor?_eq (mode : Mode) {col : Nat} {line : Text} (h : col ≤ line.length) :
    markCursor? mode col line = some (markCursor mode col line) := by
  simp only [markCursor?, cut?_eq h, Option.bind_eq_bind, Option.bind_some]
  cases tail : line.drop col with
  | nil => cases mode <;> simp [markCursor, tail]
  | cons c tail' => cases mode <;> simp [markCursor, tail, cut?]

theorem mapM_eq_map {α β : Type} {f : α → Option β} {g : α → β} (l : List α)
    (h : ∀ a ∈ l, f a = some (g a)) : l.mapM f = some (l.map g) := by
  induction l with
  | nil => rfl
  | cons a l ih =>
      have rest := ih fun b mem => h b (List.mem_cons_of_mem a mem)
      simp [h a List.mem_cons_self, rest]

theorem frame?_eq {e : Editor} (h : e.WellFormed) : e.frame? = some e.frame := by
  have drawn : (e.lines.zipIdx.mapM fun (line, row) =>
      if row = e.row then markCursor? e.mode e.col line else pure line) = some e.drawnLines := by
    apply mapM_eq_map
    rintro ⟨line, row⟩ mem
    have at_row : e.lines[row]? = some line := by simpa using List.mem_zipIdx_iff_getElem?.mp mem
    simp only
    split
    case isTrue same =>
      have cursor_line : e.line = line := by simp [Editor.line, lineAt, ← same, at_row]
      exact markCursor?_eq e.mode (cursor_line ▸ h.col_le)
    case isFalse => rfl
  simp only [frame?, drawn]
  rfl

/-- Whatever keys were pressed on a file, and whatever saves were answered, the editor is well
formed, and neither the next key nor the frame looks beside the buffer. -/
theorem keys_stay_in_range (file content : Text) (keys : List (Bool × Key)) (written : Bool)
    (k : Key) :
    let e := (ofFile file content).pressAll keys
    e.lines ≠ [] ∧ e.WellFormed ∧ e.press? written k = some (e.press written k) ∧
      e.frame? = some e.frame := by
  intro e
  have h : e.WellFormed := wellFormed_pressAll (wellFormed_ofFile file content) keys
  have lines_ne : e.lines ≠ [] := by
    intro empty
    have row_lt := h.row_lt
    simp [empty] at row_lt
  exact ⟨lines_ne, h, press?_eq h written k, frame?_eq h⟩

end PocketShell.Editor
