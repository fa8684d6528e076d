import PocketShell.Proofs.Editor.Deleting
import PocketShell.Proofs.Editor.Typing

/-!
What was cut or yanked comes back below the cursor. The yank buffer holds rows as one text, so
they are cut at its line feeds again: rows that have none in them come back as they were. The one
exception is a single empty row, whose text is that of a yank buffer in which there is nothing.
-/

namespace PocketShell

/-- Rows make up the empty text only as a single empty row. -/
theorem Text.unlines_eq_nil_iff {rows : List Text} (some_row : rows ≠ []) :
    unlines rows = [] ↔ rows = [[]] := by
  obtain ⟨row, rows, rfl⟩ := List.exists_cons_of_ne_nil some_row
  rw [unlines_cons, List.append_eq_nil_iff]
  cases rows <;> simp

/-- Motions of the cursor. -/
def Action.isMove : Action → Bool
  | .left | .down | .up | .right | .lineStart | .lineEnd | .lastLine => true
  | _ => false

def Key.isMove (k : Key) : Bool := k.action?.any Action.isMove

namespace Editor

/-- An open editor in normal mode, with the cursor on a row and no delete waiting. -/
structure Ready (e : Editor) : Prop where
  still : e.closed = false
  normal : e.mode = .normal
  not_deleting : e.deleting = false
  row_lt : e.row < e.lines.length

variable {e : Editor} (written : Bool) {rows : List Text}

theorem Ready.press_eq (h : e.Ready) {k : Key} {a : Action} (asks : k.action? = some a) :
    e.press written k = { e with message := none }.act a :=
  press_act h.still h.normal h.not_deleting written asks

/-- A motion leaves the rows and what is yanked. -/
theorem Ready.act_move (h : e.Ready) {a : Action} (moves : a.isMove = true) :
    (e.act a).Ready ∧ (e.act a).lines = e.lines ∧ (e.act a).yank = e.yank := by
  have row_lt := h.row_lt
  have onRow (row col : Nat) (inside : row < e.lines.length) : (e.moveTo row col).Ready :=
    ⟨h.still, h.normal, h.not_deleting, inside⟩
  cases a with
  | left | right | lineStart | lineEnd => exact ⟨onRow _ _ row_lt, rfl, rfl⟩
  | down =>
      have last := lastRow_lt row_lt
      exact ⟨onRow _ _ (by omega), rfl, rfl⟩
  | up => exact ⟨onRow _ _ (by omega), rfl, rfl⟩
  | lastLine => exact ⟨onRow _ _ (lastRow_lt row_lt), rfl, rfl⟩
  | _ => cases moves

theorem Ready.press_move (h : e.Ready) {k : Key} (moves : k.isMove = true) :
    (e.press written k).Ready ∧ (e.press written k).lines = e.lines ∧
      (e.press written k).yank = e.yank := by
  rw [Key.isMove] at moves
  cases asks : k.action? with
  | none =>
      rw [asks] at moves
      cases moves
  | some a =>
      rw [asks] at moves
      have quiet : Ready { e with message := none } := ⟨h.still, h.normal, h.not_deleting, h.row_lt⟩
      rw [h.press_eq written asks]
      exact quiet.act_move moves

theorem Ready.pressAll_moves (h : e.Ready) {keys : List (Bool × Key)}
    (moves : ∀ entry ∈ keys, entry.2.isMove = true) :
    (e.pressAll keys).Ready ∧ (e.pressAll keys).lines = e.lines ∧
      (e.pressAll keys).yank = e.yank := by
  induction keys generalizing e with
  | nil => exact ⟨h, rfl, rfl⟩
  | cons first keys ih =>
      rw [List.forall_mem_cons] at moves
      obtain ⟨ready, lines, yank⟩ := h.press_move first.1 moves.1
      obtain ⟨ready', lines', yank'⟩ := ih ready moves.2
      exact ⟨ready', lines'.trans lines, yank'.trans yank⟩

/-- Wherever the cursor has gone, a key puts the text of the rows below it, line by line, and goes
to the first of them; these are the rows as they were if there is no line feed in them. A single
empty row has no text and is not put anywhere. -/
def BringsBack (e : Editor) (written : Bool) (k : Key) (rows : List Text) : Prop :=
  ∀ moves : List (Bool × Key), (∀ entry ∈ moves, entry.2.isMove = true) →
    let here := e.pressAll moves
    let after := here.press written k
    let around (rows : List Text) : List Text :=
      e.lines.take (here.row + 1) ++ rows ++ e.lines.drop (here.row + 1)
    here.lines = e.lines ∧ here.row < e.lines.length ∧
    (rows ≠ [[]] →
      after.row = here.row + 1 ∧ after.lines = around (Text.lines (Text.unlines rows)) ∧
      ((∀ row ∈ rows, .char '\n' ∉ row) → after.lines = around rows)) ∧
    (rows = [[]] → after = { here with message := none })

theorem Ready.bringsBack (h : e.Ready) (yanked : e.yank = Text.unlines rows) (some_row : rows ≠ [])
    {p : Key} (asks : p.isSmall 'p') : e.BringsBack written p rows := by
  intro moves all here after around
  obtain ⟨ready, lines, yank⟩ := h.pressAll_moves all
  have pasted : after = { here with message := none }.pasteRows :=
    ready.press_eq written (Key.action?_of_isSmall asks)
  have empty : here.yank = [] ↔ rows = [[]] := by
    rw [yank, yanked, Text.unlines_eq_nil_iff some_row]
  refine ⟨lines, lines ▸ ready.row_lt, fun some_text => ?_, fun no_text => ?_⟩
  · have filled : here.yank.isEmpty = false := by simpa [empty] using some_text
    have put : after.row = here.row + 1 ∧
        after.lines = around (Text.lines (Text.unlines rows)) := by
      rw [pasted]
      simp only [pasteRows, filled, Bool.false_eq_true, if_false]
      rw [show here.yank = Text.unlines rows from yank.trans yanked]
      exact ⟨rfl, by simp only [around, ← lines]; rfl⟩
    refine ⟨put.1, put.2, fun whole => ?_⟩
    rw [put.2, Text.lines_unlines some_row whole]
  · have nothing : here.yank.isEmpty = true := by simpa using empty.mpr no_text
    rw [pasted]
    simp only [pasteRows, nothing, if_true]

theorem LosesRows.row_lt {after : Editor} {start count : Nat} (h : e.LosesRows after start count) :
    after.row < after.lines.length := by
  have inside := h.inside
  have some_line : 0 < after.lines.length := by
    have enough := Nat.le_trans (Nat.le_add_left count start) inside
    rcases Nat.lt_or_eq_of_le enough with some_left | all
    · rw [h.lines some_left, List.length_append, List.length_take, List.length_drop]
      omega
    · simp [h.emptied all]
  have row := h.row
  omega

/-- A line-wise delete takes rows that can be brought back. -/
theorem Ready.cut (h : e.Ready) {d k : Key} (starts : d.isSmall 'd') {m : RowMotion}
    (motion : k.motion? = some (.rows m)) :
    let cut := (e.press written d).press written k
    e.LosesRows cut (e.rowsOf m).1 (e.rowsOf m).2 ∧ cut.Ready := by
  intro cut
  let waiting : Editor := { e with message := none, deleting := true }
  have started : e.press written d = waiting := h.press_eq written (Key.action?_of_isSmall starts)
  have deleted : cut = e.atRest.deleteMotion (.rows m) := by
    have pressed : waiting.press written k = _ :=
      press_of_waiting (e := waiting) h.still h.normal rfl written k
    rw [motion] at pressed
    simp only [cut, started]
    exact pressed
  have loses : e.LosesRows cut (e.rowsOf m).1 (e.rowsOf m).2 := by
    rw [deleted]
    exact losesRows_deleteMotion h.row_lt m
  have ends : e.EndsWaiting cut := by
    rw [deleted]
    exact endsWaiting_deleteMotion e _
  exact ⟨loses, ends.closed.trans h.still, ends.mode.trans h.normal, ends.not_deleting,
    loses.row_lt⟩

/-- A line-wise delete takes the rows that its motion names, and `Y` takes the current row without
deleting it; `p` brings back what was taken last, unless that is a single empty row. -/
theorem paste_brings_rows_back (ready : e.Ready) {p : Key} (asks : p.isSmall 'p') :
    (∀ (d k : Key) (m : RowMotion), d.isSmall 'd' → k.motion? = some (.rows m) →
      let cut := (e.press written d).press written k
      let (start, count) := e.rowsOf m
      e.LosesRows cut start count ∧
        cut.BringsBack written p ((e.lines.drop start).take count)) ∧
    ∀ y : Key, y.isCapital 'Y' 'y' →
      let yanked := e.press written y
      yanked.lines = e.lines ∧ yanked.row = e.row ∧ yanked.BringsBack written p [e.line] := by
  refine ⟨fun d k m starts motion => ?_, fun y yanks => ?_⟩
  · obtain ⟨loses, settled⟩ := ready.cut written starts motion
    refine ⟨loses, settled.bringsBack written loses.yank ?_ asks⟩
    have inside := loses.inside
    have some_row := loses.some_row
    rw [← List.length_pos_iff, List.length_take, List.length_drop]
    omega
  · have acts : y.action? = some .yankLine := by
      rcases Key.action?_of_isCapital yanks with acts | acts | acts <;> exact acts
    intro yanked
    have said : yanked = { e with message := none, yank := e.line }.say "yanked line" :=
      ready.press_eq written acts
    rw [said]
    have settled : Ready ({ e with message := none, yank := e.line }.say "yanked line") :=
      ⟨ready.still, ready.normal, ready.not_deleting, ready.row_lt⟩
    exact ⟨rfl, rfl, settled.bringsBack written rfl (by simp) asks⟩

/-- Two rows are cut, the second of them an empty one, and put behind what is left. -/
theorem cut_rows_come_back_at_the_end :
    let e := ofFile "notes" "one\n\ntwo\nthree"
    let cut := (e.press true (.plain "d")).press true (.plain "j")
    let here := cut.pressAll [(true, .plain "G"), (true, .plain "$")]
    let after := here.press true (.plain "p")
    let removed : List Text := ["one", ""]
    let left : List Text := ["two", "three"]
    e.Ready ∧ e.LosesRows cut 0 2 ∧ cut.lines = left ∧
      after.lines = left ++ removed ∧ after.row = 2 := by
  intro e cut here after removed left
  have ready : e.Ready := ⟨rfl, rfl, rfl, by decide⟩
  obtain ⟨brings, _⟩ := paste_brings_rows_back true ready (p := .plain "p") rfl
  obtain ⟨loses, back⟩ := brings (.plain "d") (.plain "j") .below rfl rfl
  obtain ⟨_, _, put, _⟩ := back [(true, .plain "G"), (true, .plain "$")] (by decide)
  obtain ⟨row, _, whole⟩ := put (by decide)
  exact ⟨ready, loses, by decide, whole (by decide), row⟩

/-- An empty row that was cut is not brought back. -/
theorem empty_row_is_lost :
    let e := (ofFile "notes" "a\n\nb").press true (.plain "j")
    let cut := (e.press true (.plain "d")).press true (.plain "d")
    let after := cut.press true (.plain "p")
    e.Ready ∧ e.LosesRows cut 1 1 ∧ (e.lines.drop 1).take 1 = [[]] ∧
      after.lines = cut.lines ∧
      after.lines ≠ cut.lines.take (cut.row + 1) ++ [[]] ++ cut.lines.drop (cut.row + 1) := by
  intro e cut after
  have ready : e.Ready := ⟨rfl, rfl, rfl, by decide⟩
  have loses : e.LosesRows cut 1 1 :=
    (ready.cut true (d := .plain "d") (k := .plain "d") rfl rfl).1
  exact ⟨ready, loses, by decide, by decide, by decide⟩

end Editor
end PocketShell
