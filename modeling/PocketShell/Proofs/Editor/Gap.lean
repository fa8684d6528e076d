import PocketShell.Proofs.Editor.WellFormed

/-!
The buffer as one text with one insertion point. Seen from the cursor a buffer is a gap: the rows
above, the line parted into head and tail, and the rows below. What stands before the gap and what
stands behind it make up the content, and the length of the former is the offset of the cursor; so
what an editor does at its gap is done to the content at the offset. Typing pushes onto the gap,
and Backspace takes off what was pushed last.
-/

namespace PocketShell

/-- A text with a point in it, before which there are `point` characters. -/
structure FlatText where
  text : Text
  point : Nat
  deriving DecidableEq, Repr

namespace FlatText

/-- Puts a text in at the point, which ends up behind it. -/
def insert (f : FlatText) (t : Text) : FlatText :=
  ⟨f.text.take f.point ++ t ++ f.text.drop f.point, f.point + t.length⟩

/-- Takes away as many characters behind the point. -/
def deleteNext (f : FlatText) (count : Nat) : FlatText :=
  ⟨f.text.take f.point ++ f.text.drop (f.point + count), f.point⟩

/-- Takes away the character before the point, if there is one. -/
def deletePrevious (f : FlatText) : FlatText :=
  if 0 < f.point then ⟨f.text.take (f.point - 1) ++ f.text.drop f.point, f.point - 1⟩ else f

def moveTo (f : FlatText) (point : Nat) : FlatText := { f with point := point }

/-- The text made of what stands before the point and what stands behind it. -/
def around (before behind : Text) : FlatText := ⟨before ++ behind, before.length⟩

variable (before behind : Text)

theorem insert_around (t : Text) :
    (around before behind).insert t = around (before ++ t) behind := by
  simp [insert, around]

theorem deleteNext_around (t : Text) :
    (around before (t ++ behind)).deleteNext t.length = around before behind := by
  simp [deleteNext, around]

theorem deletePrevious_around (c : CodePoint) :
    (around (before ++ [c]) behind).deletePrevious = around before behind := by
  simp [deletePrevious, around]

theorem deletePrevious_start : (around [] behind).deletePrevious = around [] behind := rfl

end FlatText

/-- The character that a key puts into the buffer in insert mode. -/
def Key.inserts? (k : Key) : Option CodePoint := if k.isEnter then some '\n' else k.typed?

structure Gap where
  above : List Text
  head : Text
  tail : Text
  below : List Text

namespace Gap

def before (g : Gap) : Text := g.above.flatMap (· ++ (['\n'] : Text)) ++ g.head

def behind (g : Gap) : Text := g.tail ++ g.below.flatMap (.char '\n' :: ·)

def flat (g : Gap) : FlatText := .around g.before g.behind

/-- A key other than Enter goes to the end of the head; Enter makes the head a row above. -/
def push (g : Gap) (k : Key) : Gap :=
  if k.isEnter then { g with above := g.above ++ [g.head], head := [] }
  else { g with head := g.head ++ k.typed?.toList }

theorem flat_push (g : Gap) {k : Key} {c : CodePoint} (inserts : k.inserts? = some c) :
    (g.push k).flat = g.flat.insert [c] := by
  simp only [flat, FlatText.insert_around]
  simp only [Key.inserts?] at inserts
  cases enter : k.isEnter with
  | true =>
      simp only [enter, if_true, Option.some.injEq] at inserts
      simp [push, enter, before, behind, ← inserts]
  | false =>
      simp only [enter, Bool.false_eq_true, if_false] at inserts
      simp [push, enter, before, behind, inserts]

/-- The gap behind keys that are typed in turn, each with the answer that a save would get. -/
def pushAll (g : Gap) (keys : List (Bool × Key)) : Gap :=
  keys.foldl (fun g (_, k) => g.push k) g

theorem flat_pushAll (g : Gap) {keys : List (Bool × Key)} {text : Text}
    (inserts : keys.map (·.2.inserts?) = text.map some) :
    (g.pushAll keys).flat = g.flat.insert text := by
  induction keys generalizing g text with
  | nil =>
      have nothing : text = [] := by simpa using inserts.symm
      simp [pushAll, nothing, flat, FlatText.insert_around]
  | cons first keys ih =>
      obtain ⟨c, rest, rfl⟩ : ∃ c rest, text = c :: rest := by
        cases text with
        | nil => simp at inserts
        | cons c rest => exact ⟨c, rest, rfl⟩
      simp only [List.map_cons, List.cons.injEq] at inserts
      have behind := ih (g.push first.2) inserts.2
      rw [flat_push g inserts.1] at behind
      simpa [pushAll, flat, FlatText.insert_around] using behind

end Gap

namespace Editor

def flat (e : Editor) : FlatText := ⟨e.content, e.offset⟩

/-- The cursor of the editor is in the gap. -/
structure At (e : Editor) (g : Gap) : Prop where
  lines : e.lines = g.above ++ (g.head ++ g.tail) :: g.below
  row : e.row = g.above.length
  col : e.col = g.head.length

/-- A cursor in the buffer is in a gap of it. -/
theorem exists_at {e : Editor} (row_lt : e.row < e.lines.length) (col_le : e.col ≤ e.line.length) :
    ∃ g, e.At g := by
  refine ⟨⟨e.lines.take e.row, e.line.take e.col, e.line.drop e.col, e.lines.drop (e.row + 1)⟩,
    ?_, ?_, ?_⟩
  · have line : e.line = e.lines[e.row] := by simp [Editor.line, lineAt, row_lt]
    simp [line]
  · simp; omega
  · simp; omega

theorem offset_from (above : List Text) (col : Nat) :
    above.foldr (fun line n => line.length + 1 + n) col =
      (above.flatMap (· ++ (['\n'] : Text))).length + col := by
  induction above with
  | nil => simp
  | cons line above ih =>
      simp only [List.foldr_cons, ih, List.flatMap_cons, List.length_append, List.length_cons,
        List.length_nil]
      omega

namespace At

variable {e : Editor} {g : Gap} (h : e.At g)

include h

theorem flat_eq : e.flat = g.flat := by
  have content : e.content = g.before ++ g.behind := by
    simp [Editor.content, h.lines, Text.unlines_around, Gap.before, Gap.behind]
  have offset : e.offset = g.before.length := by
    simp [Editor.offset, h.lines, h.row, h.col, offset_from, Gap.before]
  simp [Editor.flat, content, offset, Gap.flat, FlatText.around]

theorem line_eq : e.line = g.head ++ g.tail := by simp [Editor.line, lineAt, h.lines, h.row]

theorem head_eq : e.line.take e.col = g.head := by simp [h.line_eq, h.col]

theorem tail_eq : e.line.drop e.col = g.tail := by simp [h.line_eq, h.col]

theorem above_eq : e.lines.take e.row = g.above := by simp [h.lines, h.row]

theorem below_eq : e.lines.drop (e.row + 1) = g.below := by simp [h.lines, h.row]

theorem upto_eq : e.lines.take (e.row + 1) = g.above ++ [g.head ++ g.tail] := by
  simp [h.lines, h.row, List.take_append, List.take_of_length_le]

theorem setLine (line : Text) : (e.setLine line).lines = g.above ++ line :: g.below := by
  simp [Editor.setLine, h.lines, h.row]

theorem insertChar (c : CodePoint) : (e.insertChar c).At { g with head := g.head ++ [c] } := by
  refine ⟨?_, h.row, ?_⟩
  · simp [Editor.insertChar, touched, moveTo, h.setLine, h.head_eq, h.tail_eq]
  · simp [Editor.insertChar, touched, moveTo, h.col]

theorem splitLine :
    e.splitLine.At { g with above := g.above ++ [g.head], head := [] } := by
  refine ⟨?_, ?_, rfl⟩
  · simp [Editor.splitLine, touched, moveTo, setLines, h.head_eq, h.tail_eq, h.above_eq,
      h.below_eq]
  · simp [Editor.splitLine, touched, moveTo, h.row]

/-- Backspace takes off the last character of the head. -/
theorem backspace_char {head : Text} {c : CodePoint} (last : g.head = head ++ [c]) :
    e.backspace.At { g with head := head } := by
  have col : e.col = head.length + 1 := by simp [h.col, last]
  have kept : e.line.take (e.col - 1) = head := by simp [h.line_eq, last, col]
  have after_column : 0 < e.col := by omega
  simp only [Editor.backspace, after_column, if_true]
  refine ⟨?_, h.row, ?_⟩
  · simp [touched, moveTo, h.setLine, kept, h.tail_eq]
  · simp [touched, moveTo, col]

/-- With nothing in the head, Backspace makes the row above the head. -/
theorem backspace_row {above : List Text} {line : Text} (empty : g.head = [])
    (last : g.above = above ++ [line]) :
    e.backspace.At { g with above := above, head := line } := by
  have col : e.col = 0 := by simp [h.col, empty]
  have row : e.row = above.length + 1 := by simp [h.row, last]
  have previous : e.lineAt (e.row - 1) = line := by simp [lineAt, h.lines, last, row]
  have kept : e.lines.take (e.row - 1) = above := by simp [h.lines, last, row]
  have below_first : 0 < e.row := by omega
  simp only [Editor.backspace, col, Nat.lt_irrefl, if_false, below_first, if_true]
  refine ⟨?_, ?_, ?_⟩
  · simp [joinWithPrevious, touched, moveTo, setLines, previous, kept, h.line_eq, empty, h.below_eq]
  · simp [joinWithPrevious, touched, moveTo, row]
  · simp [joinWithPrevious, touched, moveTo, previous]

theorem backspace_start (no_row : g.above = []) (no_head : g.head = []) : e.backspace = e := by
  simp [Editor.backspace, h.row, h.col, no_row, no_head]

theorem flat_backspace : e.backspace.flat = e.flat.deletePrevious := by
  rcases List.eq_nil_or_concat g.head with no_head | ⟨head, c, last⟩
  · rcases List.eq_nil_or_concat g.above with no_row | ⟨above, line, last⟩
    · rw [h.backspace_start no_row no_head, h.flat_eq]
      simp [Gap.flat, Gap.before, no_row, no_head, FlatText.deletePrevious_start]
    · rw [List.concat_eq_append] at last
      rw [(h.backspace_row no_head last).flat_eq, h.flat_eq]
      have joined :=
        FlatText.deletePrevious_around (above.flatMap (· ++ (['\n'] : Text)) ++ line) g.behind '\n'
      simpa [Gap.flat, Gap.before, Gap.behind, no_head, last] using joined.symm
  · rw [List.concat_eq_append] at last
    rw [(h.backspace_char last).flat_eq, h.flat_eq]
    have shorter :=
      FlatText.deletePrevious_around (g.above.flatMap (· ++ (['\n'] : Text)) ++ head) g.behind c
    simpa [Gap.flat, Gap.before, Gap.behind, last] using shorter.symm

theorem flat_deleteChar :
    (e.act .deleteChar).flat =
      if e.col < e.line.length then e.flat.deleteNext 1 else e.flat := by
  cases tail : g.tail with
  | nil =>
      have at_end : ¬ e.col < e.line.length := by simp [h.line_eq, h.col, tail]
      simp [act, at_end]
  | cons c rest =>
      have inside : e.col < e.line.length := by simp [h.line_eq, h.col, tail]
      have left : e.line.drop (e.col + 1) = rest := by simp [h.line_eq, h.col, tail]
      have deleted : (e.act .deleteChar).At { g with tail := rest } := by
        simp only [act, inside, if_true]
        refine ⟨?_, h.row, h.col⟩
        simp [touched, h.setLine, h.head_eq, left]
      rw [deleted.flat_eq, if_pos inside, h.flat_eq]
      have shorter := FlatText.deleteNext_around g.before ({ g with tail := rest } : Gap).behind [c]
      simpa [Gap.flat, Gap.before, Gap.behind, tail] using shorter.symm

theorem flat_truncate :
    (e.act .truncate).flat = e.flat.deleteNext (e.line.length - e.col) := by
  have count : e.line.length - e.col = g.tail.length := by simp [h.line_eq, h.col]
  have truncated : (e.act .truncate).At { g with tail := [] } := by
    cases tail : g.tail with
    | nil =>
        have at_end : ¬ e.col < e.line.length := by simp [h.line_eq, h.col, tail]
        simp only [act, at_end, if_false]
        exact ⟨by simp [h.lines, tail], h.row, h.col⟩
    | cons c rest =>
        have inside : e.col < e.line.length := by simp [h.line_eq, h.col, tail]
        simp only [act, inside, if_true]
        refine ⟨?_, h.row, h.col⟩
        simp [touched, h.setLine, h.head_eq]
  rw [truncated.flat_eq, h.flat_eq, count]
  have shorter := FlatText.deleteNext_around g.before ({ g with tail := [] } : Gap).behind g.tail
  simpa [Gap.flat, Gap.before, Gap.behind] using shorter.symm

theorem flat_openBelow :
    (e.act .openBelow).flat =
      (e.flat.moveTo (e.flat.point - e.col + e.line.length)).insert (['\n'] : Text) := by
  have opened : (e.act .openBelow).At
      ⟨g.above ++ [g.head ++ g.tail], [], [], g.below⟩ := by
    refine ⟨?_, ?_, rfl⟩
    · simp [act, touched, withMode, moveTo, insertRows, setLines, h.upto_eq, h.below_eq]
    · simp [act, touched, withMode, moveTo, h.row]
  have line_end : e.flat.moveTo (e.flat.point - e.col + e.line.length) =
      .around (g.before ++ g.tail) (g.below.flatMap (.char '\n' :: ·)) := by
    simp [h.flat_eq, Gap.flat, Gap.before, Gap.behind, FlatText.moveTo, FlatText.around, h.line_eq,
      h.col]
  rw [opened.flat_eq, line_end, FlatText.insert_around]
  simp [Gap.flat, Gap.before, Gap.behind]

theorem flat_openAbove :
    (e.act .openAbove).flat =
      ((e.flat.moveTo (e.flat.point - e.col)).insert ['\n']).moveTo (e.flat.point - e.col) := by
  have opened : (e.act .openAbove).At ⟨g.above, [], [], (g.head ++ g.tail) :: g.below⟩ := by
    refine ⟨?_, h.row, rfl⟩
    simp [act, touched, withMode, moveTo, insertRows, setLines, h.lines, h.row]
  let rows := g.above.flatMap (· ++ (['\n'] : Text))
  have line_start : e.flat.point - e.col = rows.length := by
    simp [h.flat_eq, Gap.flat, Gap.before, FlatText.around, h.col, rows]
  have moved : e.flat.moveTo rows.length =
      .around rows (g.head ++ g.tail ++ g.below.flatMap (.char '\n' :: ·)) := by
    simp [h.flat_eq, Gap.flat, Gap.before, Gap.behind, FlatText.moveTo, FlatText.around, rows]
  rw [opened.flat_eq, line_start, moved, FlatText.insert_around]
  simp [Gap.flat, Gap.before, Gap.behind, FlatText.moveTo, FlatText.around, rows]

end At

end Editor
end PocketShell
