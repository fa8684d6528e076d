import PocketShell.Proofs.Editor.Unsaved

/-!
Editors whose lines have no line feed in them. Such an editor can be opened again on its content
and has the same lines. Every editor is one when it is opened, and it stays one as long as nobody
types a line feed: what an edit puts into a line comes from other lines or is a typed character,
and what is pasted is cut at its line feeds first.
-/

namespace PocketShell.Editor

/-- There is a line, and no line has a line feed in it. -/
structure Unbroken (e : Editor) : Prop where
  some_line : e.lines ≠ []
  whole : ∀ line ∈ e.lines, .char '\n' ∉ line

theorem Unbroken.lines_content {e : Editor} (h : e.Unbroken) : Text.lines e.content = e.lines :=
  Text.lines_unlines h.some_line h.whole

theorem unbroken_ofFile (file content : Text) : (ofFile file content).Unbroken where
  some_line := Text.lines_ne_nil content
  whole _ mem := Text.not_mem_of_mem_splitOn mem

namespace Unbroken

variable {e after : Editor}

theorem of_lines (h : e.Unbroken) (same : after.lines = e.lines) : after.Unbroken := by
  obtain ⟨some_line, whole⟩ := h
  rw [← same] at some_line whole
  exact ⟨some_line, whole⟩

/-- New lines may stand among the old ones if there is no line feed in them. -/
theorem of_mem (h : e.Unbroken) (some_line : after.lines ≠ [])
    (each : ∀ line ∈ after.lines, line ∈ e.lines ∨ .char '\n' ∉ line) : after.Unbroken where
  some_line := some_line
  whole line mem := (each line mem).elim (h.whole line) id

theorem lineAt (h : e.Unbroken) (row : Nat) : .char '\n' ∉ e.lineAt row := by
  rw [Editor.lineAt]
  cases here : e.lines[row]? with
  | none => exact List.not_mem_nil
  | some line => exact h.whole line (List.mem_of_getElem? here)

theorem take (h : e.Unbroken) (n : Nat) : .char '\n' ∉ e.line.take n :=
  fun mem => h.lineAt e.row (List.mem_of_mem_take mem)

theorem drop (h : e.Unbroken) (n : Nat) : .char '\n' ∉ e.line.drop n :=
  fun mem => h.lineAt e.row (List.mem_of_mem_drop mem)

theorem take_drop (h : e.Unbroken) (n m : Nat) : .char '\n' ∉ e.line.take n ++ e.line.drop m := by
  rw [List.mem_append, not_or]
  exact ⟨h.take n, h.drop m⟩

theorem setLine (h : e.Unbroken) {line : Text} (free : .char '\n' ∉ line) :
    (e.setLine line).Unbroken := by
  refine h.of_mem ?_ fun other mem => ?_
  · simpa [Editor.setLine] using h.some_line
  · rcases List.mem_or_eq_of_mem_set mem with old | rfl
    · exact .inl old
    · exact .inr free

/-- The rows from `start` up to `stop` give way to other ones. -/
theorem splice (h : e.Unbroken) (start stop : Nat) {rows : List Text} (some_row : rows ≠ [])
    (free : ∀ row ∈ rows, .char '\n' ∉ row) :
    (e.setLines (e.lines.take start ++ rows ++ e.lines.drop stop)).Unbroken := by
  refine h.of_mem ?_ fun line mem => ?_
  · simp [Editor.setLines, some_row]
  · rcases List.mem_append.mp mem with above | below
    · rcases List.mem_append.mp above with above | new
      · exact .inl (List.mem_of_mem_take above)
      · exact .inr (free line new)
    · exact .inl (List.mem_of_mem_drop below)

theorem openRow (h : e.Unbroken) (row : Nat) : (e.insertRows row [[]]).Unbroken :=
  h.splice row row (by simp) (by simp)

theorem pasteRows (h : e.Unbroken) : e.pasteRows.Unbroken := by
  simp only [Editor.pasteRows]
  split
  · exact h
  · refine Unbroken.of_lines (h.splice (e.row + 1) (e.row + 1) (Text.lines_ne_nil e.yank) ?_) rfl
    exact fun _ mem => Text.not_mem_of_mem_splitOn mem

theorem act (h : e.Unbroken) (a : Action) : (e.act a).Unbroken := by
  cases a with
  | left | down | up | right | lineStart | lineEnd | lastLine => exact h.of_lines rfl
  | insertHere | insertAfter | startDelete | yankLine | startCommand => exact h.of_lines rfl
  | openBelow => exact (h.openRow (e.row + 1)).of_lines rfl
  | openAbove => exact (h.openRow e.row).of_lines rfl
  | deleteChar =>
      simp only [Editor.act]
      split
      · exact (h.setLine (h.take_drop e.col (e.col + 1))).of_lines rfl
      · exact h
  | truncate =>
      simp only [Editor.act]
      split
      · exact (h.setLine (h.take e.col)).of_lines rfl
      · exact h
  | paste => exact h.pasteRows

theorem deleteRows (h : e.Unbroken) (start count : Nat) : (e.deleteRows start count).Unbroken := by
  let kept := e.lines.take start ++ e.lines.drop (start + count)
  have old : ∀ line ∈ kept, line ∈ e.lines := by
    intro line mem
    rcases List.mem_append.mp mem with above | below
    · exact List.mem_of_mem_take above
    · exact List.mem_of_mem_drop below
  have left : (e.deleteRows start count).lines = if kept.isEmpty then [[]] else kept := rfl
  by_cases none_kept : kept.isEmpty
  · rw [if_pos none_kept] at left
    exact h.of_mem (by simp [left]) (by simp [left])
  · rw [if_neg none_kept] at left
    refine h.of_mem ?_ fun line mem => .inl (old line (left ▸ mem))
    simpa [left] using none_kept

theorem deleteMotion (h : e.Unbroken) (m : Motion) : (e.deleteMotion m).Unbroken := by
  cases m with
  | rows m => exact h.deleteRows _ _
  | span m =>
      simp only [Editor.deleteMotion, Editor.deleteSpan]
      split
      · exact h
      · exact (h.setLine (h.take_drop _ _)).of_lines rfl

theorem pressNormal (h : e.Unbroken) (k : Key) : (e.pressNormal k).Unbroken := by
  simp only [Editor.pressNormal]
  split
  · have idle : Unbroken { e with deleting := false } := h.of_lines rfl
    cases k.motion? with
    | none => exact idle
    | some m => exact idle.deleteMotion m
  · cases k.action? with
    | none => exact h
    | some a => exact h.act a

theorem insertChar (h : e.Unbroken) {c : CodePoint} (visible : c ≠ '\n') :
    (e.insertChar c).Unbroken := by
  have free : .char '\n' ∉ e.line.take e.col ++ c :: e.line.drop e.col := by
    simp [h.take e.col, h.drop e.col, visible.symm]
  exact (h.setLine free).of_lines rfl

theorem splitLine (h : e.Unbroken) : e.splitLine.Unbroken := by
  have parts : ∀ part ∈ [e.line.take e.col, e.line.drop e.col], .char '\n' ∉ part := by
    simp [h.take e.col, h.drop e.col]
  exact (h.splice e.row (e.row + 1) (by simp) parts).of_lines rfl

theorem backspace (h : e.Unbroken) : e.backspace.Unbroken := by
  simp only [Editor.backspace]
  split
  · exact (h.setLine (h.take_drop (e.col - 1) e.col)).of_lines rfl
  · split
    · have joined : ∀ row ∈ [e.lineAt (e.row - 1) ++ e.line], .char '\n' ∉ row := by
        simp [h.lineAt (e.row - 1), show .char '\n' ∉ e.line from h.lineAt e.row]
      exact (h.splice (e.row - 1) (e.row + 1) (by simp) joined).of_lines rfl
    · exact h

theorem pressInsert (h : e.Unbroken) {k : Key} (no_feed : k.name ≠ (['\n'] : Text)) :
    (e.pressInsert k).Unbroken := by
  simp only [Editor.pressInsert]
  split
  · exact h.of_lines rfl
  · split
    · exact h.splitLine
    · split
      · exact h.backspace
      · cases typed : k.typed? with
        | none => exact h
        | some c =>
            refine h.insertChar fun feed => no_feed ?_
            simp only [Key.typed?] at typed
            split at typed
            · next name =>
              split at typed
              · cases typed
              · cases typed
                rw [name, feed]
            · cases typed

theorem pressCommand (h : e.Unbroken) (written : Bool) (k : Key) :
    (e.pressCommand written k).Unbroken := by
  refine h.of_lines ?_
  simp only [Editor.pressCommand]
  split
  · rfl
  · split
    · exact Editor.perform_lines _ written _
    · split
      · rfl
      · cases k.typed? <;> rfl

theorem press (h : e.Unbroken) (written : Bool) {k : Key} (no_feed : k.name ≠ (['\n'] : Text)) :
    (e.press written k).Unbroken := by
  cases closed : e.closed with
  | true => rwa [press_of_closed closed]
  | false =>
      obtain ⟨normal, insert, command⟩ := press_of_open closed written k
      have quiet : Unbroken { e with message := none } := h.of_lines rfl
      cases mode : e.mode with
      | normal =>
          rw [normal mode]
          exact quiet.pressNormal k
      | insert =>
          rw [insert mode]
          exact quiet.pressInsert no_feed
      | command =>
          rw [command mode]
          exact quiet.pressCommand written k

theorem step (h : e.Unbroken) (written : Bool) {event : Event}
    (no_feed : ∀ k, event = .key k → k.name ≠ (['\n'] : Text)) :
    (e.step written event).Unbroken := by
  cases event with
  | key k => exact h.press written (no_feed k rfl)
  | execute text => exact h.of_lines (Editor.perform_lines _ written _)
  | save => exact h.of_lines (e.save_lines written)
  | close => exact h.of_lines e.close_keeps.1

end Unbroken
end PocketShell.Editor
