import PocketShell.Proofs.Editor.WellFormed

/-!
What an event does to the text and to the mark that it has changed. A key either edits, and then
the mark is set, or it leaves text and mark as they are. The rest is done by directives, which
never edit, and an editor closes only behind one of them or because the host closes it.
-/

namespace PocketShell.Editor

/-- The text is as it was and so is the mark, or the mark is set; nothing is closed. -/
def Marks (e after : Editor) : Prop :=
  after.closed = e.closed ∧
    (after.modified = true ∨ (after.lines = e.lines ∧ after.modified = e.modified))

theorem marks_self (e : Editor) : e.Marks e := ⟨rfl, .inr ⟨rfl, rfl⟩⟩

theorem marks_act (e : Editor) (a : Action) : e.Marks (e.act a) := by
  cases a with
  | left | down | up | right | lineStart | lineEnd | lastLine => exact ⟨rfl, .inr ⟨rfl, rfl⟩⟩
  | insertHere | insertAfter | startDelete | yankLine | startCommand => exact ⟨rfl, .inr ⟨rfl, rfl⟩⟩
  | openBelow | openAbove => exact ⟨rfl, .inl rfl⟩
  | deleteChar | truncate =>
      simp only [act]
      split
      · exact ⟨rfl, .inl rfl⟩
      · exact marks_self e
  | paste =>
      simp only [act, pasteRows]
      split
      · exact marks_self e
      · exact ⟨rfl, .inl rfl⟩

theorem marks_deleteMotion (e : Editor) (m : Motion) : e.Marks (e.deleteMotion m) := by
  cases m with
  | rows m => exact ⟨rfl, .inl rfl⟩
  | span m =>
      let removed := (e.line.drop (e.spanOf m).1).take ((e.spanOf m).2 - (e.spanOf m).1)
      by_cases nothing : removed.isEmpty
      · simpa [deleteMotion, deleteSpan, removed, nothing] using marks_self e
      · refine ⟨?_, .inl ?_⟩ <;>
          simp [deleteMotion, deleteSpan, removed, nothing, say, setLine]

theorem marks_pressNormal (e : Editor) (k : Key) : e.Marks (e.pressNormal k) := by
  simp only [pressNormal]
  split
  · cases k.motion? with
    | none => exact ⟨rfl, .inr ⟨rfl, rfl⟩⟩
    | some m => exact marks_deleteMotion { e with deleting := false } m
  · cases k.action? with
    | none => exact marks_self e
    | some a => exact marks_act e a

theorem marks_pressInsert (e : Editor) (k : Key) : e.Marks (e.pressInsert k) := by
  simp only [pressInsert]
  split
  · exact ⟨rfl, .inr ⟨rfl, rfl⟩⟩
  · split
    · exact ⟨rfl, .inl rfl⟩
    · split
      · simp only [backspace]
        split
        · exact ⟨rfl, .inl rfl⟩
        · split
          · exact ⟨rfl, .inl rfl⟩
          · exact marks_self e
      · cases k.typed? with
        | none => exact marks_self e
        | some c => exact ⟨rfl, .inl rfl⟩

/-- The directive that an event carries out, if it is one. -/
def directive? (e : Editor) : Event → Option Directive
  | .key k =>
      if e.closed = false ∧ e.mode = .command ∧ k.isEnter then some (Directive.ofText e.command)
      else none
  | .execute text => some (Directive.ofText text)
  | .save | .close => none

theorem asksToSave_of_directive {e : Editor} {event : Event} {d : Directive}
    (given : e.directive? event = some d) : e.asksToSave event = d.saves := by
  cases event with
  | key k =>
      simp only [directive?] at given
      split at given
      case isTrue typed =>
        cases given
        simp [asksToSave, savesOn, typed.1, typed.2.1, typed.2.2]
      case isFalse => cases given
  | execute text => cases given; rfl
  | save | close => cases given

/-- A directive is performed on the text as it stands, the command line being left before. -/
theorem step_of_directive {e : Editor} {event : Event} {d : Directive} (written : Bool)
    (given : e.directive? event = some d) :
    ∃ ready : Editor, ready.lines = e.lines ∧ ready.modified = e.modified ∧
      ready.closed = e.closed ∧ e.step written event = ready.perform written d := by
  cases event with
  | key k =>
      simp only [directive?] at given
      split at given
      case isTrue typed =>
        obtain ⟨still, mode, enter⟩ := typed
        cases given
        have not_escape : k.isEscape = false := by
          simp only [Key.isEnter, beq_iff_eq] at enter
          simp [Key.isEscape, enter]
        refine ⟨{ e with message := none, command := [], mode := .normal }, rfl, rfl, rfl, ?_⟩
        simp [step, press, still, mode, pressCommand, not_escape, enter, execute, withMode]
      case isFalse => cases given
  | execute text => cases given; exact ⟨e.withMode .normal, rfl, rfl, rfl, rfl⟩
  | save | close => cases given

theorem marks_pressCommand (e : Editor) (written : Bool) (k : Key) (not_enter : k.isEnter = false) :
    e.Marks (e.pressCommand written k) := by
  simp only [pressCommand]
  split
  · exact ⟨rfl, .inr ⟨rfl, rfl⟩⟩
  · split
    · rename_i enter
      simp [not_enter] at enter
    · split
      · exact ⟨rfl, .inr ⟨rfl, rfl⟩⟩
      · cases k.typed? with
        | none => exact marks_self e
        | some c => exact ⟨rfl, .inr ⟨rfl, rfl⟩⟩

/-- A key that carries out no directive edits at most, and asks for no save. -/
theorem marks_press {e : Editor} {k : Key} (written : Bool)
    (nothing_given : e.directive? (.key k) = none) :
    e.Marks (e.press written k) ∧ e.savesOn k = false := by
  cases closed : e.closed with
  | true =>
      rw [press_of_closed closed]
      exact ⟨marks_self e, by simp [savesOn, closed]⟩
  | false =>
      obtain ⟨normal, insert, command⟩ := press_of_open closed written k
      cases mode : e.mode with
      | normal =>
          rw [normal mode]
          exact ⟨marks_pressNormal { e with message := none } k, by simp [savesOn, mode]⟩
      | insert =>
          rw [insert mode]
          exact ⟨marks_pressInsert { e with message := none } k, by simp [savesOn, mode]⟩
      | command =>
          have not_enter : k.isEnter = false := by
            simpa [directive?, closed, mode] using nothing_given
          rw [command mode]
          exact ⟨marks_pressCommand { e with message := none } written k not_enter,
            by simp [savesOn, not_enter]⟩

theorem close_keeps (e : Editor) : e.close.lines = e.lines ∧ e.close.modified = e.modified := by
  simp only [close]
  split <;> exact ⟨rfl, rfl⟩

theorem save_lines (e : Editor) (written : Bool) : (e.save written).lines = e.lines := by
  cases written <;> rfl

theorem perform_lines (e : Editor) (written : Bool) (d : Directive) :
    (e.perform written d).lines = e.lines := by
  cases d with
  | write => cases written <;> rfl
  | quit =>
      simp only [perform]
      split
      · rfl
      · exact e.close_keeps.1
  | forceQuit => exact e.close_keeps.1
  | writeQuit =>
      cases written with
      | true => exact (e.save true).close_keeps.1
      | false => rfl
  | unknown text => rfl

/-- An event that asks for a save does not edit. -/
theorem lines_of_asks {e : Editor} {event : Event} (asks : e.asksToSave event = true)
    (written : Bool) : (e.step written event).lines = e.lines := by
  cases given : e.directive? event with
  | some d =>
      obtain ⟨ready, lines, _, _, performed⟩ := step_of_directive written given
      rw [performed, perform_lines, lines]
  | none =>
      cases event with
      | save => exact e.save_lines written
      | close => cases asks
      | execute text => cases given
      | key k =>
          have quiet := (marks_press written given).2
          exact absurd (quiet.symm.trans asks) Bool.noConfusion

/-- Only an accepted save takes the mark away. -/
theorem perform_modified (e : Editor) {written : Bool} {d : Directive}
    (unsaved : d.saves = true → written = false) :
    (e.perform written d).modified = e.modified := by
  cases d with
  | write | writeQuit => rw [unsaved rfl]; rfl
  | quit =>
      simp only [perform]
      split
      · rfl
      · exact e.close_keeps.2
  | forceQuit => exact e.close_keeps.2
  | unknown text => rfl

/-- A directive closes by force, with nothing unsaved, or after an accepted save. -/
theorem perform_closed {e : Editor} {written : Bool} {d : Directive} (still : e.closed = false)
    (closed : (e.perform written d).closed = true) :
    d = .forceQuit ∨ (d.saves = false ∧ e.modified = false) ∨
      (d.saves = true ∧ written = true) := by
  cases d with
  | forceQuit => exact .inl rfl
  | write =>
      cases written with
      | true => exact .inr (.inr ⟨rfl, rfl⟩)
      | false => simp [perform, save, say, still] at closed
  | quit =>
      simp only [perform] at closed
      split at closed
      · simp [say, still] at closed
      · rename_i unmarked
        exact .inr (.inl ⟨rfl, by simpa using unmarked⟩)
  | writeQuit =>
      cases written with
      | true => exact .inr (.inr ⟨rfl, rfl⟩)
      | false => simp [perform, save, say, still] at closed
  | unknown text => simp [perform, say, still] at closed

/-- Whether an event closes without regard to the text: the host's own closing, and `q!`. -/
def forces (e : Editor) : Event → Prop
  | .key k => e.mode = .command ∧ k.isEnter ∧ e.command = "q!"
  | .execute text => text = "q!"
  | .save => False
  | .close => True

theorem ofText_forceQuit {text : Text} (h : Directive.ofText text = .forceQuit) : text = "q!" := by
  simp only [Directive.ofText] at h
  split at h
  · cases h
  · split at h
    · cases h
    · split at h
      case isTrue same => exact same
      case isFalse => split at h <;> cases h

theorem forces_of_directive {e : Editor} {event : Event}
    (given : e.directive? event = some .forceQuit) : e.forces event := by
  cases event with
  | key k =>
      simp only [directive?] at given
      split at given
      case isTrue typed =>
        obtain ⟨_, mode, enter⟩ := typed
        exact ⟨mode, enter, ofText_forceQuit (Option.some.inj given)⟩
      case isFalse => cases given
  | execute text => exact ofText_forceQuit (Option.some.inj given)
  | save | close => cases given

/-- The text that counts as saved behind an event, given the text that counted before it. -/
def baseline (e : Editor) (written : Bool) (event : Event) (before : Text) : Text :=
  if e.asksToSave event && written then e.content else before

/-- What may be behind an event when `saved` counts as saved there: without a mark the text is the
saved one, and it is that one too if the event closes the editor without force. -/
structure Tracks (e after : Editor) (event : Event) (saved : Text) : Prop where
  unmarked : after.modified = false → after.content = saved
  leaving : e.closed = false → after.closed = true → after.content = saved ∨ e.forces event

theorem content_of_lines {e after : Editor} (lines : after.lines = e.lines) :
    after.content = e.content := by
  simp [content, lines]

variable {e : Editor} {event : Event} {before : Text}

theorem tracks_of_directive {d : Directive} (written : Bool)
    (given : e.directive? event = some d) (h : e.modified = false → e.content = before) :
    e.Tracks (e.step written event) event (e.baseline written event before) := by
  obtain ⟨ready, lines, modified, closed, performed⟩ := step_of_directive written given
  have asks := asksToSave_of_directive given
  have same : (ready.perform written d).content = e.content :=
    content_of_lines ((ready.perform_lines written d).trans lines)
  rw [performed]
  cases saved : d.saves && written with
  | true =>
      have counts : e.baseline written event before = e.content := by
        simp [baseline, asks, saved]
      rw [counts]
      exact ⟨fun _ => same, fun _ _ => .inl same⟩
  | false =>
      have counts : e.baseline written event before = before := by
        simp [baseline, asks, saved]
      have unsaved : d.saves = true → written = false := by simpa using saved
      rw [counts]
      refine ⟨fun unmarked => ?_, fun still leaves => ?_⟩
      · rw [ready.perform_modified unsaved, modified] at unmarked
        exact same.trans (h unmarked)
      · rcases perform_closed (closed.trans still) leaves with
          rfl | ⟨_, unmarked⟩ | ⟨saves, accepted⟩
        · exact .inr (forces_of_directive given)
        · exact .inl (same.trans (h (modified ▸ unmarked)))
        · simp [saves, accepted] at saved

theorem tracks_of_key {k : Key} (written : Bool) (nothing_given : e.directive? (.key k) = none)
    (h : e.modified = false → e.content = before) :
    e.Tracks (e.press written k) (.key k) (e.baseline written (.key k) before) := by
  obtain ⟨⟨closed, marks⟩, asks⟩ := marks_press written nothing_given
  have counts : e.baseline written (.key k) before = before := by
    simp [baseline, asksToSave, asks]
  rw [counts]
  refine ⟨fun unmarked => ?_, fun still leaves => ?_⟩
  · rcases marks with marked | ⟨lines, modified⟩
    · simp [unmarked] at marked
    · exact (content_of_lines lines).trans (h (modified ▸ unmarked))
  · simp [closed, still] at leaves

/-- No event takes the text away from what counts as saved without a mark, and none but the forced
ones closes on another text. -/
theorem step_tracks (written : Bool) (event : Event) (h : e.modified = false → e.content = before) :
    e.Tracks (e.step written event) event (e.baseline written event before) := by
  cases event with
  | execute text => exact tracks_of_directive written rfl h
  | key k =>
      cases given : e.directive? (.key k) with
      | some d => exact tracks_of_directive written given h
      | none => exact tracks_of_key written given h
  | save =>
      have same : (e.save written).content = e.content := content_of_lines (e.save_lines written)
      cases written with
      | true => exact ⟨fun _ => same, fun _ _ => .inl same⟩
      | false =>
          refine ⟨fun unmarked => same.trans (h unmarked), fun still leaves => ?_⟩
          simp [step, save, say, still] at leaves
  | close =>
      have same : e.close.content = e.content := content_of_lines e.close_keeps.1
      refine ⟨fun unmarked => same.trans (h ?_), fun _ _ => .inr trivial⟩
      exact e.close_keeps.2 ▸ unmarked

end PocketShell.Editor
