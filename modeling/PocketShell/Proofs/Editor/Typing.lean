import Mathlib.Data.List.Induction
import PocketShell.Proofs.Editor.Gap

/-!
Keys at the gap. Every key that edits at the cursor does to the content, at the offset, what it
does to the rows; and since a Backspace undoes the key that was typed last, as many of them as keys
were typed leave the buffer as it was before.
-/

namespace PocketShell

namespace Key

variable {k : Key}

theorem typed_name {c : CodePoint} (typed : k.typed? = some c) : k.name = [c] := by
  simp only [typed?] at typed
  split at typed
  · next c' name =>
    split at typed
    · cases typed
    · cases typed
      exact name
  · cases typed

/-- A key that is named by a character is none of the keys with longer names. -/
theorem letter_not_named {c : CodePoint} (name : k.name = [c]) :
    k.isEscape = false ∧ k.isEnter = false ∧ k.isBackspace = false := by
  simp [isEscape, isEnter, isBackspace, name]

theorem typed_not_named {c : CodePoint} (typed : k.typed? = some c) :
    k.isEscape = false ∧ k.isEnter = false ∧ k.isBackspace = false :=
  letter_not_named (typed_name typed)

theorem enter_not_escape (enter : k.isEnter) : k.isEscape = false := by
  have name : k.name = "Enter" := by simpa [isEnter] using enter
  simp [isEscape, name]

theorem backspace_not_others (backspace : k.isBackspace) :
    k.isEscape = false ∧ k.isEnter = false := by
  have name : k.name = "Backspace" := by simpa [isBackspace] using backspace
  simp [isEscape, isEnter, name]

theorem inserts?_of_typed {c : CodePoint} (typed : k.typed? = some c) : k.inserts? = some c := by
  simp [inserts?, (typed_not_named typed).2.1, typed]

theorem inserts?_of_enter (enter : k.isEnter) : k.inserts? = some (.char '\n') := by
  simp [inserts?, enter]

/-- What a key asks for in normal mode is told from its name and the shift key alone. -/
theorem action?_eq (k : Key) : k.action? = action? { name := k.name, shift := k.shift } := rfl

theorem action?_of_isSmall {letter : CodePoint} (small : k.isSmall letter) :
    k.action? = action? { name := [letter] } := by
  have typed : k.name = [letter] ∧ k.shift = false := by simpa [isSmall] using small
  rw [action?_eq, typed.1, typed.2]

theorem action?_of_isCapital {capital small : CodePoint} (asks : k.isCapital capital small) :
    k.action? = action? { name := [capital] } ∨
      k.action? = action? { name := [capital], shift := true } ∨
      k.action? = action? { name := [small], shift := true } := by
  have typed : k.name = [capital] ∨ k.name = [small] ∧ k.shift = true := by
    simpa [isCapital] using asks
  rw [action?_eq]
  rcases typed with name | ⟨name, shift⟩
  · cases shift : k.shift with
    | false => exact .inl (by rw [name])
    | true => exact .inr (.inl (by rw [name]))
  · exact .inr (.inr (by rw [name, shift]))

end Key

namespace Editor

/-- An open editor in insert mode. -/
structure Inserting (e : Editor) : Prop where
  still : e.closed = false
  mode : e.mode = .insert

variable {e : Editor} {g : Gap} {k : Key}

theorem Inserting.press_eq (h : e.Inserting) (written : Bool) (k : Key) :
    e.press written k = { e with message := none }.pressInsert k :=
  (press_of_open h.still written k).2.1 h.mode

/-- The message of an editor has no part in its gap. -/
theorem At.quiet (h : e.At g) : At { e with message := none } g := ⟨h.lines, h.row, h.col⟩

theorem press_push (h : e.Inserting) (here : e.At g) (written : Bool) {c : CodePoint}
    (inserts : k.inserts? = some c) :
    (e.press written k).Inserting ∧ (e.press written k).At (g.push k) := by
  rw [h.press_eq written k]
  simp only [Key.inserts?] at inserts
  cases enter : k.isEnter with
  | true =>
      have no_escape := Key.enter_not_escape enter
      simp only [pressInsert, Gap.push, no_escape, enter, Bool.false_eq_true, if_false, if_true]
      exact ⟨⟨h.still, h.mode⟩, here.quiet.splitLine⟩
  | false =>
      simp only [enter, Bool.false_eq_true, if_false] at inserts
      obtain ⟨no_escape, _, no_backspace⟩ := Key.typed_not_named inserts
      simp only [pressInsert, Gap.push, no_escape, enter, no_backspace, inserts,
        Bool.false_eq_true, if_false]
      exact ⟨⟨h.still, h.mode⟩, here.quiet.insertChar c⟩

theorem press_backspace (h : e.Inserting) (written : Bool) (backspace : k.isBackspace) :
    (e.press written k).Inserting ∧
      e.press written k = { e with message := none }.backspace := by
  obtain ⟨no_escape, no_enter⟩ := Key.backspace_not_others backspace
  have pressed : e.press written k = { e with message := none }.backspace := by
    rw [h.press_eq written k]
    simp [pressInsert, no_escape, no_enter, backspace]
  refine ⟨?_, pressed⟩
  rw [pressed]
  simp only [Editor.backspace]
  split
  · exact ⟨h.still, h.mode⟩
  · split <;> exact ⟨h.still, h.mode⟩

/-- Backspace takes off what a key has pushed. -/
theorem press_backspace_push (h : e.Inserting) (here : e.At (g.push k)) {c : CodePoint}
    (inserts : k.inserts? = some c) (written : Bool) {back : Key} (backspace : back.isBackspace) :
    (e.press written back).Inserting ∧ (e.press written back).At g := by
  obtain ⟨inserting, pressed⟩ := press_backspace h written backspace
  refine ⟨inserting, ?_⟩
  rw [pressed]
  simp only [Key.inserts?] at inserts
  cases enter : k.isEnter with
  | true =>
      simp only [Gap.push, enter, if_true] at here
      exact here.quiet.backspace_row rfl rfl
  | false =>
      simp only [enter, Bool.false_eq_true, if_false] at inserts
      simp only [Gap.push, enter, inserts, Bool.false_eq_true, if_false] at here
      exact here.quiet.backspace_char rfl

theorem pressAll_push (h : e.Inserting) (here : e.At g) {keys : List (Bool × Key)}
    (insert : ∀ entry ∈ keys, (entry.2.inserts?).isSome) :
    (e.pressAll keys).Inserting ∧ (e.pressAll keys).At (g.pushAll keys) := by
  induction keys generalizing e g with
  | nil => exact ⟨h, here⟩
  | cons first keys ih =>
      obtain ⟨c, inserts⟩ := Option.isSome_iff_exists.mp (insert first List.mem_cons_self)
      obtain ⟨inserting, pushed⟩ := press_push h here first.1 inserts
      exact ih inserting pushed fun entry mem => insert entry (List.mem_cons_of_mem first mem)

/-- As many Backspaces as keys were typed take off all that these have pushed. The last key is the
first to go, so the induction is on the typed keys from behind. -/
theorem pressAll_backspace (h : e.Inserting) {keys back : List (Bool × Key)}
    (insert : ∀ entry ∈ keys, (entry.2.inserts?).isSome) (here : e.At (g.pushAll keys))
    (count : back.length = keys.length) (backspaces : ∀ entry ∈ back, entry.2.isBackspace) :
    (e.pressAll back).At g := by
  induction keys using List.reverseRecOn generalizing e back with
  | nil =>
      have nothing : back = [] := by simpa using count
      simpa [nothing, pressAll, Gap.pushAll] using here
  | append_singleton keys last ih =>
      obtain ⟨first, rest, rfl⟩ : ∃ first rest, back = first :: rest := by
        cases back with
        | nil => simp at count
        | cons first rest => exact ⟨first, rest, rfl⟩
      obtain ⟨c, inserts⟩ := Option.isSome_iff_exists.mp (insert last (by simp))
      have pushed : e.At ((g.pushAll keys).push last.2) := by
        simpa [Gap.pushAll, List.foldl_append] using here
      obtain ⟨inserting, popped⟩ := press_backspace_push h pushed inserts first.1
        (backspaces first List.mem_cons_self)
      apply ih inserting
      · intro entry mem
        exact insert entry (by simp [mem])
      · exact popped
      · simpa using count
      · intro entry mem
        exact backspaces entry (List.mem_cons_of_mem first mem)

theorem inserts_of_map {keys : List (Bool × Key)} {text : Text}
    (inserts : keys.map (·.2.inserts?) = text.map some) :
    ∀ entry ∈ keys, (entry.2.inserts?).isSome := by
  intro entry mem
  have typed : entry.2.inserts? ∈ text.map some := inserts ▸ List.mem_map_of_mem mem
  obtain ⟨c, _, same⟩ := List.mem_map.mp typed
  simp [← same]

/-- What is typed is inserted at the offset, and as many Backspaces bring the buffer back. -/
theorem typing_inserts (h : e.Inserting) (here : e.At g) {keys : List (Bool × Key)} {text : Text}
    (inserts : keys.map (·.2.inserts?) = text.map some) :
    (e.pressAll keys).flat = e.flat.insert text ∧
      ∀ back : List (Bool × Key), back.length = text.length →
        (∀ entry ∈ back, entry.2.isBackspace) → ((e.pressAll keys).pressAll back).At g := by
  have insert := inserts_of_map inserts
  obtain ⟨typing, pushed⟩ := pressAll_push h here insert
  constructor
  · rw [pushed.flat_eq, g.flat_pushAll inserts, here.flat_eq]
  · intro back count backspaces
    have as_many : back.length = keys.length := by
      have length := congrArg List.length inserts
      simp only [List.length_map] at length
      omega
    exact pressAll_backspace typing insert pushed as_many backspaces

theorem press_inserts (h : e.Inserting) (here : e.At g) (written : Bool) {c : CodePoint}
    (inserts : k.inserts? = some c) : (e.press written k).flat = e.flat.insert [c] := by
  rw [(press_push h here written inserts).2.flat_eq, g.flat_push inserts, here.flat_eq]

theorem press_backspace_flat (h : e.Inserting) (here : e.At g) (written : Bool)
    (backspace : k.isBackspace) : (e.press written k).flat = e.flat.deletePrevious := by
  rw [(press_backspace h written backspace).2]
  exact here.quiet.flat_backspace

theorem col_le_offset (e : Editor) : e.col ≤ e.offset := by
  simp [Editor.offset, offset_from]

/-- What an open editor does with a key in normal mode when no delete is waiting. -/
theorem press_act (still : e.closed = false) (normal : e.mode = .normal)
    (not_deleting : e.deleting = false) (written : Bool) {a : Action} (asks : k.action? = some a) :
    e.press written k = { e with message := none }.act a := by
  rw [(press_of_open still written k).1 normal]
  simp [pressNormal, not_deleting, asks]

/-- The keys that edit at the cursor edit the content at the offset. In insert mode a printable key
and Enter insert a character, and Backspace deletes the one before. In normal mode `x` deletes the
character behind unless the line ends there, `D` deletes to the end of the line, `o` and `O` insert
a line feed at the end and at the start of the line; and what is typed behind `i` is inserted, until
as many Backspaces have taken it away again. -/
theorem keys_edit_at_offset (e : Editor) (still : e.closed = false)
    (row_lt : e.row < e.lines.length) (col_le : e.col ≤ e.line.length) (written : Bool) (k : Key) :
    let after := e.press written k
    (e.mode = .insert →
      (∀ c, k.typed? = some c → after.flat = e.flat.insert [c]) ∧
      (k.isEnter → after.flat = e.flat.insert ['\n']) ∧
      (k.isBackspace → after.flat = e.flat.deletePrevious)) ∧
    (e.mode = .normal → e.deleting = false →
      let lineStart := e.offset - e.col
      let lineEnd := lineStart + e.line.length
      (k.isSmall 'x' →
        after.flat = if e.col < e.line.length then e.flat.deleteNext 1 else e.flat) ∧
      (k.isCapital 'D' 'd' → after.flat = e.flat.deleteNext (lineEnd - e.offset)) ∧
      (k.isSmall 'o' → after.flat = (e.flat.moveTo lineEnd).insert ['\n']) ∧
      (k.isCapital 'O' 'o' →
        after.flat = ((e.flat.moveTo lineStart).insert ['\n']).moveTo lineStart) ∧
      (k.isSmall 'i' → ∀ (keys : List (Bool × Key)) (text : Text),
        keys.map (·.2.inserts?) = text.map some →
        let typed := after.pressAll keys
        typed.flat = e.flat.insert text ∧
        ∀ back : List (Bool × Key), back.length = text.length →
          (∀ entry ∈ back, entry.2.isBackspace) →
          let restored := typed.pressAll back
          restored.flat = e.flat ∧ restored.lines = e.lines ∧ restored.row = e.row ∧
            restored.col = e.col)) := by
  intro after
  obtain ⟨g, here⟩ := exists_at row_lt col_le
  constructor
  · intro insert
    have inserting : e.Inserting := ⟨still, insert⟩
    refine ⟨fun c typed => ?_, fun enter => ?_, fun backspace => ?_⟩
    · exact press_inserts inserting here written (Key.inserts?_of_typed typed)
    · exact press_inserts inserting here written (Key.inserts?_of_enter enter)
    · exact press_backspace_flat inserting here written backspace
  · intro normal not_deleting lineStart lineEnd
    have acts {a : Action} (asks : k.action? = some a) :
        after = { e with message := none }.act a :=
      press_act still normal not_deleting written asks
    refine ⟨fun x => ?_, fun d => ?_, fun o => ?_, fun o => ?_, fun i => ?_⟩
    · rw [acts (Key.action?_of_isSmall x)]
      exact here.quiet.flat_deleteChar
    · have asks : k.action? = some .truncate := by
        rcases Key.action?_of_isCapital d with asks | asks | asks <;> exact asks
      have count : lineEnd - e.offset = e.line.length - e.col := by
        have above := e.col_le_offset
        omega
      rw [acts asks, count]
      exact here.quiet.flat_truncate
    · rw [acts (Key.action?_of_isSmall o)]
      exact here.quiet.flat_openBelow
    · have asks : k.action? = some .openAbove := by
        rcases Key.action?_of_isCapital o with asks | asks | asks <;> exact asks
      rw [acts asks]
      exact here.quiet.flat_openAbove
    · intro keys text inserts typed
      have started : after = { e with message := none }.act .insertHere :=
        acts (Key.action?_of_isSmall i)
      have inserting : after.Inserting := started ▸ ⟨still, rfl⟩
      have at_start : after.At g := started ▸ ⟨here.lines, here.row, here.col⟩
      obtain ⟨inserted, erased⟩ := typing_inserts inserting at_start inserts
      have same : after.flat = e.flat := at_start.flat_eq.trans here.flat_eq.symm
      refine ⟨same ▸ inserted, fun back count backspaces => ?_⟩
      have at_end := erased back count backspaces
      exact ⟨at_end.flat_eq.trans here.flat_eq.symm, at_end.lines.trans here.lines.symm,
        at_end.row.trans here.row.symm, at_end.col.trans here.col.symm⟩

def twoLines (mode : Mode) : Editor :=
  { file := "notes", lines := ["ab", "cd"], row := 1, mode := mode }

/-- At the start of the second line, Backspace in insert mode, and a letter and a line feed typed
behind `i`. -/
theorem twoLines_edited :
    let inserting := twoLines .insert
    let normal := twoLines .normal
    let keys := [(true, Key.plain "x"), (true, .plain "Enter")]
    let back := [(true, Key.plain "Backspace"), (true, .plain "Backspace")]
    let typed := (normal.press true (.plain "i")).pressAll keys
    (inserting.closed = false ∧ inserting.row < inserting.lines.length ∧
      inserting.col ≤ inserting.line.length) ∧
    (normal.closed = false ∧ normal.row < normal.lines.length ∧
      normal.col ≤ normal.line.length) ∧
    (inserting.press true (.plain "Backspace")).flat = inserting.flat.deletePrevious ∧
    inserting.flat.deletePrevious = ⟨"abcd", 2⟩ ∧
    typed.flat = normal.flat.insert "x\n" ∧ normal.flat.insert "x\n" = ⟨"ab\nx\ncd", 5⟩ ∧
    (typed.pressAll back).lines = normal.lines := by
  intro inserting normal keys back typed
  have ready : inserting.closed = false ∧ inserting.row < inserting.lines.length ∧
      inserting.col ≤ inserting.line.length := by decide
  have ready' : normal.closed = false ∧ normal.row < normal.lines.length ∧
      normal.col ≤ normal.line.length := by decide
  obtain ⟨_, _, erases⟩ :=
    (keys_edit_at_offset inserting ready.1 ready.2.1 ready.2.2 true (.plain "Backspace")).1 rfl
  obtain ⟨_, _, _, _, types⟩ :=
    (keys_edit_at_offset normal ready'.1 ready'.2.1 ready'.2.2 true (.plain "i")).2 rfl rfl
  obtain ⟨inserted, restored⟩ := types (by decide) keys "x\n" (by decide)
  obtain ⟨_, lines, _⟩ := restored back (by decide) (by decide)
  exact ⟨ready, ready', erases (by decide), by decide, inserted, by decide, lines⟩

end Editor
end PocketShell
