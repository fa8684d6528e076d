import PocketShell.Proofs.Editor.Checked
import PocketShell.Proofs.Editor.Unsaved

/-!
What the key behind `d` takes away. A motion in the line takes a span of columns, which its key
names by the cursor, the ends of the line and the word at the cursor; a motion over rows takes one
or two whole rows. What is taken is what goes to the yank buffer, and an empty span takes nothing
and leaves no trace. Any other key only ends the waiting.
-/

namespace PocketShell

/-- Characters that are not blank, and blanks behind them. -/
def IsWord (t : Text) : Prop :=
  ∃ word blanks, t = word ++ blanks ∧ word ≠ [] ∧ (∀ c ∈ word, isBlank c = false) ∧
    ∀ c ∈ blanks, isBlank c = true

/-- The longest word that a text begins with; it is empty if the text begins with none. -/
structure LongestWord (t word : Text) : Prop where
  here : word <+: t
  is_word : word ≠ [] → IsWord word
  longest : ∀ other, IsWord other → other <+: t → other.length ≤ word.length

namespace Editor

theorem length_le_takeWhile {p : CodePoint → Bool} {front : Text} (rest : Text)
    (all : ∀ c ∈ front, p c = true) : front.length ≤ ((front ++ rest).takeWhile p).length := by
  rw [List.takeWhile_append_of_pos all, List.length_append]
  exact Nat.le_add_right _ _

theorem isWord_take_wordLength {t : Text} (some_word : t.take (wordLength t) ≠ []) :
    IsWord (t.take (wordLength t)) := by
  let word := t.takeWhile fun c => !isBlank c
  let blanks := (t.drop word.length).takeWhile isBlank
  have length : wordLength t = if word.isEmpty then 0 else word.length + blanks.length := rfl
  have word_eq : t.take word.length = word :=
    (List.prefix_iff_eq_take.mp (List.takeWhile_prefix _)).symm
  have blanks_eq : (t.drop word.length).take blanks.length = blanks :=
    (List.prefix_iff_eq_take.mp (List.takeWhile_prefix _)).symm
  have visible : ∀ c ∈ word, isBlank c = false := by
    simpa using List.all_eq_true.mp (List.all_takeWhile (p := fun c => !isBlank c) (l := t))
  have blank : ∀ c ∈ blanks, isBlank c = true := List.all_eq_true.mp List.all_takeWhile
  rw [length] at some_word ⊢
  split at some_word
  · exact absurd rfl some_word
  · next filled =>
    rw [if_neg filled, List.take_add, word_eq, blanks_eq]
    exact ⟨word, blanks, rfl, by simpa using filled, visible, blank⟩

/-- The blanks of a word stand where its other characters end, so they are read to their end. -/
theorem length_le_wordLength {t word : Text} (is_word : IsWord word) (here : word <+: t) :
    word.length ≤ wordLength t := by
  obtain ⟨front, blanks, rfl, some_front, visible, blank⟩ := is_word
  obtain ⟨rest, rfl⟩ := here
  have visible' : ∀ c ∈ front, (!isBlank c) = true := by simpa using visible
  have front_le := length_le_takeWhile (blanks ++ rest) visible'
  rw [List.append_assoc]
  have read : ((front ++ (blanks ++ rest)).takeWhile fun c => !isBlank c) ≠ [] := by
    rw [List.takeWhile_append_of_pos visible']
    exact List.append_ne_nil_of_left_ne_nil some_front _
  simp only [wordLength, List.isEmpty_iff, read, if_false]
  cases blanks with
  | nil =>
      simp only [List.nil_append, List.append_nil] at front_le ⊢
      omega
  | cons c blanks =>
      have ends : ((front ++ (c :: blanks ++ rest)).takeWhile fun c => !isBlank c) = front := by
        rw [List.takeWhile_append_of_pos visible']
        simp [blank c]
      rw [ends, List.drop_left, List.length_append]
      exact Nat.add_le_add_left (length_le_takeWhile rest blank) _

theorem longestWord_take (t : Text) : LongestWord t (t.take (wordLength t)) where
  here := List.take_prefix _ t
  is_word := isWord_take_wordLength
  longest other is_word here := by
    rw [List.length_take, Nat.min_eq_left (wordLength_le t)]
    exact length_le_wordLength is_word here

/-- Nothing waits any more, and what a motion does not touch is as it was. -/
structure EndsWaiting (e after : Editor) : Prop where
  not_deleting : after.deleting = false
  file : after.file = e.file
  mode : after.mode = e.mode
  command : after.command = e.command
  closed : after.closed = e.closed

/-- The current line loses the columns from `start` up to `stop`, and the cursor goes to where they
were. An empty span leaves neither a mark nor a message. -/
structure LosesSpan (e after : Editor) (start stop : Nat) : Prop where
  start_le : start ≤ stop
  stop_le : stop ≤ e.line.length
  lines : after.lines = e.lines.set e.row (e.line.take start ++ e.line.drop stop)
  row : after.row = e.row
  col : after.col = start
  of_lt : start < stop → after.yank = (e.line.drop start).take (stop - start) ∧
    after.modified = true ∧ after.message = some ("deleted" : Text)
  of_eq : start = stop → after.yank = e.yank ∧ after.modified = e.modified ∧ after.message = none

/-- The buffer loses as many rows as `count` from `start` on, and the cursor goes to the row behind
them or else to the last one. A buffer that loses all its rows has an empty one. -/
structure LosesRows (e after : Editor) (start count : Nat) : Prop where
  some_row : 0 < count
  inside : start + count ≤ e.lines.length
  lines : count < e.lines.length → after.lines = e.lines.take start ++ e.lines.drop (start + count)
  emptied : count = e.lines.length → after.lines = [[]]
  row : after.row = min start (after.lines.length - 1)
  col : after.col = 0
  yank : after.yank = Text.unlines ((e.lines.drop start).take count)
  modified : after.modified = true
  message : after.message =
    some (Text.ofNat count ++ if count = 1 then (" line deleted" : Text) else " lines deleted")

/-- The editor without its last message, when nothing waits any more. -/
def atRest (e : Editor) : Editor := { e with message := none, deleting := false }

variable {e : Editor}

theorem endsWaiting_deleteMotion (e : Editor) (m : Motion) :
    e.EndsWaiting (e.atRest.deleteMotion m) := by
  cases m with
  | rows m => exact ⟨rfl, rfl, rfl, rfl, rfl⟩
  | span m =>
      simp only [deleteMotion, deleteSpan]
      split <;> exact ⟨rfl, rfl, rfl, rfl, rfl⟩

/-- What stands where the cursor is already does not move it if it is empty. -/
theorem losesSpan_deleteSpan {start stop : Nat} (row_lt : e.row < e.lines.length)
    (start_le : start ≤ stop) (stop_le : stop ≤ e.line.length)
    (here : start = stop → e.col = start) :
    e.LosesSpan (e.atRest.deleteSpan start stop) start stop := by
  have length : ((e.line.drop start).take (stop - start)).length = stop - start := by
    rw [List.length_take, List.length_drop]
    omega
  rcases Nat.lt_or_eq_of_le start_le with some_column | rfl
  · have removed : ((e.atRest.line.drop start).take (stop - start)).isEmpty = false := by
      rw [List.isEmpty_eq_false_iff, ← List.length_pos_iff, show e.atRest.line = e.line from rfl,
        length]
      omega
    have deleted : e.atRest.deleteSpan start stop =
        ({ e.atRest.setLine (e.line.take start ++ e.line.drop stop) with
            col := start, yank := (e.line.drop start).take (stop - start),
            modified := true }).say "deleted" := by
      simp only [deleteSpan, removed, Bool.false_eq_true, if_false]
      rfl
    rw [deleted]
    exact ⟨start_le, stop_le, rfl, rfl, rfl, fun _ => ⟨rfl, rfl, rfl⟩,
      fun none => absurd none (Nat.ne_of_lt some_column)⟩
  · have deleted : e.atRest.deleteSpan start start = e.atRest := by simp [deleteSpan]
    have line : e.line = e.lines[e.row] := by simp [Editor.line, lineAt, row_lt]
    have same : e.lines = e.lines.set e.row (e.line.take start ++ e.line.drop start) := by
      rw [List.take_append_drop, line, List.set_getElem_self]
    rw [deleted]
    exact ⟨start_le, stop_le, same, rfl, here rfl,
      fun some_column => absurd some_column (Nat.lt_irrefl _), fun _ => ⟨rfl, rfl, rfl⟩⟩

theorem spanOf_start_le (col_le : e.col ≤ e.line.length) (m : SpanMotion) :
    (e.spanOf m).1 ≤ (e.spanOf m).2 := by
  cases m <;> simp only [spanOf] <;> omega

theorem col_of_empty_spanOf (m : SpanMotion) (empty : (e.spanOf m).1 = (e.spanOf m).2) :
    e.col = (e.spanOf m).1 := by
  cases m <;> simp only [spanOf] at empty ⊢ <;> omega

theorem losesSpan_deleteMotion (row_lt : e.row < e.lines.length) (col_le : e.col ≤ e.line.length)
    (m : SpanMotion) :
    e.LosesSpan (e.atRest.deleteMotion (.span m)) (e.spanOf m).1 (e.spanOf m).2 := by
  obtain ⟨_, _, stop_le⟩ := spanOf?_eq col_le m
  exact losesSpan_deleteSpan row_lt (spanOf_start_le col_le m) stop_le (col_of_empty_spanOf m)

theorem losesRows_deleteRows {start count : Nat} (some_row : 0 < count)
    (inside : start + count ≤ e.lines.length) :
    e.LosesRows (e.atRest.deleteRows start count) start count := by
  have left : (e.atRest.deleteRows start count).lines =
      if (e.lines.take start ++ e.lines.drop (start + count)).isEmpty then [[]]
      else e.lines.take start ++ e.lines.drop (start + count) := rfl
  have length : (e.lines.take start ++ e.lines.drop (start + count)).length =
      e.lines.length - count := by
    rw [List.length_append, List.length_take, List.length_drop]
    omega
  refine ⟨some_row, inside, fun some_left => ?_, fun none_left => ?_, rfl, rfl, rfl, rfl, rfl⟩
  · have filled : (e.lines.take start ++ e.lines.drop (start + count)).isEmpty = false := by
      rw [List.isEmpty_eq_false_iff, ← List.length_pos_iff, length]
      omega
    rw [left, filled]
    rfl
  · have empty : e.lines.take start ++ e.lines.drop (start + count) = [] := by
      rw [← List.length_eq_zero_iff, length]
      omega
    rw [left, empty]
    rfl

theorem rowsOf_inside (row_lt : e.row < e.lines.length) (m : RowMotion) :
    0 < (e.rowsOf m).2 ∧ (e.rowsOf m).1 + (e.rowsOf m).2 ≤ e.lines.length := by
  cases m with
  | current => exact ⟨Nat.one_pos, row_lt⟩
  | below =>
      by_cases above_last : e.row < e.lines.length - 1 <;>
        simp only [rowsOf, lastRow, above_last, if_true, if_false] <;> omega
  | above =>
      by_cases below_first : 0 < e.row <;>
        simp only [rowsOf, below_first, if_true, if_false] <;> omega

theorem losesRows_deleteMotion (row_lt : e.row < e.lines.length) (m : RowMotion) :
    e.LosesRows (e.atRest.deleteMotion (.rows m)) (e.rowsOf m).1 (e.rowsOf m).2 :=
  losesRows_deleteRows (rowsOf_inside row_lt m).1 (rowsOf_inside row_lt m).2

theorem press_of_waiting (still : e.closed = false) (normal : e.mode = .normal)
    (waiting : e.deleting = true) (written : Bool) (k : Key) :
    e.press written k =
      match k.motion? with
      | some m => e.atRest.deleteMotion m
      | none => e.atRest := by
  rw [(press_of_open still written k).1 normal]
  simp only [pressNormal, waiting, if_true]
  cases k.motion? <;> rfl

/-- A closed editor has nothing waiting. -/
def Settled (e : Editor) : Prop := e.closed = true → e.deleting = false

theorem Settled.of_open (still : e.closed = false) : e.Settled := fun closed => by
  rw [still] at closed
  cases closed

theorem Settled.close (h : e.Settled) : e.close.Settled := by
  simp only [Editor.close]
  split
  · exact h
  · exact fun _ => rfl

theorem Settled.save (h : e.Settled) (written : Bool) : (e.save written).Settled := by
  cases written <;> exact h

theorem Settled.perform (h : e.Settled) (written : Bool) (d : Directive) :
    (e.perform written d).Settled := by
  cases d with
  | write => cases written <;> exact h
  | quit =>
      simp only [Editor.perform]
      split
      case isTrue => exact h
      case isFalse => exact h.close
  | forceQuit => exact h.close
  | writeQuit =>
      cases written with
      | true => exact Settled.close (h.save true)
      | false => exact h
  | unknown text => exact h

theorem Settled.press (h : e.Settled) (written : Bool) (k : Key) : (e.press written k).Settled := by
  cases closed : e.closed with
  | true => rwa [press_of_closed closed]
  | false =>
      cases given : e.directive? (.key k) with
      | none => exact .of_open ((marks_press written given).1.1.trans closed)
      | some d =>
          obtain ⟨ready, _, _, still, performed⟩ := step_of_directive written given
          have step : e.press written k = ready.perform written d := performed
          rw [step]
          exact (Settled.of_open (still.trans closed)).perform written d

theorem Settled.step (h : e.Settled) (written : Bool) (event : Event) :
    (e.step written event).Settled := by
  cases event with
  | key k => exact h.press written k
  | execute text =>
      have ready : (e.withMode .normal).Settled := h
      exact ready.perform written _
  | save => exact h.save written
  | close => exact h.close

/-- Whatever happens to an editor, it waits for a motion only while it is open. -/
theorem still_of_waiting (file content : Text) (events : List (Bool × Event)) :
    let e := events.foldl (fun e entry => e.step entry.1 entry.2) (ofFile file content)
    e.deleting = true → e.closed = false := by
  intro e waiting
  have settled : e.Settled := by
    refine List.foldlRecOn events (motive := Settled) _ (.of_open rfl) ?_
    exact fun e settled entry _ => settled.step entry.1 entry.2
  cases closed : e.closed with
  | false => rfl
  | true => exact absurd ((settled closed).symm.trans waiting) Bool.noConfusion

end Editor

namespace Key

/-- The names of the keys that are a motion behind `d`. -/
def motionNames : List Text :=
  ["d", "j", "ArrowDown", "k", "ArrowUp", "$", "0", "w", "l", "ArrowRight", "h", "ArrowLeft"]

theorem motion?_of_name {k : Key} {name : Text} (named : k.name = name) :
    k.motion? = motion? { name := name } := by
  simp [motion?, isNamed, named]

theorem motion?_eq_none {k : Key} (other : k.name ∉ motionNames) : k.motion? = none := by
  simp [motionNames] at other
  simp [motion?, isNamed, other]

end Key

namespace Editor

/-- The key behind `d` ends the waiting. A motion in the line takes the columns that it names out
of the current line, and a motion over rows takes the current row, or it and its neighbour if it
has one; what is taken is yanked. A key that is no motion changes nothing else. -/
theorem motion_takes_what_is_yanked {e : Editor} (still : e.closed = false)
    (normal : e.mode = .normal) (waiting : e.deleting = true) (row_lt : e.row < e.lines.length)
    (col_le : e.col ≤ e.line.length) (written : Bool) (k : Key) :
    let after := e.press written k
    e.EndsWaiting after ∧
    (k.name = "$" → e.LosesSpan after e.col e.line.length) ∧
    (k.name = "0" → e.LosesSpan after 0 e.col) ∧
    (k.name = "w" → ∃ word, LongestWord (e.line.drop e.col) word ∧
      e.LosesSpan after e.col (e.col + word.length)) ∧
    (k.name = "l" ∨ k.name = "ArrowRight" →
      e.LosesSpan after e.col (min e.line.length (e.col + 1))) ∧
    (k.name = "h" ∨ k.name = "ArrowLeft" → e.LosesSpan after (e.col - 1) e.col) ∧
    (k.name = "d" → e.LosesRows after e.row 1) ∧
    (k.name = "j" ∨ k.name = "ArrowDown" →
      e.LosesRows after e.row (if e.row + 1 < e.lines.length then 2 else 1)) ∧
    (k.name = "k" ∨ k.name = "ArrowUp" →
      if 0 < e.row then e.LosesRows after (e.row - 1) 2 else e.LosesRows after e.row 1) ∧
    (k.name ∉ Key.motionNames → after = e.atRest) := by
  intro after
  have takes {name : Text} {m : Motion} (named : k.name = name)
      (means : Key.motion? { name := name } = some m) : after = e.atRest.deleteMotion m := by
    simp only [after, press_of_waiting still normal waiting, Key.motion?_of_name named, means]
  have span {name : Text} {m : SpanMotion} (named : k.name = name)
      (means : Key.motion? { name := name } = some (.span m)) :
      e.LosesSpan after (e.spanOf m).1 (e.spanOf m).2 := by
    rw [takes named means]
    exact losesSpan_deleteMotion row_lt col_le m
  have rows {name : Text} {m : RowMotion} (named : k.name = name)
      (means : Key.motion? { name := name } = some (.rows m)) :
      e.LosesRows after (e.rowsOf m).1 (e.rowsOf m).2 := by
    rw [takes named means]
    exact losesRows_deleteMotion row_lt m
  have above_last : e.row < e.lastRow ↔ e.row + 1 < e.lines.length := by
    simp only [lastRow]
    omega
  refine ⟨?_, fun toEnd => span toEnd rfl, fun toStart => span toStart rfl, fun word => ?_,
    fun right => ?_, fun left => ?_, fun current => rows current rfl, fun below => ?_,
    fun above => ?_, fun other => ?_⟩
  · simp only [after, press_of_waiting still normal waiting]
    cases k.motion? with
    | none => exact ⟨rfl, rfl, rfl, rfl, rfl⟩
    | some m => exact endsWaiting_deleteMotion e m
  · refine ⟨_, longestWord_take (e.line.drop e.col), ?_⟩
    rw [List.length_take, Nat.min_eq_left (wordLength_le _)]
    exact span word rfl
  · rcases right with letter | arrow
    · exact span letter rfl
    · exact span arrow rfl
  · rcases left with letter | arrow
    · exact span letter rfl
    · exact span arrow rfl
  · have taken : e.LosesRows after e.row (if e.row < e.lastRow then 2 else 1) := by
      rcases below with letter | arrow
      · exact rows letter rfl
      · exact rows arrow rfl
    simpa only [above_last] using taken
  · have taken : e.LosesRows after (e.rowsOf .above).1 (e.rowsOf .above).2 := by
      rcases above with letter | arrow
      · exact rows letter rfl
      · exact rows arrow rfl
    by_cases below_first : 0 < e.row
    · simpa only [rowsOf, below_first, if_true] using taken
    · simpa only [rowsOf, below_first, if_false] using taken
  · simp only [after, press_of_waiting still normal waiting, Key.motion?_eq_none other]

def threeLines : Editor :=
  { file := "notes", lines := ["one", "two  three", "four"], row := 1, col := 1, deleting := true }

/-- In the middle of the second line: the word there with the blanks behind it, and the row with the
one above. -/
theorem threeLines_motions :
    let e := threeLines
    let word := e.press true (.plain "w")
    let rows := e.press true (.plain "ArrowUp")
    (e.closed = false ∧ e.mode = .normal ∧ e.deleting = true) ∧
    (e.row < e.lines.length ∧ e.col ≤ e.line.length) ∧
    (∃ t, LongestWord (e.line.drop 1) t ∧ e.LosesSpan word 1 (1 + t.length)) ∧
    word.line = "tthree" ∧ word.yank = "wo  " ∧
    e.LosesRows rows 0 2 ∧ rows.line = "four" ∧ rows.yank = "one\ntwo  three" := by
  intro e word rows
  have waiting : e.closed = false ∧ e.mode = .normal ∧ e.deleting = true := by decide
  have inside : e.row < e.lines.length ∧ e.col ≤ e.line.length := by decide
  have motions (k : Key) := motion_takes_what_is_yanked waiting.1 waiting.2.1 waiting.2.2 inside.1
    inside.2 true k
  obtain ⟨_, _, _, wordwise, _⟩ := motions (.plain "w")
  obtain ⟨_, _, _, _, _, _, _, _, above, _⟩ := motions (.plain "ArrowUp")
  exact ⟨waiting, inside, wordwise rfl, by decide, by decide, above (.inr rfl), by decide,
    by decide⟩

end Editor
end PocketShell
