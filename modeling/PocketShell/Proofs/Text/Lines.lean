import PocketShell.Text.Blank

/-!
A text that was cut at a separator is joined to itself again. The cut always gives a piece, also
of the empty text, so every buffer has a line; no piece has the separator in it, and a text without
it is the only piece of itself. So lines that have no line feed in them are read back from what they
are joined to. A text cut at its last separator is told by what stands behind it, which has none.
-/

namespace PocketShell.Text

theorem splitWhen_ne_nil (p : CodePoint → Bool) (t : Text) : splitWhen p t ≠ [] := by
  induction t with
  | nil => simp [splitWhen]
  | cons c t ih =>
      simp only [splitWhen]
      split
      · simp
      · split <;> simp

theorem join_splitOn (sep : CodePoint) (t : Text) : join [sep] (splitOn sep t) = t := by
  induction t with
  | nil => rfl
  | cons c t ih =>
      obtain ⟨piece, pieces, cut⟩ := List.exists_cons_of_ne_nil (splitWhen_ne_nil (· == sep) t)
      simp only [splitOn, cut] at ih
      simp only [splitOn, splitWhen, cut]
      by_cases same : c = sep
      · simp [same, join, ih]
      · cases pieces with
        | nil => simpa [same, join] using ih
        | cons next pieces => simpa [same, join] using ih

theorem splitWhen_append {p : CodePoint → Bool} {sep : CodePoint} (cuts : p sep = true)
    (s t : Text) :
    splitWhen p (s ++ sep :: t) = splitWhen p s ++ splitWhen p t := by
  induction s with
  | nil => simp [splitWhen, cuts]
  | cons c s ih =>
      obtain ⟨piece, pieces, cut⟩ := List.exists_cons_of_ne_nil (splitWhen_ne_nil p s)
      cases here : p c <;> simp [splitWhen, here, cut, ih]

theorem splitWhen_of_whole {p : CodePoint → Bool} {t : Text} (whole : ∀ c ∈ t, p c = false) :
    splitWhen p t = [t] := by
  induction t with
  | nil => rfl
  | cons c t ih =>
      rw [List.forall_mem_cons] at whole
      simp [splitWhen, whole.1, ih whole.2]

theorem flatten_splitWhen (p : CodePoint → Bool) (t : Text) :
    (splitWhen p t).flatten = t.filter fun c => !p c := by
  induction t with
  | nil => rfl
  | cons c t ih =>
      obtain ⟨piece, pieces, cut⟩ := List.exists_cons_of_ne_nil (splitWhen_ne_nil p t)
      rw [cut] at ih
      cases here : p c <;> simp_all [splitWhen]

theorem whole_of_mem_splitWhen {p : CodePoint → Bool} {t piece : Text}
    (mem : piece ∈ splitWhen p t) :
    ∀ c ∈ piece, p c = false := by
  intro c inside
  have kept : c ∈ (splitWhen p t).flatten := List.mem_flatten_of_mem mem inside
  rw [flatten_splitWhen, List.mem_filter] at kept
  simpa using kept.2

theorem splitOn_append (sep : CodePoint) (s t : Text) :
    splitOn sep (s ++ sep :: t) = splitOn sep s ++ splitOn sep t :=
  splitWhen_append (p := (· == sep)) (beq_self_eq_true sep) s t

theorem splitOn_of_not_mem {sep : CodePoint} {t : Text} (free : sep ∉ t) : splitOn sep t = [t] := by
  refine splitWhen_of_whole fun c mem => ?_
  simp only [beq_eq_false_iff_ne]
  rintro rfl
  exact free mem

theorem not_mem_of_mem_splitOn {sep : CodePoint} {t piece : Text} (mem : piece ∈ splitOn sep t) :
    sep ∉ piece := by
  intro inside
  have whole := whole_of_mem_splitWhen mem sep inside
  simp at whole

theorem lines_ne_nil (t : Text) : lines t ≠ [] := splitWhen_ne_nil _ t

theorem unlines_lines (t : Text) : unlines (lines t) = t := join_splitOn '\n' t

theorem unlines_cons (line : Text) (rest : List Text) :
    unlines (line :: rest) = line ++ rest.flatMap (.char '\n' :: ·) := by
  induction rest generalizing line with
  | nil => simp [unlines, join]
  | cons next rest ih =>
      have below := ih next
      simp only [unlines] at below
      simp [unlines, join, below]

/-- Texts without the separator are the pieces of what they are joined to. -/
theorem splitOn_join {sep : CodePoint} {pieces : List Text} (some_piece : pieces ≠ [])
    (free : ∀ piece ∈ pieces, sep ∉ piece) : splitOn sep (join [sep] pieces) = pieces := by
  induction pieces with
  | nil => exact absurd rfl some_piece
  | cons piece pieces ih =>
      rw [List.forall_mem_cons] at free
      cases pieces with
      | nil => exact splitOn_of_not_mem free.1
      | cons next pieces =>
          have below := ih (by simp) free.2
          have joined : join [sep] (piece :: next :: pieces) =
              piece ++ sep :: join [sep] (next :: pieces) := by
            simp [join]
          rw [joined, splitOn_append, splitOn_of_not_mem free.1]
          exact congrArg (piece :: ·) below

/-- Texts without a line feed are the lines of what they are joined to. -/
theorem lines_unlines {rows : List Text} (some_row : rows ≠ [])
    (free : ∀ row ∈ rows, .char '\n' ∉ row) :
    lines (unlines rows) = rows :=
  splitOn_join some_row free

/-- The lines above a line each end in a line feed, and each line below it begins with one. -/
theorem unlines_around (above below : List Text) (line : Text) :
    unlines (above ++ line :: below) =
      above.flatMap (· ++ (['\n'] : Text)) ++ line ++ below.flatMap (.char '\n' :: ·) := by
  induction above with
  | nil => exact unlines_cons line below
  | cons first above ih =>
      obtain ⟨next, rest, more⟩ : ∃ next rest, above ++ line :: below = next :: rest :=
        List.exists_cons_of_ne_nil (by simp)
      rw [more, unlines_cons] at ih
      simp [unlines_cons, more, ih]

section Words

variable {word : Text}

theorem words_append {c : CodePoint} (blank : isBlank c = true) (s t : Text) :
    words (s ++ c :: t) = words s ++ words t := by
  rw [words, splitWhen_append blank, List.filter_append, words, words]

theorem words_of_visible (ne_nil : word ≠ []) (visible : ∀ c ∈ word, isBlank c = false) :
    words word = [word] := by
  simp [words, splitWhen_of_whole visible, ne_nil]

end Words

section CutLast

variable {sep : CodePoint} {t before after : Text}

theorem cutLast_eq_none_iff : cutLast sep t = none ↔ sep ∉ t := by
  induction t with
  | nil => simp [cutLast]
  | cons c t ih =>
      rw [List.mem_cons, not_or, ← ih]
      cases cut : cutLast sep t with
      | none => by_cases same : c = sep <;> simp [cutLast, cut, same, eq_comm (a := sep)]
      | some parts => simp [cutLast, cut]

theorem cutLast_eq_some_iff :
    cutLast sep t = some (before, after) ↔ t = before ++ sep :: after ∧ sep ∉ after := by
  constructor
  · intro cut
    induction t generalizing before with
    | nil => cases cut
    | cons c t ih =>
        simp only [cutLast] at cut
        split at cut
        · next inner _ later =>
          cases cut
          obtain ⟨rfl, free⟩ := ih later
          exact ⟨rfl, free⟩
        · next none_later =>
          split at cut
          · next same =>
            cases cut
            exact ⟨by rw [same, List.nil_append], cutLast_eq_none_iff.mp none_later⟩
          · cases cut
  · rintro ⟨rfl, free⟩
    induction before with
    | nil => simp [cutLast, cutLast_eq_none_iff.mpr free]
    | cons c before ih => simp [cutLast, ih]

end CutLast

end PocketShell.Text
