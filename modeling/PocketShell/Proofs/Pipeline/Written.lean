import PocketShell.Proofs.Pipeline.Stages
import PocketShell.Proofs.Text.Quoted
import PocketShell.Proofs.Text.Trimmed

/-!
Command lines as they are written: a command, behind it a bar with `grep`, its flags and a pattern
in quotes, and last an operator with its target. Each reader gets what the one before it has left,
so what is written last has to be out of sight of the earlier ones. The bar of a filter is the first
of its line as the command has none, whatever its pattern holds; an operator is the only one of its
line as neither the command, the pattern nor the target has one; and in what is left between the
two, quotes part the pattern from the flags.
-/

namespace PocketShell

inductive GrepFlag
  | ignoreCase
  | invert
  deriving DecidableEq, Repr

/-- A filter as it is written: some flags, the pattern in quotes, and some flags more. -/
structure GrepText where
  before : List GrepFlag
  quote : CodePoint
  pattern : Text
  after : List GrepFlag

def GrepFlag.word : GrepFlag → Text
  | .ignoreCase => ['-', 'i']
  | .invert => ['-', 'v']

namespace GrepText

def words (g : GrepText) : List Text :=
  g.before.map GrepFlag.word ++ (g.quote :: (g.pattern ++ [g.quote])) :: g.after.map GrepFlag.word

def text (g : GrepText) : Text := Text.join [' '] g.words

/-- The filter that is meant. -/
def filter (g : GrepText) : GrepFilter :=
  ⟨g.pattern, decide (.ignoreCase ∈ g.before ++ g.after), decide (.invert ∈ g.before ++ g.after)⟩

/-- The pattern is in quotes that it does not hold, and has no redirect in it. -/
structure Legible (g : GrepText) : Prop where
  quote : Text.isQuote g.quote = true
  closed : g.quote ∉ g.pattern
  no_redirect : .char '>' ∉ g.pattern

theorem forall_words {P : Text → Prop} (g : GrepText) (flag : ∀ flag : GrepFlag, P flag.word)
    (quoted : P (g.quote :: (g.pattern ++ [g.quote]))) : ∀ word ∈ g.words, P word := by
  simp only [words, List.forall_mem_append, List.forall_mem_cons, List.forall_mem_map]
  exact ⟨fun _ _ => flag _, quoted, fun _ _ => flag _⟩

end GrepText

namespace Redirect

def operator : WriteMode → Text
  | .overwrite => ['>']
  | .append => ['>', '>']

/-- A redirect as it is written. -/
def text (r : Redirect) : Text := operator r.mode ++ .char ' ' :: r.target

structure Legible (r : Redirect) : Prop where
  ne_nil : r.target ≠ []
  trimmed : Text.Trimmed r.target
  no_redirect : .char '>' ∉ r.target
  no_pipe : .char '|' ∉ r.target

end Redirect

namespace GrepFilter

theorem add_flag (draft : Draft) (flag : GrepFlag) :
    draft.add flag.word =
      { draft with
        ignoreCase := draft.ignoreCase || decide (flag = .ignoreCase),
        invert := draft.invert || decide (flag = .invert) } := by
  cases flag <;> simp [Draft.add, GrepFlag.word]

theorem foldl_add_flags (draft : Draft) (flags : List GrepFlag) :
    (flags.map GrepFlag.word).foldl Draft.add draft =
      { draft with
        ignoreCase := draft.ignoreCase || decide (.ignoreCase ∈ flags),
        invert := draft.invert || decide (.invert ∈ flags) } := by
  induction flags generalizing draft with
  | nil => simp
  | cons flag flags ih =>
      rw [List.map_cons, List.foldl_cons, ih, add_flag]
      cases flag <;> simp

theorem add_quoted (draft : Draft) (unset : draft.pattern = none) {quote : CodePoint}
    (is_quote : Text.isQuote quote = true) (pattern : Text) :
    draft.add (quote :: (pattern ++ [quote])) = { draft with pattern := some pattern } := by
  have no_dash : quote ≠ '-' := by
    rintro rfl
    cases is_quote
  simp [Draft.add, no_dash, unset, Text.unquote_quoted is_quote]

theorem spelled_words {g : GrepText} (legible : g.Legible) :
    ∀ word ∈ g.words, Text.Spelled word := by
  refine g.forall_words (fun flag => ?_) (.quoted g.quote g.pattern legible.quote legible.closed)
  cases flag <;>
    exact .plain '-' _ rfl (List.forall_mem_cons.mpr ⟨rfl, List.forall_mem_singleton.mpr rfl⟩)

theorem parse_text {g : GrepText} (legible : g.Legible) : parse g.text = some g.filter := by
  rw [parse, GrepText.text, Text.quotedWords_join (spelled_words legible), GrepText.words,
    List.foldl_append, List.foldl_cons, foldl_add_flags {} g.before,
    add_quoted _ rfl legible.quote, foldl_add_flags]
  simp [GrepText.filter]

end GrepFilter

namespace Redirect

/-- A redirect is parted from whatever it is written behind. -/
theorem parse_append {text : Text} {r : Redirect} (trimmed : Text.Trimmed text)
    (free : .char '>' ∉ text) (legible : r.Legible) :
    parse (text ++ .char ' ' :: r.text) = (text, some r) := by
  have front : Text.trim (text ++ ([' '] : Text)) = text := trimmed.trim_concat rfl
  have back : Text.trim (' ' :: r.target) = r.target := legible.trimmed.trim_cons rfl
  have some_front : text ++ ([' '] : Text) ≠ [] := by simp
  have free_front : .char '>' ∉ text ++ ([' '] : Text) := by simp [free]
  have free_back : .char '>' ∉ .char ' ' :: r.target := by simp [legible.no_redirect]
  have some_back : .char ' ' :: r.target ≠ [] := List.cons_ne_nil _ r.target
  obtain ⟨target, mode⟩ := r
  cases mode with
  | append =>
      have written : text ++ .char ' ' :: Redirect.text ⟨target, .append⟩ =
          (text ++ ([' '] : Text)) ++ .char '>' :: .char '>' :: .char ' ' :: target := by
        simp [Redirect.text, Redirect.operator]
      rw [written, parse_written_append free_front some_front some_back]
      simp only [front, back]
  | overwrite =>
      have written : text ++ .char ' ' :: Redirect.text ⟨target, .overwrite⟩ =
          (text ++ ([' '] : Text)) ++ .char '>' :: .char ' ' :: target := by
        simp [Redirect.text, Redirect.operator]
      rw [written, parse_written_overwrite free_front free_back some_front some_back]
      simp only [front, back]

end Redirect

theorem Text.cutFirst_append {sep : CodePoint} {before : Text} (free : sep ∉ before)
    (after : Text) :
    cutFirst sep (before ++ sep :: after) = some (before, after) := by
  induction before with
  | nil => simp [cutFirst]
  | cons c before ih =>
      rw [List.mem_cons, not_or] at free
      simp [cutFirst, Ne.symm free.1, ih free.2]

namespace GrepText

variable {g : GrepText}

theorem words_ne_nil (g : GrepText) : ∀ word ∈ g.words, word ≠ [] :=
  g.forall_words (fun flag => by cases flag <;> decide) (by simp)

theorem text_ne_nil (g : GrepText) : g.text ≠ [] :=
  Text.join_ne_nil (by simp [words]) g.words_ne_nil

namespace Legible

theorem trimmed_text (legible : g.Legible) : Text.Trimmed g.text := by
  have visible : isBlank g.quote = false := Text.not_blank_of_isQuote legible.quote
  refine Text.Trimmed.join g.words_ne_nil (g.forall_words (fun flag => ?_) ?_)
  · cases flag <;> decide
  · exact Text.trimmed_iff.mpr (by simp [visible, List.getLast?_cons])

theorem no_redirect_text (legible : g.Legible) : .char '>' ∉ g.text := by
  have no_quote : '>' ≠ g.quote := by
    intro same
    cases same ▸ legible.quote
  refine Text.not_mem_join (by decide) (g.forall_words (fun flag => ?_) ?_)
  · cases flag <;> decide
  · simp [no_quote, legible.no_redirect]

end Legible
end GrepText

theorem Redirect.Legible.trimmed_text {r : Redirect} (legible : r.Legible) :
    Text.Trimmed r.text := by
  have operator : operator r.mode ≠ [] ∧ Text.Trimmed (operator r.mode) := by
    cases r.mode <;> decide
  exact operator.2.append operator.1 legible.trimmed legible.ne_nil ([' '] : Text)

namespace Stages

/-- How a command is written with what stands behind it. -/
def written (command : Text) (filter : Option GrepText) (redirect : Option Redirect) : Text :=
  let behind : Text := match redirect with
    | none => []
    | some r => ' ' :: r.text
  match filter with
  | none => command ++ behind
  | some g => command ++ ((" | grep " : Text) ++ (g.text ++ behind))

section

variable {command : Text} {g : GrepText} {redirect : Option Redirect}

theorem parse_written (trimmed : Text.Trimmed command) (free : .char '>' ∉ command)
    (legible : ∀ r ∈ redirect, r.Legible) :
    Redirect.parse (written command none redirect) = (command, redirect) := by
  cases redirect with
  | none =>
      rw [written, List.append_nil]
      exact Redirect.parse_eq_none free
  | some r => exact Redirect.parse_append trimmed free (legible r rfl)

theorem written_ne_nil (ne_nil : command ≠ []) : written command none redirect ≠ [] :=
  List.append_ne_nil_of_left_ne_nil ne_nil _

theorem trimmed_written (trimmed : Text.Trimmed command) (ne_nil : command ≠ [])
    (legible : ∀ r ∈ redirect, r.Legible) : Text.Trimmed (written command none redirect) := by
  cases redirect with
  | none => simpa [written] using trimmed
  | some r =>
      have filled : r.text ≠ [] := by simp [Redirect.text]
      exact trimmed.append ne_nil (legible r rfl).trimmed_text filled [' ']

theorem no_pipe_written (free : .char '|' ∉ command) (legible : ∀ r ∈ redirect, r.Legible) :
    .char '|' ∉ written command none redirect := by
  cases redirect with
  | none => simpa [written] using free
  | some r =>
      have operator : .char '|' ∉ Redirect.operator r.mode := by cases r.mode <;> decide
      simp [written, Redirect.text, free, operator, (legible r rfl).no_pipe]

/-- Behind its bar and the word `grep`, a line with a filter goes on as a line without one. -/
theorem written_some (command : Text) (g : GrepText) (redirect : Option Redirect) :
    written command (some g) redirect =
      (command ++ ([' '] : Text)) ++
        .char '|' :: .char ' ' :: (("grep " : Text) ++ written g.text none redirect) := by
  simp [written]

theorem ofPipe_written (trimmed : Text.Trimmed command) (no_pipe : .char '|' ∉ command)
    (legible : g.Legible) (legible' : ∀ r ∈ redirect, r.Legible) :
    ofPipe (written command (some g) redirect) = ⟨command, some g.filter, redirect⟩ := by
  have blank : isBlank ' ' = true := rfl
  have front : .char '|' ∉ command ++ ([' '] : Text) := by simp [no_pipe]
  have tail := trimmed_written legible.trimmed_text g.text_ne_nil legible'
  have word : Text.Trimmed (("grep " : Text) ++ written g.text none redirect) :=
    Text.Trimmed.append (t := ("grep" : Text)) (by decide) (by decide) tail
      (written_ne_nil g.text_ne_nil) [' ']
  have arguments : grepArguments (("grep " : Text) ++ written g.text none redirect) =
      some (.char ' ' :: written g.text none redirect) := rfl
  rw [written_some, ofPipe, Text.cutFirst_append front]
  simp only [word.trim_cons blank, arguments, tail.trim_cons blank, trimmed.trim_concat blank,
    parse_written legible.trimmed_text legible.no_redirect_text legible',
    GrepFilter.parse_text legible]

theorem ofPipe_written_none (no_pipe : .char '|' ∉ command) (legible : ∀ r ∈ redirect, r.Legible) :
    ofPipe (written command none redirect) = ⟨written command none redirect, none, none⟩ := by
  rw [ofPipe, Text.cutFirst_eq_none (no_pipe_written no_pipe legible)]

/--
A line is parted into what it was written from. With a filter the whole line is parted at its bar;
without one the redirect is left to the command.
-/
theorem line_is_parted_as_written (command : Text) (trimmed : Text.Trimmed command)
    (no_pipe : .char '|' ∉ command) (no_redirect : .char '>' ∉ command) (redirect : Option Redirect)
    (legible : ∀ r ∈ redirect, r.Legible) :
    (∀ g : GrepText, g.Legible →
      ofPipe (written command (some g) redirect) = ⟨command, some g.filter, redirect⟩ ∧
      ofLine (written command (some g) redirect) = ⟨command, some g.filter, redirect⟩) ∧
    ofPipe (written command none redirect) = ⟨written command none redirect, none, none⟩ ∧
    ofLine (written command none redirect) = ⟨command, none, redirect⟩ := by
  refine ⟨fun g readable => ?_, ofPipe_written_none no_pipe legible, ?_⟩
  · have parted := ofPipe_written trimmed no_pipe readable legible
    refine ⟨parted, ?_⟩
    cases redirect with
    | none => simp [ofLine, parted, Redirect.parse_eq_none no_redirect]
    | some r => simp [ofLine, parted]
  · simp [ofLine, ofPipe_written_none no_pipe legible, parse_written trimmed no_redirect legible]

/-- A pattern may hold a bar, a line feed, the other quote and what looks like a flag. -/
theorem line_with_a_bar_in_quotes :
    ofLine ("cat  a | grep -v '-i | \"b\"\n' -i >> c d" : Text) =
      ⟨("cat  a" : Text), some ⟨("-i | \"b\"\n" : Text), true, true⟩,
        some ⟨("c d" : Text), .append⟩⟩ ∧
    ofLine "cat  a > c d" = ⟨("cat  a" : Text), none, some ⟨("c d" : Text), .overwrite⟩⟩ := by
  let g : GrepText := ⟨[.invert], '\'', ("-i | \"b\"\n" : Text), [.ignoreCase]⟩
  have readable : g.Legible := ⟨rfl, by decide, by decide⟩
  have legible (mode : WriteMode) : ∀ r ∈ some (Redirect.mk ("c d" : Text) mode), r.Legible := by
    rintro _ ⟨⟩
    cases mode <;> exact ⟨by decide, by decide, by decide, by decide⟩
  have parted (mode : WriteMode) :=
    line_is_parted_as_written ("cat  a" : Text) (by decide) (by decide) (by decide) _ (legible mode)
  exact ⟨((parted .append).1 g readable).2, (parted .overwrite).2.2⟩

end

end Stages
end PocketShell
