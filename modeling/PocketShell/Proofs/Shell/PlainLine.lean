import PocketShell.Proofs.Pipeline.Stages
import PocketShell.Proofs.Shell.Execute
import PocketShell.Proofs.Text.Lines

/-!
Lines of two plain words. The shell reads such a line as it stands: its first word names the command
and the second one is the argument, for there is no stage behind the command and no wildcard to be
expanded.
-/

namespace PocketShell

namespace Text

variable {word : Text}

/-- A word of a line that stands for itself. -/
def Plain (word : Text) : Prop :=
  word ≠ [] ∧ ∀ c ∈ word, isBlank c = false ∧ c ∉ ("*?|>" : Text)

-- it goes through the characters of the word, not through all there are
instance (word : Text) : Decidable (Plain word) :=
  decidable_of_iff (word ≠ [] ∧ word.all fun c => decide (isBlank c = false ∧ c ∉ ("*?|>" : Text)))
    (by simp [Plain])

theorem Plain.words (plain : Plain word) : words word = [word] :=
  words_of_visible plain.1 fun c mem => (plain.2 c mem).1

theorem Plain.not_mem (plain : Plain word) {c : CodePoint} (special : c ∈ ("*?|>" : Text)) :
    c ∉ word :=
  fun mem => (plain.2 c mem).2 special

end Text

theorem Wildcard.expand_plain {word : Text} (plain : word.Plain) (names : List Text) :
    expand [word] names = [word] := by
  have whole : isPattern word = false := by
    simp [isPattern, plain.not_mem]
  simp [expand, expandOne, whole]

namespace Shell

/-- A line that gives one word to a command. -/
def lineOf (name word : Text) : Text := name ++ .char ' ' :: word

variable {name word : Text}

theorem lineOf_words (named : name.Plain) (plain : word.Plain) :
    Text.words (lineOf name word) = [name, word] := by
  rw [lineOf, Text.words_append rfl, named.words, plain.words]
  rfl

theorem lineOf_stages (named : name.Plain) (plain : word.Plain) :
    Stages.ofLine (lineOf name word) = ⟨lineOf name word, none, none⟩ := by
  apply Stages.ofLine_plain <;>
    simp [lineOf, named.not_mem, plain.not_mem]

theorem lineOf_not_blank (named : name.Plain) (word : Text) :
    (lineOf name word).all isBlank = false := by
  obtain ⟨c, rest, rfl⟩ := List.exists_cons_of_ne_nil named.1
  simp [lineOf, (named.2 c (by simp)).1]

theorem lineOf_invocation (named : name.Plain) (plain : word.Plain) (s : Session) :
    invocation s (lineOf name word) = ⟨name, [word], false⟩ := by
  have stages := lineOf_stages named plain
  have words := lineOf_words named plain
  simp only [invocation, commandName, arguments, stages, words, List.headD_cons, List.tail_cons,
    Session.expandWildcards, Option.isSome_none]
  split
  · rw [Wildcard.expand_plain plain]
  · rfl

variable {σ : Type} [KeyValueStore σ] {sh ran : Shell σ} {handler : Handler} {output : Text}

/-- A line of two plain words gives the second one to the command that the first one names. -/
theorem execute_lineOf (named : name.Plain) (plain : word.Plain)
    (known : (sh.session.registry.get? name).map Command.handler = some handler)
    (runs : run (nestedIn nestingLimit) (sh.remembering (lineOf name word)) ⟨name, [word], false⟩
      handler = (.ok output, ran)) :
    sh.execute (lineOf name word) = (output, ran.checkpoint) := by
  have given := lineOf_invocation named plain sh.session
  have first : commandName (lineOf name word) = name := congrArg Invocation.name given
  rw [← first] at known
  obtain ⟨command, found, rfl⟩ := Option.map_eq_some_iff.mp known
  rw [execute_eq, executeWith_of_known _ sh (lineOf_not_blank named word) found, given, runs,
    lineOf_stages named plain]
  rfl

/-- The command that opens an editor. -/
theorem execute_edit (named : name.Plain) (plain : word.Plain)
    (known : (sh.session.registry.get? name).map Command.handler = some (.job .edit)) :
    (sh.execute (lineOf name word)).2 =
      ((sh.remembering (lineOf name word)).openEditor word).2.checkpoint := by
  have runs : run (nestedIn nestingLimit) (sh.remembering (lineOf name word))
      ⟨name, [word], false⟩ (.job .edit) = (.ok editorOpenedMark,
        ((sh.remembering (lineOf name word)).openEditor word).2) := rfl
  rw [execute_lineOf named plain known runs]

theorem execute_cat (named : name.Plain) (plain : word.Plain)
    (known : (sh.session.registry.get? name).map Command.handler = some (.job (.tool .cat))) :
    (sh.execute (lineOf name word)).1 = sh.session.concatenate word := by
  rw [execute_lineOf named plain known rfl]
  rfl

end Shell
end PocketShell
