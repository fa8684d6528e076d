import PocketShell.Proofs.Text.Lines
import PocketShell.Proofs.Text.Quoted

/-!
What becomes of a text that is read in words. The reader finds words exactly by the rules for
quotes, and none exactly when a quote stays open; the text is cut at blanks then. In either way no
word is empty, all that is lost are blanks, and a separator in a word is in quotes.
-/

namespace PocketShell.Text

/-- A word in quotes, with that quote nowhere inside. -/
def Enclosed (word : Text) : Prop :=
  ∃ quote body, isQuote quote = true ∧ quote ∉ body ∧ word = quote :: (body ++ [quote])

/-- What is left of a text without its blanks. -/
def visible (t : Text) : Text := t.filter fun c => !isBlank c

theorem visible_append (s t : Text) : visible (s ++ t) = visible s ++ visible t :=
  List.filter_append s t

theorem blank_of_isSeparator {c : CodePoint} (separates : isSeparator c = true) :
    isBlank c = true := by
  simp only [isSeparator, Bool.or_eq_true, beq_iff_eq] at separates
  obtain ((rfl | rfl) | rfl) | rfl := separates <;> rfl

section Rules

variable {t word : Text} {found : List Text}

namespace Reading

/-- What a reader finds, told by how the text goes on from where the reader stands. -/
def Finds : Reading → Text → List Text → Prop
  | .between, t, found => Worded t found
  | .plain sofar, t, found => ∃ body rest others, t = body ++ rest ∧
      found = (sofar.reverse ++ body) :: others ∧ (∀ c ∈ body, isSeparator c = false) ∧
      (∀ c ∈ rest.head?, isSeparator c = true) ∧ Worded rest others
  | .quoted quote sofar, t, found => ∃ body rest others, t = body ++ quote :: rest ∧
      found = (sofar.reverse ++ (body ++ [quote])) :: others ∧ quote ∉ body ∧ Worded rest others

variable {c quote : CodePoint} {sofar : Text}

theorem Finds.begin_quoted (is_quote : isQuote c = true) (finds : (quoted c [c]).Finds t found) :
    Worded (c :: t) found := by
  obtain ⟨body, rest, others, rfl, rfl, free, worded⟩ := finds
  exact .quoted is_quote free worded

theorem Finds.begin_plain (inside : isSeparator c = false) (unquoted : isQuote c = false)
    (finds : (plain [c]).Finds t found) : Worded (c :: t) found := by
  obtain ⟨body, rest, others, rfl, rfl, whole, ends, worded⟩ := finds
  exact .plain unquoted (List.forall_mem_cons.mpr ⟨inside, whole⟩) ends worded

theorem Finds.plain_on (inside : isSeparator c = false)
    (finds : (plain (c :: sofar)).Finds t found) : (plain sofar).Finds (c :: t) found := by
  obtain ⟨body, rest, others, rfl, rfl, whole, ends, worded⟩ := finds
  refine ⟨c :: body, rest, others, rfl, by simp, ?_, ends, worded⟩
  exact List.forall_mem_cons.mpr ⟨inside, whole⟩

theorem Finds.plain_end (separates : isSeparator c = true) (worded : Worded t found) :
    (plain sofar).Finds (c :: t) (sofar.reverse :: found) :=
  ⟨[], c :: t, found, rfl, by simp, by simp, by simpa using separates, .separator separates worded⟩

theorem Finds.quoted_on (other : c ≠ quote) (finds : (quoted quote (c :: sofar)).Finds t found) :
    (quoted quote sofar).Finds (c :: t) found := by
  obtain ⟨body, rest, others, rfl, rfl, free, worded⟩ := finds
  refine ⟨c :: body, rest, others, rfl, by simp, ?_, worded⟩
  rw [List.mem_cons, not_or]
  exact ⟨Ne.symm other, free⟩

theorem Finds.quoted_end (worded : Worded t found) :
    (quoted quote sofar).Finds (quote :: t) ((quote :: sofar).reverse :: found) :=
  ⟨[], t, found, rfl, by simp, by simp, worded⟩

theorem finds {reading : Reading} (read : readQuoted reading t = some found) :
    reading.Finds t found := by
  induction t generalizing reading found with
  | nil =>
      cases reading with
      | between =>
          cases read
          exact .nothing
      | plain sofar =>
          cases read
          exact ⟨[], [], [], rfl, by simp, by simp, by simp, .nothing⟩
      | quoted quote sofar => cases read
  | cons c t ih =>
      cases reading with
      | between =>
          simp only [readQuoted] at read
          split at read
          · next separates => exact .separator separates (ih read)
          · next inside =>
            rw [Bool.not_eq_true] at inside
            split at read
            · next is_quote => exact (ih read).begin_quoted is_quote
            · next unquoted =>
              rw [Bool.not_eq_true] at unquoted
              exact (ih read).begin_plain inside unquoted
      | plain sofar =>
          simp only [readQuoted] at read
          split at read
          · next separates =>
            obtain ⟨others, behind, rfl⟩ := Option.map_eq_some_iff.mp read
            exact .plain_end separates (ih behind)
          · next inside =>
            rw [Bool.not_eq_true] at inside
            exact (ih read).plain_on inside
      | quoted quote sofar =>
          simp only [readQuoted] at read
          split at read
          · next closes =>
            obtain ⟨others, behind, rfl⟩ := Option.map_eq_some_iff.mp read
            rw [closes]
            exact .quoted_end (ih behind)
          · next other => exact (ih read).quoted_on other

end Reading

theorem readQuoted_eq_some_iff : readQuoted .between t = some found ↔ Worded t found :=
  ⟨fun read => Reading.finds read, Worded.readQuoted⟩

theorem Worded.spelled (worded : Worded t found) : ∀ word ∈ found, Spelled word := by
  induction worded with
  | nothing => simp
  | separator _ _ ih => exact ih
  | quoted is_quote free _ ih => exact List.forall_mem_cons.mpr ⟨.quoted _ _ is_quote free, ih⟩
  | plain unquoted whole _ _ ih => exact List.forall_mem_cons.mpr ⟨.plain _ _ unquoted whole, ih⟩

theorem Worded.visible_flatten (worded : Worded t found) : visible found.flatten = visible t := by
  induction worded with
  | nothing => rfl
  | separator separates _ ih => simpa [visible, blank_of_isSeparator separates] using ih
  | @quoted quote body t _ _ _ _ ih =>
      have parted : quote :: (body ++ quote :: t) = quote :: (body ++ [quote]) ++ t := by simp
      rw [List.flatten_cons, parted, visible_append, visible_append, ih]
  | @plain c body t _ _ _ _ _ ih =>
      have parted : c :: (body ++ t) = c :: body ++ t := rfl
      rw [List.flatten_cons, parted, visible_append, visible_append, ih]

theorem Spelled.ne_nil (spelled : Spelled word) : word ≠ [] := by
  cases spelled <;> simp

theorem Spelled.enclosed (spelled : Spelled word) (split : ∃ c ∈ word, isSeparator c = true) :
    Enclosed word := by
  cases spelled with
  | plain c t _ whole =>
      obtain ⟨d, mem, separates⟩ := split
      rw [whole d mem] at separates
      cases separates
  | quoted quote t is_quote free => exact ⟨quote, t, is_quote, free, rfl⟩

end Rules

section Blanks

variable {word : Text}

theorem ne_nil_of_mem_words {t : Text} (mem : word ∈ words t) : word ≠ [] := by
  simpa using (List.mem_filter.mp mem).2

theorem visible_of_mem_words {t : Text} (mem : word ∈ words t) : ∀ c ∈ word, isBlank c = false :=
  whole_of_mem_splitWhen (List.mem_filter.mp mem).1

theorem flatten_words (t : Text) : (words t).flatten = visible t := by
  rw [words, List.flatten_filter_ne_nil, flatten_splitWhen, visible]

end Blanks

/-- Either every quote is closed and the rules give the words, or none does and blanks part them. -/
theorem quotedWords_cases (t : Text) :
    Worded t (quotedWords t) ∨ (∀ found, ¬ Worded t found) ∧ quotedWords t = words t := by
  cases read : readQuoted .between t with
  | some found =>
      have same : quotedWords t = found := by rw [quotedWords, read, Option.getD_some]
      rw [same]
      exact .inl (readQuoted_eq_some_iff.mp read)
  | none =>
      refine .inr ⟨fun found worded => ?_, by rw [quotedWords, read, Option.getD_none]⟩
      rw [worded.readQuoted] at read
      cases read

/--
No word is empty, what is not blank in the text stands in the words in its order, and a word with a
separator in it is in quotes. The words are those of the rules for quotes; where these give none, as
a quote stays open, they are the runs between blanks.
-/
theorem words_lose_only_blanks (text : Text) :
    (∀ word ∈ quotedWords text, word ≠ []) ∧
    visible (quotedWords text).flatten = visible text ∧
    (∀ word ∈ quotedWords text, (∃ c ∈ word, isSeparator c = true) → Enclosed word) ∧
    (∀ found, Worded text found → quotedWords text = found) ∧
    ((∀ found, ¬ Worded text found) → quotedWords text = words text) := by
  rcases quotedWords_cases text with worded | ⟨unworded, cut⟩
  · refine ⟨?_, worded.visible_flatten, ?_, fun _ => Worded.quotedWords_eq,
      fun unworded => absurd worded (unworded _)⟩
    · intro word mem
      exact (worded.spelled word mem).ne_nil
    · intro word mem split
      exact (worded.spelled word mem).enclosed split
  · refine ⟨?_, ?_, ?_, fun _ => Worded.quotedWords_eq, fun _ => cut⟩
    · intro word mem
      exact ne_nil_of_mem_words (cut ▸ mem)
    · rw [cut, flatten_words]
      simp [visible]
    · -- between blanks there is no separator at all
      rintro word mem ⟨c, inside, separates⟩
      have no_blank : isBlank c = false := visible_of_mem_words (cut ▸ mem) c inside
      rw [blank_of_isSeparator separates] at no_blank
      cases no_blank

/-- A quote counts where a word begins, and not at all if it is never closed. -/
theorem quotes_closed_and_open :
    quotedWords ("x'y 'a \"b'c" : Text) = [("x'y" : Text), ("'a \"b'" : Text), ("c" : Text)] ∧
    Enclosed ("'a \"b'" : Text) ∧
    quotedWords ("x'y 'a\u00A0b" : Text) = [("x'y" : Text), ("'a" : Text), ("b" : Text)] := by
  have closed : Worded ("x'y 'a \"b'c" : Text) [("x'y" : Text), ("'a \"b'" : Text), ("c" : Text)] :=
    readQuoted_eq_some_iff.mp (by decide)
  have unclosed : ∀ found, ¬ Worded ("x'y 'a\u00A0b" : Text) found := by
    intro found worded
    have read := worded.readQuoted
    cases read
  obtain ⟨_, _, split, by_rules, _⟩ := words_lose_only_blanks ("x'y 'a \"b'c" : Text)
  obtain ⟨_, _, _, _, by_blanks⟩ := words_lose_only_blanks ("x'y 'a\u00A0b" : Text)
  have same := by_rules _ closed
  refine ⟨same, split _ ?_ ⟨' ', by decide⟩, (by_blanks unclosed).trans (by decide)⟩
  rw [same]
  exact .tail _ (.head _)

end PocketShell.Text
