import PocketShell.Text.Quoted

/-!
The words of a text in which quotes may hide separators, and how words are written so that they are
read again. `Worded` gives the rules without a reader: what separates words, where a quoted word
ends and where a plain one does; words that stand in a text by these rules are read from it. A word
without separators is read as it stands, unless it begins with a quote; any text at all is read as
one word between two quotes that it does not hold. Words written in these ways with a blank between
each two of them are read one by one.
-/

namespace PocketShell.Text

/-- A text that is read as one word: a plain word, or a text in quotes. -/
inductive Spelled : Text → Prop
  | plain (c : CodePoint) (t : Text) : isQuote c = false → (∀ d ∈ c :: t, isSeparator d = false) →
      Spelled (c :: t)
  | quoted (quote : CodePoint) (t : Text) : isQuote quote = true → quote ∉ t →
      Spelled (quote :: (t ++ [quote]))

/-- The words that stand in a text in which every quote is closed. -/
inductive Worded : Text → List Text → Prop
  | nothing : Worded [] []
  | separator {c : CodePoint} {t : Text} {words : List Text} : isSeparator c = true →
      Worded t words → Worded (c :: t) words
  | quoted {quote : CodePoint} {body t : Text} {words : List Text} : isQuote quote = true →
      quote ∉ body → Worded t words →
      Worded (quote :: (body ++ quote :: t)) ((quote :: (body ++ [quote])) :: words)
  | plain {c : CodePoint} {body t : Text} {words : List Text} : isQuote c = false →
      (∀ d ∈ c :: body, isSeparator d = false) → (∀ d ∈ t.head?, isSeparator d = true) →
      Worded t words → Worded (c :: (body ++ t)) ((c :: body) :: words)

variable {t word : Text} {found : List Text}

theorem readQuoted_plain (sofar rest : Text) (whole : ∀ c ∈ t, isSeparator c = false) :
    readQuoted (.plain sofar) (t ++ rest) = readQuoted (.plain (t.reverse ++ sofar)) rest := by
  induction t generalizing sofar with
  | nil => rfl
  | cons c t ih =>
      rw [List.forall_mem_cons] at whole
      simp [readQuoted, whole.1, ih (c :: sofar) whole.2]

/-- A quoted word ends at its closing quote, whatever stands behind. -/
theorem readQuoted_quoted (quote : CodePoint) (sofar rest : Text) (free : quote ∉ t) :
    readQuoted (.quoted quote sofar) (t ++ quote :: rest) =
      (readQuoted .between rest).map ((sofar.reverse ++ (t ++ [quote])) :: ·) := by
  induction t generalizing sofar with
  | nil => simp [readQuoted]
  | cons c t ih =>
      rw [List.mem_cons, not_or] at free
      simp [readQuoted, Ne.symm free.1, ih (c :: sofar) free.2]

theorem not_separator_of_isQuote {c : CodePoint} (quote : isQuote c = true) :
    isSeparator c = false := by
  simp only [isQuote, Bool.or_eq_true, beq_iff_eq] at quote
  rcases quote with rfl | rfl <;> rfl

theorem not_blank_of_isQuote {c : CodePoint} (quote : isQuote c = true) : isBlank c = false := by
  simp only [isQuote, Bool.or_eq_true, beq_iff_eq] at quote
  rcases quote with rfl | rfl <;> rfl

/-- A plain word ends where a separator stands or the text does. -/
theorem readQuoted_plain_end (sofar : Text) (ends : ∀ c ∈ t.head?, isSeparator c = true) :
    readQuoted (.plain sofar) t = (readQuoted .between t).map (sofar.reverse :: ·) := by
  cases t with
  | nil => rfl
  | cons c t =>
      have separates : isSeparator c = true := ends c rfl
      simp only [readQuoted, if_pos separates]

theorem Worded.readQuoted (worded : Worded t found) : readQuoted .between t = some found := by
  induction worded with
  | nothing => rfl
  | separator separates _ ih => simp [Text.readQuoted, separates, ih]
  | @quoted quote body t _ is_quote free _ ih =>
      have opened := readQuoted_quoted quote [quote] t free
      simp [Text.readQuoted, is_quote, not_separator_of_isQuote is_quote, opened, ih]
  | @plain c body t _ unquoted whole ends _ ih =>
      rw [List.forall_mem_cons] at whole
      have begun := readQuoted_plain [c] t whole.2
      rw [readQuoted_plain_end _ ends, ih] at begun
      simp [Text.readQuoted, unquoted, whole.1, begun]

theorem Worded.quotedWords_eq (worded : Worded t found) : quotedWords t = found := by
  rw [quotedWords, worded.readQuoted, Option.getD_some]

/-- A word may be written before a text that begins with a separator, or before nothing. -/
theorem Worded.spelled_append (spelled : Spelled word) (ends : ∀ c ∈ t.head?, isSeparator c = true)
    (worded : Worded t found) : Worded (word ++ t) (word :: found) := by
  cases spelled with
  | plain c body unquoted whole => exact .plain unquoted whole ends worded
  | quoted quote body is_quote free =>
      have parted : quote :: (body ++ [quote]) ++ t = quote :: (body ++ quote :: t) := by simp
      rw [parted]
      exact .quoted is_quote free worded

theorem worded_join {words : List Text} (spelled : ∀ word ∈ words, Spelled word) :
    Worded (join [' '] words) words := by
  induction words with
  | nil => exact .nothing
  | cons word words ih =>
      rw [List.forall_mem_cons] at spelled
      cases words with
      | nil =>
          have alone := Worded.spelled_append spelled.1 (by simp) .nothing
          rwa [List.append_nil] at alone
      | cons next words =>
          rw [join, List.append_assoc]
          exact .spelled_append spelled.1 (by simp [isSeparator]) (.separator rfl (ih spelled.2))

theorem quotedWords_join {words : List Text} (spelled : ∀ word ∈ words, Spelled word) :
    quotedWords (join [' '] words) = words :=
  (worded_join spelled).quotedWords_eq

theorem unquote_quoted {quote : CodePoint} (is_quote : isQuote quote = true) (t : Text) :
    unquote (quote :: (t ++ [quote])) = t := by
  cases t with
  | nil => simp [unquote, is_quote]
  | cons c t =>
      have last : (c :: t ++ [quote]).getLast? = some quote := List.getLast?_concat
      have rest : (c :: t ++ [quote]).dropLast = c :: t := List.dropLast_concat
      rw [List.cons_append] at last rest
      simp [unquote, is_quote, last, rest]

end PocketShell.Text
