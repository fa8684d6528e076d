import PocketShell.Pipeline.GrepFilter
import PocketShell.Proofs.Text.Case
import PocketShell.Proofs.Wildcard

/-!
What ignoring case does to a filter. Pattern and line are put into small letters apart from each
other, so a part of the line is only found again if it has the same small letters in the line as
alone. That holds of every text whose sigmas are settled within it; any other pattern is missed in
some line that has it, as what stands beside the pattern makes another letter of a sigma.
-/

namespace PocketShell

theorem Text.includes_iff {t part : Text} : includes t part = true ↔ part <:+: t := by
  rw [includes, anySuffix_iff]
  constructor
  · rintro ⟨skipped, rest, rfl, here⟩
    obtain ⟨more, rfl⟩ := List.isPrefixOf_iff_prefix.mp here
    exact ⟨skipped, more, by simp⟩
  · rintro ⟨skipped, more, rfl⟩
    exact ⟨skipped, part ++ more, by simp, List.isPrefixOf_iff_prefix.mpr (List.prefix_append _ _)⟩

namespace Text

variable {t u : Text} {c : CodePoint}

/-- A text that is found behind another first character and is as long as what follows it is that
text, unless it begins with the character. -/
theorem eq_of_infix_cons (within : t <:+: c :: u) (length : t.length = u.length)
    (other : t.head? ≠ some c) : t = u := by
  rcases List.infix_cons_iff.mp within with start | later
  · cases t with
    | nil => exact (List.length_eq_zero_iff.mp length.symm).symm
    | cons d t =>
        obtain ⟨rfl, _⟩ := List.cons_prefix_cons.mp start
        exact absurd rfl other
  · exact later.eq_of_length length

theorem eq_of_infix_concat (within : t <:+: u ++ [c]) (length : t.length = u.length)
    (other : t.getLast? ≠ some c) : t = u := by
  have turned : t.reverse <:+: c :: u.reverse := by
    simpa using List.reverse_infix.mpr within
  have same := eq_of_infix_cons turned (by simpa using length) (by simpa using other)
  exact List.reverse_injective same

/-- A small letter that is not the given one. -/
theorem exists_letter (taken : Option CodePoint) : ∃ c, c ≠ capitalSigma ∧ lowerChar c = [c] ∧
    nearest [c] = some true ∧ taken ≠ some c := by
  by_cases a : taken = some (.char 'a')
  · exact ⟨'b', by decide, by decide +kernel, by decide +kernel, by simp [a]⟩
  · exact ⟨'a', by decide, by decide +kernel, by decide +kernel, a⟩

theorem lowerBetween_letter (plain : c ≠ capitalSigma) (small : lowerChar c = [c])
    (before after : Text) : lowerBetween before [c] after = [c] := by
  simp [lowerBetween, lowerIn, plain, small]

end Text

namespace GrepFilter

variable {pattern line : Text}

theorem keeps_exact :
    (⟨pattern, false, false⟩ : GrepFilter).keeps line = true ↔ pattern <:+: line := by
  simp [keeps, finds, Text.includes_iff]

theorem keeps_ignoring : (⟨pattern, true, false⟩ : GrepFilter).keeps line = true ↔
    Text.lower pattern <:+: Text.lower line := by
  simp [keeps, finds, Text.includes_iff]

theorem keeps_inverted (ignoreCase : Bool) : (⟨pattern, ignoreCase, true⟩ : GrepFilter).keeps line =
    !(⟨pattern, ignoreCase, false⟩ : GrepFilter).keeps line := by
  simp [keeps, finds]

/-- A pattern is found in small letters where its sigmas are what they are in the pattern alone. -/
theorem keeps_ignoring_of_agree {before after : Text}
    (agree : Text.SigmasAgree before after [] [] pattern) :
    (⟨pattern, true, false⟩ : GrepFilter).keeps (before ++ pattern ++ after) = true := by
  rw [keeps_ignoring, Text.lower_parts, Text.lowerBetween_eq_iff.mpr agree, ← Text.lower_eq]
  exact ⟨_, _, rfl⟩

/-- Beside a pattern with an unsettled sigma there may stand a letter by which it is missed. -/
theorem exists_missed (unsettled : ¬ Text.Settled pattern) :
    ∃ line, pattern <:+: line ∧ ¬ Text.lower pattern <:+: Text.lower line := by
  have alone := Text.lower_eq pattern
  rcases Text.exists_side unsettled with differ | differ
  · obtain ⟨c, plain, small, letter, other⟩ := Text.exists_letter (Text.lower pattern).head?
    refine ⟨[c] ++ pattern ++ [], ⟨[c], [], rfl⟩, ?_⟩
    rw [Text.lower_parts, Text.lowerBetween_letter plain small, Text.lowerBetween, List.append_nil,
      List.singleton_append]
    intro within
    have length : (Text.lower pattern).length = (Text.lowerBetween [c] pattern []).length := by
      rw [alone, Text.lowerBetween_length [] [c] pattern [] []]
    have same := Text.eq_of_infix_cons within length other
    exact differ c letter (Text.lowerBetween_eq_iff.mp (same.symm.trans alone))
  · obtain ⟨c, plain, small, letter, other⟩ := Text.exists_letter (Text.lower pattern).getLast?
    refine ⟨[] ++ pattern ++ [c], ⟨[], [c], rfl⟩, ?_⟩
    rw [Text.lower_parts, Text.lowerBetween_letter plain small, Text.lowerBetween, List.nil_append]
    intro within
    have length : (Text.lower pattern).length = (Text.lowerBetween [] pattern [c]).length := by
      rw [alone, Text.lowerBetween_length [] [] pattern [] [c]]
    have same := Text.eq_of_infix_concat within length other
    exact differ c letter (Text.lowerBetween_eq_iff.mp (same.symm.trans alone))

/--
With case ignored, a pattern is still found where each of its capital sigmas ends a word exactly if
it does so in the pattern alone. So nothing is lost for the patterns whose sigmas are settled within
them, in particular for those without one, and for no others.
-/
theorem ignoring_case_widens_where_sigmas_agree (pattern : Text) :
    let exact : GrepFilter := ⟨pattern, false, false⟩
    let ignoring : GrepFilter := ⟨pattern, true, false⟩
    (∀ before after, Text.SigmasAgree before after [] [] pattern →
      ignoring.keeps (before ++ pattern ++ after) = true) ∧
    (Text.capitalSigma ∉ pattern → Text.Settled pattern) ∧
    (Text.Settled pattern ↔ ∀ line, exact.keeps line = true → ignoring.keeps line = true) ∧
    (Text.Settled pattern →
      (∀ line, (⟨pattern, true, true⟩ : GrepFilter).keeps line = true →
        (⟨pattern, false, true⟩ : GrepFilter).keeps line = true) ∧
      ∀ output, ((Text.lines output).filter exact.keeps).Sublist
        ((Text.lines output).filter ignoring.keeps)) := by
  intro exact ignoring
  have widens (settled : Text.Settled pattern) (line : Text) (kept : exact.keeps line = true) :
      ignoring.keeps line = true := by
    obtain ⟨before, after, rfl⟩ := keeps_exact.mp kept
    exact keeps_ignoring_of_agree (settled.agree before after)
  refine ⟨fun before after agree => keeps_ignoring_of_agree agree, Text.settled_of_no_sigma,
    ⟨widens, fun all => ?_⟩, fun settled => ⟨fun line kept => ?_, fun output => ?_⟩⟩
  · refine Decidable.byContradiction fun unsettled => ?_
    obtain ⟨line, here, missed⟩ := exists_missed unsettled
    exact missed (keeps_ignoring.mp (all line (keeps_exact.mpr here)))
  · rw [keeps_inverted, Bool.not_eq_true'] at kept ⊢
    rw [← Bool.not_eq_true] at kept ⊢
    exact fun found => kept (widens settled line found)
  · exact List.monotone_filter_right _ (widens settled)

/-- A sigma that ends a word in the pattern is found, and so is one that follows a digit. -/
theorem sigma_before_a_blank_is_found :
    let pattern : Text := "ΟΔΟΣ 1"
    let output : Text := "ΟΔΟΣ\nΗ ΟΔΟΣ 12\nοδος 1"
    Text.Settled pattern ∧ Text.Settled "οδος" ∧
    Text.SigmasAgree "1" [] [] [] "Σ" ∧
    (⟨"Σ", true, false⟩ : GrepFilter).keeps "1Σ" = true ∧
    (⟨pattern, true, false⟩ : GrepFilter).keeps "Η ΟΔΟΣ 12" = true ∧
    (⟨pattern, false, true⟩ : GrepFilter).keeps "ΟΔΟΣ" = true ∧
    ((Text.lines output).filter (⟨pattern, false, false⟩ : GrepFilter).keeps).Sublist
      ((Text.lines output).filter (⟨pattern, true, false⟩ : GrepFilter).keeps) := by
  intro pattern output
  have settled : Text.Settled pattern := by decide +kernel
  have agree : Text.SigmasAgree "1" [] [] [] "Σ" := by decide +kernel
  obtain ⟨_, _, widens, rest⟩ := ignoring_case_widens_where_sigmas_agree pattern
  obtain ⟨narrows, sublist⟩ := rest settled
  exact ⟨settled, (ignoring_case_widens_where_sigmas_agree "οδος").2.1 (by decide), agree,
    (ignoring_case_widens_where_sigmas_agree "Σ").1 "1" [] agree,
    widens.mp settled _ (by decide +kernel), narrows _ (by decide +kernel), sublist output⟩

/-- A sigma alone ends no word, and at the end of a word it does: with case ignored it is missed. -/
theorem sigma_at_the_end_is_missed :
    let line : Text := "ΑΣ"
    (⟨"Σ", false, false⟩ : GrepFilter).keeps line = true ∧
    (⟨"Σ", true, false⟩ : GrepFilter).keeps line = false ∧
    (⟨"Σ", false, false⟩ : GrepFilter).apply line = line ∧
    (⟨"Σ", true, false⟩ : GrepFilter).apply line = [] := by
  decide +kernel

end GrepFilter
end PocketShell
