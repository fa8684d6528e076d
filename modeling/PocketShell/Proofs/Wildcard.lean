import PocketShell.Wildcard

/-!
Wildcards as a relation. The search through the suffixes of a name finds a match exactly if there is
one, so an argument with a wildcard stands for the names that it matches as a whole, in their order,
or else for itself. There is one gap in this: the match may leave over a line feed at the end of a
name, so a name may be found of which the pattern does not match the last character.
-/

namespace PocketShell

theorem Text.anySuffix_iff {p : Text → Bool} {t : Text} :
    anySuffix p t = true ↔ ∃ skipped rest, skipped ++ rest = t ∧ p rest = true := by
  induction t with
  | nil =>
      simp only [anySuffix]
      constructor
      · exact fun holds => ⟨[], [], rfl, holds⟩
      · rintro ⟨skipped, rest, parts, holds⟩
        obtain ⟨rfl, rfl⟩ := List.append_eq_nil_iff.mp parts
        exact holds
  | cons c t ih =>
      rw [anySuffix, Bool.or_eq_true, ih]
      constructor
      · rintro (here | ⟨skipped, rest, rfl, holds⟩)
        · exact ⟨[], c :: t, rfl, here⟩
        · exact ⟨c :: skipped, rest, rfl, holds⟩
      · rintro ⟨skipped, rest, parts, holds⟩
        cases skipped with
        | nil =>
            cases parts
            exact .inl holds
        | cons d skipped =>
            cases parts
            exact .inr ⟨skipped, rest, rfl, holds⟩

namespace Wildcard

variable {pattern t argument name : Text} {names : List Text}

theorem matches_nil : Matches [] t ↔ t = [] := by
  constructor
  · rintro ⟨⟩
    rfl
  · rintro rfl
    exact .done

theorem matches_star :
    Matches ('*' :: pattern) t ↔ ∃ skipped rest, skipped ++ rest = t ∧ Matches pattern rest := by
  constructor
  · rintro (_ | ⟨skipped, below⟩ | _ | ⟨_, not_star, _, _⟩)
    · exact ⟨skipped, _, rfl, below⟩
    · exact absurd rfl not_star
  · rintro ⟨skipped, rest, rfl, below⟩
    exact .run skipped below

theorem matches_any :
    Matches ('?' :: pattern) t ↔ ∃ c rest, c :: rest = t ∧ Matches pattern rest := by
  constructor
  · rintro (_ | _ | ⟨c, below⟩ | ⟨_, _, not_mark, _⟩)
    · exact ⟨c, _, rfl, below⟩
    · exact absurd rfl not_mark
  · rintro ⟨c, rest, rfl, below⟩
    exact .any c below

theorem matches_same {c : CodePoint} (not_star : c ≠ '*') (not_mark : c ≠ '?') :
    Matches (c :: pattern) t ↔ ∃ rest, c :: rest = t ∧ Matches pattern rest := by
  constructor
  · rintro (_ | _ | _ | ⟨_, _, _, below⟩)
    · exact absurd rfl not_star
    · exact absurd rfl not_mark
    · exact ⟨_, rfl, below⟩
  · rintro ⟨rest, rfl, below⟩
    exact .same c not_star not_mark below

theorem covers_iff : covers pattern t = true ↔ Matches pattern t := by
  induction pattern generalizing t with
  | nil => cases t <;> simp [covers, matches_nil]
  | cons p pattern ih =>
      by_cases star : p = '*'
      · simp only [covers, star, if_true, Text.anySuffix_iff, matches_star, ih]
      · by_cases mark : p = '?'
        · rw [mark, matches_any]
          cases t <;> simp [covers, ih, and_assoc]
        · rw [matches_same star mark]
          cases t <;> simp [covers, star, mark, ih, and_assoc]

instance (pattern t : Text) : Decidable (Matches pattern t) := decidable_of_iff _ covers_iff

/-- The pattern matches a name, or the name but for a line feed at its end. -/
def MatchesButFeed (pattern name : Text) : Prop :=
  Matches pattern name ∨ ∃ t, name = t ++ (['\n'] : Text) ∧ Matches pattern t

theorem matchesName_iff : matchesName pattern name = true ↔ MatchesButFeed pattern name := by
  simp only [matchesName, Bool.or_eq_true, Bool.and_eq_true, beq_iff_eq, covers_iff]
  refine or_congr_right ⟨?_, ?_⟩
  · rintro ⟨last, whole⟩
    obtain ⟨t, rfl⟩ := List.getLast?_eq_some_iff.mp last
    exact ⟨t, rfl, by simpa using whole⟩
  · rintro ⟨t, rfl, whole⟩
    exact ⟨by simp, by simpa using whole⟩

instance (pattern name : Text) : Decidable (MatchesButFeed pattern name) :=
  decidable_of_iff _ matchesName_iff

theorem matchesButFeed_iff (no_feed : name.getLast? ≠ some (.char '\n')) :
    MatchesButFeed pattern name ↔ Matches pattern name := by
  refine or_iff_left ?_
  rintro ⟨t, rfl, _⟩
  exact no_feed (by simp)

/-- What an argument stands for if these names are found for it. -/
def standsFor (found : List Text) (argument : Text) : List Text :=
  if (.char '*' ∈ argument ∨ .char '?' ∈ argument) ∧ found ≠ [] then found else [argument]

theorem isPattern_iff :
    isPattern argument = true ↔ .char '*' ∈ argument ∨ .char '?' ∈ argument := by
  simp [isPattern]

theorem expandOne_eq (names : List Text) (argument : Text) :
    expandOne names argument =
      standsFor (names.filter fun name => MatchesButFeed argument name) argument := by
  have search : names.filter (matchesName argument) =
      names.filter fun name => decide (MatchesButFeed argument name) := by
    refine List.filter_congr fun name _ => ?_
    rw [Bool.eq_iff_iff, matchesName_iff, decide_eq_true_iff]
  rw [expandOne, standsFor, ← search]
  by_cases wild : isPattern argument = true
  · rw [if_pos wild]
    cases names.filter (matchesName argument) <;> simp [isPattern_iff.mp wild]
  · rw [if_neg wild, if_neg fun wildcard => wild (isPattern_iff.mpr wildcard.1)]

/-- Arguments are expanded one by one, in their order. One with a wildcard stands for the names
that it matches as a whole, in the order of the names, and for itself if there is none; a line
feed at the end of a name need not be matched, so the names found are exactly those where no name
ends in one. -/
theorem expansion_finds_all_that_match (arguments names : List Text) :
    expand arguments names = (arguments.flatMap fun argument =>
      standsFor (names.filter fun name => MatchesButFeed argument name) argument) ∧
    ((∀ name ∈ names, name.getLast? ≠ some (.char '\n')) →
      expand arguments names = arguments.flatMap fun argument =>
        standsFor (names.filter fun name => Matches argument name) argument) := by
  have each : expand arguments names = arguments.flatMap fun argument =>
      standsFor (names.filter fun name => MatchesButFeed argument name) argument :=
    congrArg arguments.flatMap (funext (expandOne_eq names))
  refine ⟨each, fun no_feed => ?_⟩
  rw [each]
  congr 1
  funext argument
  have same : names.filter (fun name => decide (MatchesButFeed argument name)) =
      names.filter fun name => decide (Matches argument name) :=
    List.filter_congr fun name mem => decide_eq_decide.mpr (matchesButFeed_iff (no_feed name mem))
  rw [same]

/-- Line feeds within names and characters that mean something elsewhere are matched as they are. -/
theorem marks_and_stars_find_their_names :
    let arguments : List Text := ["-v", "?.t*", "[a].*", "*.md"]
    let names : List Text := ["\n.t", "a.txt", "ab.t", "a.md", "[a].c\nd", "axt"]
    let found : List Text := ["-v", "\n.t", "a.txt", "[a].c\nd", "a.md"]
    (∀ name ∈ names, name.getLast? ≠ some (.char '\n')) ∧
    expand arguments names = (arguments.flatMap fun argument =>
      standsFor (names.filter fun name => Matches argument name) argument) ∧
    expand arguments names = found := by
  intro arguments names found
  have no_feed : ∀ name ∈ names, name.getLast? ≠ some (.char '\n') := by decide
  exact ⟨no_feed, (expansion_finds_all_that_match arguments names).2 no_feed, by decide⟩

/-- A single mark finds a name of two characters, the second of which is a line feed. -/
theorem mark_finds_two_characters :
    let arguments : List Text := ["?"]
    let names : List Text := ["a\n"]
    ¬ Matches "?" "a\n" ∧ expand arguments names = names ∧
    expand arguments names ≠ arguments.flatMap fun argument =>
      standsFor (names.filter fun name => Matches argument name) argument := by
  decide

end Wildcard
end PocketShell
