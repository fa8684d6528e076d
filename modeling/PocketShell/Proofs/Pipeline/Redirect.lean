import PocketShell.Proofs.Pipeline.Operator
import PocketShell.Proofs.Text.Pattern
import PocketShell.Proofs.Text.Trimmed

/-!
A redirect is read at the least place of its operator. Matching a pattern with backtracking comes to
the same: as few characters as possible, blanks, the operator, blanks, and all that is left. The
pattern may take blanks along on either side of an operator, and they are trimmed off again; but it
cannot pass over an operator, as no operator begins with a blank.
-/

namespace PocketShell.Redirect

open Text Text.Pattern

section Patterns

def behind : List Part := [.run isBlank 0 .many, .run (fun _ => true) 1 .many, .ending]

def fromOperator (operator : Text) : List Part :=
  .run isBlank 0 .many :: .literal operator :: behind

/-- Something, an operator and something, with blanks around the operator. -/
def pattern (operator : Text) : List Part := .run (fun _ => true) 1 .few :: fromOperator operator

variable {operator t text rest : Text} {i : Nat} {taken : List Text}

theorem matched_behind (some_rest : rest ≠ []) :
    ∃ gap target, matched behind rest = some [gap, target] ∧ trim target = trim rest := by
  cases read : matched behind rest with
  | none =>
      have failed := matched_run_eq_none_iff.mp read 0 (by simp [mem_counts])
      rw [List.drop_zero, matched_all some_rest] at failed
      cases failed
  | some taken =>
      obtain ⟨n, count, others, goes_on, rfl, _⟩ := matched_run_eq_some read
      have some_target : rest.drop n ≠ [] := by
        intro none_left
        rw [none_left] at goes_on
        cases goes_on
      rw [matched_all some_target] at goes_on
      cases goes_on
      have blank : ∀ c ∈ rest.take n, isBlank c = true := (mem_counts.mp count).2.2
      have same := trimStart_append blank (rest.drop n)
      rw [List.take_append_drop] at same
      exact ⟨_, _, rfl, by rw [trim, trim, same]⟩

theorem matched_fromOperator (operator : Text) (some_rest : rest ≠ []) :
    matched (fromOperator operator) (operator ++ rest) ≠ none := by
  intro failed
  obtain ⟨gap, target, goes_on, _⟩ := matched_behind some_rest
  have here := matched_run_eq_none_iff.mp failed 0 (by simp [mem_counts])
  rw [List.drop_zero, matched_literal, goes_on] at here
  cases here

theorem matched_fromOperator_eq_some (read : matched (fromOperator operator) t = some taken) :
    ∃ blanks gap rest target, t = blanks ++ (operator ++ rest) ∧
      (∀ c ∈ blanks, isBlank c = true) ∧ rest ≠ [] ∧ taken = [blanks, gap, target] ∧
      trim target = trim rest := by
  obtain ⟨n, count, others, here, rfl, _⟩ := matched_run_eq_some read
  obtain ⟨rest, parted, goes_on⟩ := matched_literal_eq_some here
  have some_rest : rest ≠ [] := by
    rintro rfl
    cases goes_on
  obtain ⟨gap, target, behind, same⟩ := matched_behind some_rest
  rw [behind] at goes_on
  cases goes_on
  refine ⟨t.take n, gap, rest, target, ?_, (mem_counts.mp count).2.2, some_rest, rfl, same⟩
  rw [← parted, List.take_append_drop]

theorem pattern_goes_on (place : i ∈ places operator text) :
    i ∈ counts (fun _ => true) 1 .few text ∧
      matched (fromOperator operator) (text.drop i) ≠ none := by
  obtain ⟨some_before, stands⟩ := place
  have long := stands.2
  refine ⟨mem_counts.mpr ⟨by omega, some_before, by simp⟩, ?_⟩
  rw [stands.drop_eq]
  apply matched_fromOperator
  rw [← List.length_pos_iff, List.length_drop]
  omega

theorem matched_pattern_eq_some (read : matched (pattern operator) text = some taken) :
    ∃ before blanks gap rest target, text = before ++ (blanks ++ (operator ++ rest)) ∧
      before ≠ [] ∧ (∀ c ∈ blanks, isBlank c = true) ∧ rest ≠ [] ∧
      taken = [before, blanks, gap, target] ∧ trim target = trim rest ∧
      ∀ i ∈ places operator text, before.length ≤ i := by
  obtain ⟨n, count, others, found, rfl, few⟩ := matched_run_eq_some read
  obtain ⟨blanks, gap, rest, target, parted, blank, some_rest, rfl, same⟩ :=
    matched_fromOperator_eq_some found
  obtain ⟨short, some_before, _⟩ := mem_counts.mp count
  refine ⟨text.take n, blanks, gap, rest, target, ?_, ?_, blank, some_rest, rfl, same, ?_⟩
  · rw [← parted, List.take_append_drop]
  · rw [← List.length_pos_iff, List.length_take]
    omega
  · intro i place
    obtain ⟨count', goes_on⟩ := pattern_goes_on place
    exact (List.length_take_le n text).trans (few i count' goes_on)

theorem matched_pattern_of_empty (empty : places operator text = ∅) :
    matched (pattern operator) text = none := by
  cases read : matched (pattern operator) text with
  | none => rfl
  | some taken =>
      obtain ⟨before, blanks, _, rest, _, rfl, some_before, _, some_rest, _⟩ :=
        matched_pattern_eq_some read
      have place := mem_places operator (List.append_ne_nil_of_left_ne_nil some_before blanks)
        some_rest
      rw [List.append_assoc, empty] at place
      exact place.elim

/-- The pattern finds the operator at its least place, up to blanks that are trimmed off. -/
theorem matched_pattern_of_isLeast {first : CodePoint} (visible : isBlank first = false)
    (least : IsLeast (places (first :: operator) text) i) :
    ∃ before blanks gap target, matched (pattern (first :: operator)) text =
        some [before, blanks, gap, target] ∧ trim before = trim (text.take i) ∧
      trim target = trim (text.drop (i + (first :: operator).length)) := by
  cases read : matched (pattern (first :: operator)) text with
  | none =>
      obtain ⟨count, goes_on⟩ := pattern_goes_on least.1
      exact absurd (matched_run_eq_none_iff.mp read i count) goes_on
  | some taken =>
      obtain ⟨before, blanks, gap, rest, target, rfl, some_before, blank, some_rest, rfl, same,
        early⟩ := matched_pattern_eq_some read
      have free : first ∉ blanks := by
        intro inside
        rw [blank first inside] at visible
        cases visible
      have late := least.1.2.behind before free (early i least.1)
      rw [← List.append_assoc] at least ⊢
      have place := mem_places (first :: operator)
        (List.append_ne_nil_of_left_ne_nil some_before blanks) some_rest
      have here : (before ++ blanks).length = i := Nat.le_antisymm late (least.2 place)
      refine ⟨before, blanks, gap, target, rfl, ?_, ?_⟩
      · rw [← here, List.take_left, trim_append_blank before blank]
      · rw [← here, ← List.drop_drop, List.drop_left, List.drop_left, same]

end Patterns

/-- What is read by the patterns, the one for appending first. -/
def parseByPattern (text : Text) : Text × Option Redirect :=
  match matched (pattern ['>', '>']) text with
  | some [before, _, _, target] => (trim before, some ⟨trim target, .append⟩)
  | _ =>
      match matched (pattern ['>']) text with
      | some [before, _, _, target] => (trim before, some ⟨trim target, .overwrite⟩)
      | _ => (text, none)

theorem parseByPattern_eq (text : Text) : parseByPattern text = parse text := by
  have visible : isBlank '>' = false := rfl
  obtain ⟨read, parted⟩ := exists_parted text
  rw [parted.parse_eq]
  cases parted with
  | append least =>
      obtain ⟨before, blanks, gap, target, found, front, back⟩ :=
        matched_pattern_of_isLeast visible least
      simp only [parseByPattern, found, front, back]
      rfl
  | overwrite no_append least =>
      obtain ⟨before, blanks, gap, target, found, front, back⟩ :=
        matched_pattern_of_isLeast visible least
      simp only [parseByPattern, matched_pattern_of_empty no_append, found, front, back]
      rfl
  | plain no_append no_overwrite =>
      simp only [parseByPattern, matched_pattern_of_empty no_append,
        matched_pattern_of_empty no_overwrite]

variable {f : CodePoint → CodePoint}

theorem places_map (fixed : ∀ c, f c = '>' ↔ c = '>') (n : Nat) (text : Text) :
    let operator : Text := List.replicate n (.char '>')
    places operator (text.map f) = places operator text := by
  intro operator
  have same (u : Text) : u.map f = operator ↔ u = operator := by
    simp only [operator, List.eq_replicate_iff, List.length_map, List.forall_mem_map, fixed]
  ext i
  refine and_congr_right fun _ => ?_
  rw [StandsAt, StandsAt, ← List.map_drop, ← List.map_take, same, List.length_map]

/-- Characters may be exchanged before a text is parted, if operators and blanks are kept. -/
theorem parse_map (blank : ∀ c, isBlank (f c) = isBlank c) (fixed : ∀ c, f c = '>' ↔ c = '>')
    (text : Text) : parse (text.map f) =
      ((parse text).1.map f, (parse text).2.map fun r => { r with target := r.target.map f }) := by
  have double : places ['>', '>'] (text.map f) = places ['>', '>'] text := places_map fixed 2 text
  have single : places ['>'] (text.map f) = places ['>'] text := places_map fixed 1 text
  obtain ⟨read, parted⟩ := exists_parted text
  rw [parted.parse_eq]
  apply Parted.parse_eq
  cases parted with
  | append least =>
      have exchanged := Parted.append (double.symm ▸ least)
      simpa [← List.map_take, ← List.map_drop, trim_map blank] using exchanged
  | overwrite no_append least =>
      have exchanged := Parted.overwrite (double.trans no_append) (single.symm ▸ least)
      simpa [← List.map_take, ← List.map_drop, trim_map blank] using exchanged
  | plain no_append no_overwrite =>
      exact .plain (double.trans no_append) (single.trans no_overwrite)

def onOneLine (t : Text) : Text := t.map fun c : CodePoint => if c = '\n' then ' ' else c

theorem parse_onOneLine (text : Text) : parse (onOneLine text) =
    (onOneLine (parse text).1,
      (parse text).2.map fun r => { r with target := onOneLine r.target }) := by
  apply parse_map
  · intro c
    split
    · next feed => rw [feed]; rfl
    · rfl
  · intro c
    split
    · next feed => simp [feed]
    · rfl

/--
A redirect is read at the least place of `>>`, whatever stands before it, and without such a place
at the least one of `>`; a text with no place of either has no redirect and comes back as it is.
Blanks are stripped off both sides, line feeds count as the blanks they are, and the two patterns
find the same.
-/
theorem redirect_is_read_at_least_place (text : Text) :
    (∀ read, parse text = read ↔ Parted text read) ∧
    (∀ part : Text, Stripped part (trim part)) ∧
    parse (onOneLine text) =
      (onOneLine (parse text).1,
        (parse text).2.map fun r => { r with target := onOneLine r.target }) ∧
    parse text = parseByPattern text := by
  refine ⟨fun read => ⟨?_, Parted.parse_eq⟩, stripped_trim, parse_onOneLine text,
    (parseByPattern_eq text).symm⟩
  rintro rfl
  obtain ⟨read, parted⟩ := exists_parted text
  rw [parted.parse_eq]
  exact parted

/-- Of three signs in a row the first two are the operator, but not where the text begins. -/
example : parse ("a > b >>> c" : Text) = (("a > b" : Text), some ⟨("> c" : Text), .append⟩) ∧
    parse (">> a" : Text) = ((">" : Text), some ⟨("a" : Text), .overwrite⟩) ∧
    parse ("a >" : Text) = (("a >" : Text), none) := by decide

end PocketShell.Redirect
