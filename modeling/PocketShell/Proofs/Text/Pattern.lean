import Mathlib.Data.List.Basic
import PocketShell.Text.Basic

/-!
Patterns of runs, fixed texts and the end of the text, matched with backtracking: every run tries
the counts of characters that it may take in its order, and the first one stands with which the rest
of the pattern matches. So a run that takes as few characters as possible takes the least such
count, and one that takes as many as possible the greatest.
-/

namespace PocketShell.Text.Pattern

/-- A run takes as few or as many characters as the rest of the pattern allows. -/
inductive Choice
  | few
  | many

/-- Parts of a pattern; at its end, one line feed of the text may be left over. -/
inductive Part
  | run (kind : CodePoint → Bool) (least : Nat) (choice : Choice)
  | literal (word : Text)
  | ending

/-- How many characters a run may take from a text, in the order in which it tries. -/
def counts (kind : CodePoint → Bool) (least : Nat) (choice : Choice) (t : Text) : List Nat :=
  let all := (List.range (t.length + 1)).filter fun n => decide (least ≤ n) && (t.take n).all kind
  match choice with
  | .few => all
  | .many => all.reverse

/-- What the runs of a pattern take, each by the first count with which the rest matches too. -/
def matched : List Part → Text → Option (List Text)
  | [], _ => some []
  | .run kind least choice :: parts, t =>
      (counts kind least choice t).findSome? fun n =>
        (matched parts (t.drop n)).map (t.take n :: ·)
  | .literal word :: parts, t =>
      if word.isPrefixOf t then matched parts (t.drop word.length) else none
  | .ending :: parts, t => if t = [] ∨ t = (['\n'] : Text) then matched parts t else none

def Choice.Prefers : Choice → Nat → Nat → Prop
  | .few, m, n => m ≤ n
  | .many, m, n => n ≤ m

variable {kind : CodePoint → Bool} {least n : Nat} {choice : Choice} {parts : List Part}
  {t : Text} {taken : List Text}

theorem mem_counts : n ∈ counts kind least choice t ↔
    n ≤ t.length ∧ least ≤ n ∧ ∀ c ∈ t.take n, kind c = true := by
  have listed : n ∈ counts kind least choice t ↔ n ∈ (List.range (t.length + 1)).filter
      fun n => decide (least ≤ n) && (t.take n).all kind := by
    cases choice with
    | few => rfl
    | many => exact List.mem_reverse
  rw [listed, List.mem_filter, List.mem_range, Nat.lt_succ_iff, Bool.and_eq_true,
    decide_eq_true_iff, List.all_eq_true]

theorem pairwise_counts (kind : CodePoint → Bool) (least : Nat) (choice : Choice) (t : Text) :
    (counts kind least choice t).Pairwise choice.Prefers := by
  have sorted : (List.range (t.length + 1)).Pairwise (· ≤ ·) :=
    List.pairwise_lt_range.imp Nat.le_of_lt
  cases choice with
  | few => exact sorted.filter _
  | many => exact List.pairwise_reverse.mpr (sorted.filter _)

theorem matched_run_eq_none_iff : matched (.run kind least choice :: parts) t = none ↔
    ∀ n ∈ counts kind least choice t, matched parts (t.drop n) = none := by
  simp [matched, List.findSome?_eq_none_iff]

/-- A run prefers what it takes to every other count with which the rest matches. -/
theorem matched_run_eq_some (read : matched (.run kind least choice :: parts) t = some taken) :
    ∃ n ∈ counts kind least choice t, ∃ others, matched parts (t.drop n) = some others ∧
      taken = t.take n :: others ∧ ∀ m ∈ counts kind least choice t,
        matched parts (t.drop m) ≠ none → choice.Prefers n m := by
  obtain ⟨earlier, n, later, order, here, failed⟩ := List.findSome?_eq_some_iff.mp read
  obtain ⟨others, goes_on, rfl⟩ := Option.map_eq_some_iff.mp here
  have sorted := pairwise_counts kind least choice t
  rw [order] at sorted ⊢
  refine ⟨n, by simp, others, goes_on, rfl, ?_⟩
  intro m listed goes_on'
  rcases List.mem_append.mp listed with before | behind
  · exact absurd (Option.map_eq_none_iff.mp (failed m before)) goes_on'
  · rcases List.mem_cons.mp behind with rfl | after
    · cases choice <;> exact Nat.le_refl m
    · exact (List.pairwise_cons.mp (List.pairwise_append.mp sorted).2.1).1 m after

theorem matched_literal (word rest : Text) (parts : List Part) :
    matched (.literal word :: parts) (word ++ rest) = matched parts rest := by
  simp [matched]

theorem matched_literal_eq_some {word : Text}
    (read : matched (.literal word :: parts) t = some taken) :
    ∃ rest, t = word ++ rest ∧ matched parts rest = some taken := by
  simp only [matched] at read
  split at read
  · next here =>
    obtain ⟨rest, rfl⟩ := List.isPrefixOf_iff_prefix.mp here
    exact ⟨rest, rfl, by simpa using read⟩
  · cases read

/-- A run of as many characters as possible goes to the end. -/
theorem matched_all (some_character : t ≠ []) :
    matched [.run (fun _ => true) 1 .many, .ending] t = some [t] := by
  have whole : t.length ∈ counts (fun _ => true) 1 .many t := by
    simpa [mem_counts, Nat.one_le_iff_ne_zero] using some_character
  have ended : matched [.ending] (t.drop t.length) ≠ none := by simp [matched]
  cases read : matched [.run (fun _ => true) 1 .many, .ending] t with
  | none => exact absurd (matched_run_eq_none_iff.mp read _ whole) ended
  | some taken =>
      obtain ⟨n, _, others, goes_on, rfl, many⟩ := matched_run_eq_some read
      have all : t.length ≤ n := many t.length whole ended
      rw [List.drop_of_length_le all] at goes_on
      cases goes_on
      rw [List.take_of_length_le all]

end PocketShell.Text.Pattern
