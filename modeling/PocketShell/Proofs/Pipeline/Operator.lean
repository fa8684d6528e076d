import Mathlib.Order.Lattice.Nat
import PocketShell.Pipeline.Redirect

/-!
The places of an operator in a text: where it stands with something before it and something behind
it. The text is cut at the least place, so what is read from a text depends on the least places of
the two operators alone. A text without the sign has no place, and where the sign is written once
that is its only place.
-/

namespace PocketShell.Redirect

open Text

/-- At place `i` the operator stands, with something behind it. -/
def StandsAt (operator text : Text) (i : Nat) : Prop :=
  (text.drop i).take operator.length = operator ∧ i + operator.length < text.length

/-- The places where the operator stands with something before it and something behind it. -/
def places (operator text : Text) : Set Nat := {i | 1 ≤ i ∧ StandsAt operator text i}

variable {operator t text : Text} {i : Nat}

theorem standsAt_succ {c : CodePoint} :
    StandsAt operator (c :: t) (i + 1) ↔ StandsAt operator t i := by
  refine and_congr Iff.rfl ?_
  rw [List.length_cons]
  omega

theorem succ_mem_places {c : CodePoint} :
    i + 1 ∈ places operator (c :: t) ↔ StandsAt operator t i :=
  ⟨fun place => standsAt_succ.mp place.2,
    fun stands => ⟨Nat.le_add_left 1 i, standsAt_succ.mpr stands⟩⟩

theorem standsAt_zero {c : CodePoint} : StandsAt operator (c :: t) 0 ↔
    (operator.isPrefixOf (c :: t) && decide (operator.length < (c :: t).length)) = true := by
  rw [Bool.and_eq_true, decide_eq_true_iff, List.isPrefixOf_iff_prefix, List.prefix_iff_eq_take]
  simp [StandsAt, eq_comm]

theorem StandsAt.drop_eq (stands : StandsAt operator text i) :
    text.drop i = operator ++ text.drop (i + operator.length) := by
  have parted := List.take_append_drop operator.length (text.drop i)
  rw [stands.1, List.drop_drop] at parted
  exact parted.symm

theorem isLeast_of_succ {here below : Set Nat} (shifted : ∀ k, k + 1 ∈ here ↔ k ∈ below)
    (least : IsLeast here (i + 1)) : IsLeast below i := by
  refine ⟨(shifted i).mp least.1, ?_⟩
  intro k mem
  exact Nat.succ_le_succ_iff.mp (least.2 ((shifted k).mpr mem))

theorem cutAt_of_isLeast (least : IsLeast {i | StandsAt operator t i} i) :
    cutAt operator t = some (t.take i, t.drop (i + operator.length)) := by
  induction t generalizing i with
  | nil => exact absurd least.1.2 (by simp)
  | cons c t ih =>
      rw [cutAt]
      split
      · next here =>
        have first : i = 0 := Nat.le_zero.mp (least.2 (standsAt_zero.mpr here))
        simp [first]
      · next absent =>
        cases i with
        | zero => exact absurd (standsAt_zero.mp least.1) absent
        | succ j =>
            rw [ih (isLeast_of_succ (fun k => standsAt_succ) least)]
            simp [Nat.succ_add]

theorem cutAt_of_nowhere (nowhere : ∀ i, ¬ StandsAt operator t i) : cutAt operator t = none := by
  induction t with
  | nil => rfl
  | cons c t ih =>
      rw [cutAt, if_neg fun here => nowhere 0 (standsAt_zero.mpr here),
        ih fun i stands => nowhere (i + 1) (standsAt_succ.mpr stands), Option.map_none]

theorem cutInside_of_isLeast (least : IsLeast (places operator text) i) :
    cutInside operator text = some (text.take i, text.drop (i + operator.length)) := by
  cases text with
  | nil => exact absurd least.1.2.2 (by simp)
  | cons c t =>
      cases i with
      | zero => exact absurd least.1.1 (by simp)
      | succ j =>
          rw [cutInside, cutAt_of_isLeast (isLeast_of_succ (fun k => succ_mem_places) least)]
          simp [Nat.succ_add]

theorem cutInside_of_empty (empty : places operator text = ∅) :
    cutInside operator text = none := by
  cases text with
  | nil => rfl
  | cons c t =>
      have nowhere (i : Nat) : ¬ StandsAt operator t i := by
        intro stands
        have place : i + 1 ∈ places operator (c :: t) := succ_mem_places.mpr stands
        rw [empty] at place
        exact place
      rw [cutInside, cutAt_of_nowhere nowhere, Option.map_none]

theorem mem_places (operator : Text) {before after : Text} (some_before : before ≠ [])
    (some_after : after ≠ []) :
    before.length ∈ places operator (before ++ (operator ++ after)) := by
  have long : 0 < after.length := List.length_pos_iff.mpr some_after
  refine ⟨List.length_pos_iff.mpr some_before, by simp, ?_⟩
  simp only [List.length_append]
  omega

section Sign

variable {first : CodePoint} {before after : Text}

theorem places_of_not_mem (free : first ∉ t) : places (first :: operator) t = ∅ := by
  apply Set.eq_empty_of_forall_notMem
  intro i place
  have behind : first ∈ t.drop i := by
    rw [place.2.drop_eq]
    exact .head _
  exact free (List.mem_of_mem_drop behind)

/-- An operator does not begin where its first sign is not. -/
theorem StandsAt.behind (before : Text) {gap : Text} (free : first ∉ gap)
    (stands : StandsAt (first :: operator) (before ++ (gap ++ after)) i)
    (early : before.length ≤ i) : (before ++ gap).length ≤ i := by
  rw [List.length_append]
  by_contra late
  have inside : i - before.length < gap.length := by omega
  have here := congrArg List.head? stands.drop_eq
  rw [List.head?_drop, List.getElem?_append_right early, List.getElem?_append_left inside] at here
  exact free (List.mem_of_getElem? here)

theorem isLeast_places (free : first ∉ before) (some_before : before ≠ [])
    (some_after : after ≠ []) :
    IsLeast (places (first :: operator) (before ++ (first :: operator ++ after)))
      before.length := by
  refine ⟨mem_places _ some_before some_after, ?_⟩
  intro i place
  exact StandsAt.behind [] free place.2 (Nat.zero_le i)

/-- A sign that is written once is no double sign. -/
theorem places_double (free : first ∉ before) (free' : first ∉ after) :
    places [first, first] (before ++ first :: after) = ∅ := by
  apply Set.eq_empty_of_forall_notMem
  intro i place
  have once : (before ++ first :: after).count first = 1 := by
    simp [List.count_eq_zero.mpr free, List.count_eq_zero.mpr free']
  have twice : 2 ≤ ((before ++ first :: after).drop i).count first := by
    rw [place.2.drop_eq]
    simp
  have kept := (List.drop_sublist i (before ++ first :: after)).count_le first
  omega

end Sign

/-- What a text is parted into, by the least places of the two operators. -/
inductive Parted (text : Text) : Text × Option Redirect → Prop
  | append {i : Nat} : IsLeast (places ['>', '>'] text) i →
      Parted text (trim (text.take i), some ⟨trim (text.drop (i + 2)), .append⟩)
  | overwrite {i : Nat} : places ['>', '>'] text = ∅ → IsLeast (places ['>'] text) i →
      Parted text (trim (text.take i), some ⟨trim (text.drop (i + 1)), .overwrite⟩)
  | plain : places ['>', '>'] text = ∅ → places ['>'] text = ∅ → Parted text (text, none)

theorem Parted.parse_eq {read : Text × Option Redirect} (parted : Parted text read) :
    parse text = read := by
  cases parted with
  | append least =>
      rw [parse, cutInside_of_isLeast least]
      rfl
  | overwrite no_append least =>
      rw [parse, cutInside_of_empty no_append, cutInside_of_isLeast least]
      rfl
  | plain no_append no_overwrite =>
      rw [parse, cutInside_of_empty no_append, cutInside_of_empty no_overwrite]

theorem exists_parted (text : Text) : ∃ read, Parted text read := by
  have search (operator : Text) :
      places operator text = ∅ ∨ ∃ i, IsLeast (places operator text) i := by
    apply (places operator text).eq_empty_or_nonempty.imp_right
    intro somewhere
    exact ⟨sInf (places operator text), Nat.sInf_mem somewhere, fun i => Nat.sInf_le⟩
  rcases search ['>', '>'] with no_append | ⟨i, least⟩
  · rcases search ['>'] with no_overwrite | ⟨i, least⟩
    · exact ⟨_, .plain no_append no_overwrite⟩
    · exact ⟨_, .overwrite no_append least⟩
  · exact ⟨_, .append least⟩

section Written

variable {before after : Text}

theorem parse_written_append (free : .char '>' ∉ before) (some_before : before ≠ [])
    (some_after : after ≠ []) :
    parse (before ++ .char '>' :: .char '>' :: after) =
      (trim before, some ⟨trim after, .append⟩) := by
  have read := (Parted.append (isLeast_places free some_before some_after)).parse_eq
  rw [List.take_left, ← List.drop_drop, List.drop_left] at read
  exact read

theorem parse_written_overwrite (free : .char '>' ∉ before) (free' : .char '>' ∉ after)
    (some_before : before ≠ []) (some_after : after ≠ []) :
    parse (before ++ .char '>' :: after) = (trim before, some ⟨trim after, .overwrite⟩) := by
  have read := (Parted.overwrite (places_double free free')
    (isLeast_places free some_before some_after)).parse_eq
  rw [List.take_left, ← List.drop_drop, List.drop_left] at read
  exact read

end Written

theorem parse_eq_none (free : .char '>' ∉ t) : parse t = (t, none) :=
  (Parted.plain (places_of_not_mem free) (places_of_not_mem free)).parse_eq

end PocketShell.Redirect
