import Mathlib.Data.List.Infix
import PocketShell.Text.Case

/-!
Small letters in context. Only a capital sigma is sensitive to what stands around it: its small
letter depends on the nearest characters to both sides that are no marks. So a text has the same
small letters within two surroundings exactly if each of its sigmas ends a word in both or in
neither. Some sigmas have all that matters for them within the text itself, and then its
surroundings do not matter.
-/

namespace PocketShell.Text

variable {before before' after after' t u v : Text} {c : CodePoint}

/-- Whether a capital sigma between the two texts ends a word. -/
def endsWord (before after : Text) : Bool := meetsLetter before.reverse && !meetsLetter after

def lowerIn (before : Text) (c : CodePoint) (after : Text) : Text :=
  if c = capitalSigma then [CodePoint.ofNat (if endsWord before after then 0x3C2 else 0x3C3)]
  else lowerChar c

/-- The small letters for a text that stands between two others. -/
def lowerBetween (before : Text) : Text → Text → Text
  | [], _ => []
  | c :: t, after => lowerIn before c (t ++ after) ++ lowerBetween (before ++ [c]) t after

theorem lowerAfter_append (before t after : Text) :
    lowerAfter before.reverse (t ++ after) =
      lowerBetween before t after ++ lowerAfter (before ++ t).reverse after := by
  induction t generalizing before with
  | nil => simp [lowerBetween]
  | cons c t ih =>
      have below := ih (before ++ [c])
      rw [List.reverse_append, List.reverse_singleton, List.singleton_append] at below
      rw [List.cons_append, lowerAfter, below]
      simp [lowerBetween, lowerIn, endsWord]

theorem lowerAfter_eq (before t : Text) :
    lowerAfter before.reverse t = lowerBetween before t [] := by
  have whole := lowerAfter_append before t []
  simpa [lowerAfter] using whole

/-- A text in parts is lowered part by part, each between the others. -/
theorem lower_parts (before t after : Text) :
    lower (before ++ t ++ after) =
      lowerBetween [] before (t ++ after) ++ lowerBetween before t after ++
        lowerBetween (before ++ t) after [] := by
  calc lower (before ++ t ++ after)
      = lowerAfter (List.reverse []) (before ++ (t ++ after)) := by rw [List.append_assoc]; rfl
    _ = lowerBetween [] before (t ++ after) ++ lowerAfter before.reverse (t ++ after) :=
        lowerAfter_append [] before (t ++ after)
    _ = lowerBetween [] before (t ++ after) ++
          (lowerBetween before t after ++ lowerBetween (before ++ t) after []) := by
        rw [lowerAfter_append before t after, lowerAfter_eq (before ++ t) after]
    _ = _ := (List.append_assoc _ _ _).symm

theorem lower_eq (t : Text) : lower t = lowerBetween [] t [] := lowerAfter_eq [] t

theorem lowerIn_length (before before' after after' : Text) (c : CodePoint) :
    (lowerIn before c after).length = (lowerIn before' c after').length := by
  simp only [lowerIn]
  split <;> rfl

theorem lowerBetween_length (before before' t after after' : Text) :
    (lowerBetween before t after).length = (lowerBetween before' t after').length := by
  induction t generalizing before before' with
  | nil => rfl
  | cons c t ih =>
      simp only [lowerBetween, List.length_append]
      rw [lowerIn_length _ before' _ (t ++ after') c, ih _ (before' ++ [c])]

/-- Each sigma of the text ends a word in both surroundings or in neither. -/
def SigmasAgree (before after before' after' t : Text) : Prop :=
  ∀ u v, t = u ++ capitalSigma :: v →
    endsWord (before ++ u) (v ++ after) = endsWord (before' ++ u) (v ++ after')

theorem lowerIn_eq_iff : lowerIn before c after = lowerIn before' c after' ↔
    (c = capitalSigma → endsWord before after = endsWord before' after') := by
  have different : CodePoint.ofNat 0x3C2 ≠ CodePoint.ofNat 0x3C3 := by decide
  by_cases sigma : c = capitalSigma
  · cases ends : endsWord before after <;> cases ends' : endsWord before' after' <;>
      simp [lowerIn, sigma, ends, ends', different, different.symm]
  · simp [lowerIn, sigma]

theorem sigmasAgree_cons : SigmasAgree before after before' after' (c :: t) ↔
    (c = capitalSigma → endsWord before (t ++ after) = endsWord before' (t ++ after')) ∧
      SigmasAgree (before ++ [c]) after (before' ++ [c]) after' t := by
  constructor
  · intro agree
    refine ⟨?_, ?_⟩
    · rintro rfl
      simpa using agree [] t rfl
    · rintro u v rfl
      simpa using agree (c :: u) v rfl
  · rintro ⟨here, later⟩ u v parts
    cases u with
    | nil =>
        cases parts
        simpa using here rfl
    | cons d u =>
        cases parts
        simpa using later u v rfl

/-- The small letters of a text tell all that its surroundings do to it. -/
theorem lowerBetween_eq_iff : lowerBetween before t after = lowerBetween before' t after' ↔
    SigmasAgree before after before' after' t := by
  induction t generalizing before before' with
  | nil => simp [lowerBetween, SigmasAgree]
  | cons c t ih =>
      rw [sigmasAgree_cons, ← ih, ← lowerIn_eq_iff, lowerBetween, lowerBetween]
      constructor
      · intro same
        exact List.append_inj same (lowerIn_length _ _ _ _ c)
      · rintro ⟨here, later⟩
        rw [here, later]

section Settled

/-- Whether the nearest character that is no mark is a letter with case, if there is one. -/
def nearest (t : Text) : Option Bool := (t.dropWhile isCaseIgnorable).head?.map isCased

theorem meetsLetter_eq (t : Text) : meetsLetter t = (nearest t == some true) := by
  simp only [meetsLetter, nearest]
  split
  · next none_left => simp [none_left]
  · next c rest left => simp [left]

theorem nearest_append (t u : Text) : nearest (t ++ u) = (nearest t).or (nearest u) := by
  induction t with
  | nil => simp [nearest]
  | cons c t ih =>
      simp only [nearest] at ih
      cases mark : isCaseIgnorable c <;> simp [nearest, mark, ih]

theorem endsWord_eq (u v : Text) : endsWord u v =
    (nearest u.reverse == some true && !(nearest v == some true)) := by
  rw [endsWord, meetsLetter_eq, meetsLetter_eq]

theorem endsWord_around (before u v after : Text) : endsWord (before ++ u) (v ++ after) =
    ((nearest u.reverse).or (nearest before.reverse) == some true &&
      !((nearest v).or (nearest after) == some true)) := by
  rw [endsWord_eq, List.reverse_append, nearest_append, nearest_append]

/-- A sigma between these two texts ends a word or not, whatever stands around them: no letter
stands before it, or a letter stands behind it, or both are told by the nearest characters here. -/
def SettledAt (u v : Text) : Prop :=
  nearest u.reverse = some false ∨ nearest v = some true ∨
    ((nearest u.reverse).isSome ∧ (nearest v).isSome)

/-- Every capital sigma of the text is settled within it. -/
def Settled (t : Text) : Prop := ∀ u v, t = u ++ capitalSigma :: v → SettledAt u v

theorem forall_parts_iff {P : Text → Text → Prop} : (∀ u v, t = u ++ c :: v → P u v) ↔
    ∀ i < t.length, t[i]? = some c → P (t.take i) (t.drop (i + 1)) := by
  constructor
  · intro all i lt here
    refine all _ _ ?_
    have at_i := (List.getElem_eq_iff lt).mpr here
    rw [← at_i, ← List.drop_eq_getElem_cons lt, List.take_append_drop]
  · rintro all u v rfl
    simpa using all u.length (by simp) (by simp)

instance (u v : Text) : Decidable (SettledAt u v) := by unfold SettledAt; infer_instance

instance (t : Text) : Decidable (Settled t) := decidable_of_iff _ forall_parts_iff.symm

instance (before after before' after' t : Text) :
    Decidable (SigmasAgree before after before' after' t) :=
  decidable_of_iff _ forall_parts_iff.symm

theorem settled_of_no_sigma (free : capitalSigma ∉ t) : Settled t := by
  rintro u v rfl
  exact absurd (by simp) free

theorem endsWord_of_settledAt (settled : SettledAt u v) (before after : Text) :
    endsWord (before ++ u) (v ++ after) = endsWord u v := by
  rw [endsWord_around, endsWord_eq]
  simp only [SettledAt] at settled
  generalize nearest u.reverse = x at settled ⊢
  generalize nearest v = y at settled ⊢
  rcases settled with rfl | rfl | ⟨some_x, some_y⟩
  · simp
  · simp
  · obtain ⟨x, rfl⟩ := Option.isSome_iff_exists.mp some_x
    obtain ⟨y, rfl⟩ := Option.isSome_iff_exists.mp some_y
    simp

/-- A letter on one of the two sides changes what an unsettled sigma is. -/
theorem endsWord_of_not_settledAt (unsettled : ¬ SettledAt u v) :
    (∀ c, nearest [c] = some true → endsWord ([c] ++ u) (v ++ []) ≠ endsWord u v) ∨
      ∀ c, nearest [c] = some true → endsWord ([] ++ u) (v ++ [c]) ≠ endsWord u v := by
  simp only [SettledAt, not_or, not_and] at unsettled
  obtain ⟨no_break, no_letter, one_open⟩ := unsettled
  have nothing : nearest [] = none := rfl
  cases left : nearest u.reverse with
  | none =>
      refine .inl fun c letter => ?_
      rw [endsWord_around, endsWord_eq, left, List.reverse_singleton, letter, nothing]
      simpa using no_letter
  | some b =>
      refine .inr fun c letter => ?_
      have right : nearest v = none := by simpa [left] using one_open
      have cased : b = true := by simpa [left] using no_break
      rw [endsWord_around, endsWord_eq, left, right, letter, cased]
      decide

theorem Settled.agree (settled : Settled t) (before after : Text) :
    SigmasAgree before after [] [] t := by
  intro u v parts
  rw [endsWord_of_settledAt (settled u v parts), List.nil_append, List.append_nil]

theorem exists_side (unsettled : ¬ Settled t) :
    (∀ c, nearest [c] = some true → ¬ SigmasAgree [c] [] [] [] t) ∨
      ∀ c, nearest [c] = some true → ¬ SigmasAgree [] [c] [] [] t := by
  simp only [Settled, not_forall] at unsettled
  obtain ⟨u, v, parts, unsettled⟩ := unsettled
  refine (endsWord_of_not_settledAt unsettled).imp (fun differ c letter agree => ?_)
    fun differ c letter agree => ?_
  · exact differ c letter (by simpa using agree u v parts)
  · exact differ c letter (by simpa using agree u v parts)

end Settled

end PocketShell.Text
