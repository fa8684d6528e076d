import PocketShell.Text.Basic

/-!
The order of texts. It is the order of a dictionary over code points, so any two texts can be
compared, and two of them that stand before each other are the same. This is what makes the outcome
of sorting names a matter of the names alone.
-/

namespace PocketShell.Text

variable {t u v : Text} {c d : CodePoint}

/-- At the first place where the texts differ, the one that stands first has the smaller code point,
or it has ended there. -/
def Precedes (t u : Text) : Prop := List.Lex (fun c d => c.toNat < d.toNat) t u

theorem precedes_cons :
    Precedes (c :: t) (d :: u) ↔ c.toNat < d.toNat ∨ (c = d ∧ Precedes t u) := by
  constructor
  · intro before
    cases before with
    | rel smaller => exact .inl smaller
    | cons below => exact .inr ⟨rfl, below⟩
  · rintro (smaller | ⟨rfl, below⟩)
    · exact .rel smaller
    · exact .cons below

theorem ble_cons :
    ble (c :: t) (d :: u) = true ↔ c.toNat < d.toNat ∨ (c = d ∧ ble t u = true) := by
  by_cases same : c = d
  · simp [ble, same]
  · simp [ble, same]

theorem ble_iff : ble t u = true ↔ t = u ∨ Precedes t u := by
  induction t generalizing u with
  | nil =>
      cases u with
      | nil => exact iff_of_true rfl (.inl rfl)
      | cons d u => exact iff_of_true rfl (.inr .nil)
  | cons c t ih =>
      cases u with
      | nil =>
          refine iff_of_false Bool.false_ne_true ?_
          rintro (same | before)
          · cases same
          · cases before
      | cons d u =>
          rw [ble_cons, precedes_cons, ih, List.cons.injEq, and_or_left, or_left_comm]

theorem ble_total (t u : Text) : ble t u = true ∨ ble u t = true := by
  induction t generalizing u with
  | nil => exact .inl rfl
  | cons c t ih =>
      cases u with
      | nil => exact .inr rfl
      | cons d u =>
          rw [ble_cons, ble_cons]
          rcases Nat.lt_trichotomy c.toNat d.toNat with smaller | same | greater
          · exact .inl (.inl smaller)
          · have same := CodePoint.toNat_inj.mp same
            exact (ih u).imp (fun below => .inr ⟨same, below⟩)
              fun below => .inr ⟨same.symm, below⟩
          · exact .inr (.inl greater)

theorem ble_trans (first : ble t u = true) (second : ble u v = true) : ble t v = true := by
  induction t generalizing u v with
  | nil => rfl
  | cons c t ih =>
      cases u with
      | nil => cases first
      | cons d u =>
          cases v with
          | nil => cases second
          | cons e v =>
              rw [ble_cons] at first second ⊢
              rcases first with smaller | ⟨rfl, below⟩
              · rcases second with smaller' | ⟨rfl, _⟩
                · exact .inl (Nat.lt_trans smaller smaller')
                · exact .inl smaller
              · exact second.imp_right fun below' => ⟨below'.1, ih below below'.2⟩

theorem ble_antisymm (first : ble t u = true) (second : ble u t = true) : t = u := by
  induction t generalizing u with
  | nil =>
      cases u with
      | nil => rfl
      | cons d u => cases second
  | cons c t ih =>
      cases u with
      | nil => cases first
      | cons d u =>
          rw [ble_cons] at first second
          rcases first with smaller | ⟨rfl, below⟩
          · rcases second with greater | ⟨rfl, _⟩ <;> omega
          · rcases second with smaller | ⟨_, above⟩
            · exact absurd smaller (Nat.lt_irrefl _)
            · rw [ih below above]

end PocketShell.Text
