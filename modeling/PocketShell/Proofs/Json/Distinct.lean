import PocketShell.Json.Reader

/-!
Objects as finite maps. No object that the reader gives has a name twice, whatever the text
repeats: a repeated name goes to the member that is there already.
-/

namespace PocketShell.Json

mutual

def Value.Distinct : Value → Prop
  | .array items => items.Distinct
  | .object members => members.Distinct
  | _ => True

def Items.Distinct : Items → Prop
  | .nil => True
  | .cons v rest => v.Distinct ∧ rest.Distinct

def Members.Distinct : Members → Prop
  | .nil => True
  | .cons name v rest => rest.get? name = none ∧ v.Distinct ∧ rest.Distinct

end

namespace Members

/-- Members are a list; what their values hold is left alone by this principle. -/
@[elab_as_elim, induction_eliminator]
theorem induct {motive : Members → Prop} (nil : motive .nil)
    (cons : ∀ name v rest, motive rest → motive (.cons name v rest)) : ∀ m, motive m
  | .nil => nil
  | .cons name v rest => cons name v rest (induct nil cons rest)

theorem get?_insert (m : Members) (key other : Text) (v : Value) :
    (m.insert key v).get? other = if key = other then some v else m.get? other := by
  induction m with
  | nil => rfl
  | cons name w rest ih =>
      by_cases hn : name = key
      · subst hn
        simp only [insert, if_true, get?]
        split <;> rfl
      · simp only [insert, hn, if_false, get?, ih]
        split
        · next h => rw [if_neg fun he => hn (h.trans he.symm)]
        · rfl

theorem distinct_get? (m : Members) (key : Text) (v : Value) (h : m.Distinct)
    (hk : m.get? key = some v) : v.Distinct := by
  induction m with
  | nil => contradiction
  | cons name w rest ih =>
      simp only [get?] at hk
      split at hk
      · cases hk
        exact h.2.1
      · exact ih h.2.2 hk

theorem distinct_insert (m : Members) (key : Text) (v : Value)
    (hm : m.Distinct) (hv : v.Distinct) : (m.insert key v).Distinct := by
  induction m with
  | nil => exact ⟨rfl, hv, trivial⟩
  | cons name w rest ih =>
      by_cases hn : name = key
      · simp only [insert, hn, if_true]
        exact ⟨hn ▸ hm.1, hv, hm.2.2⟩
      · simp only [insert, hn, if_false]
        refine ⟨?_, hm.2.1, ih hm.2.2⟩
        rw [get?_insert, if_neg (Ne.symm hn)]
        exact hm.1

end Members

theorem exists_of_map_eq_ok {ε α β : Type} {f : α → β} {x : Except ε α} {b : β}
    (h : x.map f = .ok b) : ∃ a, x = .ok a ∧ f a = b := by
  cases x with
  | error e => contradiction
  | ok a => exact ⟨a, rfl, Except.ok.inj h⟩

theorem distinct_of_wholeNumber (negative : Bool) (digits : Text) (v : Value)
    (h : wholeNumber negative digits = .ok v) : v.Distinct := by
  simp only [wholeNumber] at h
  split at h
  · contradiction
  · cases h
    trivial

theorem distinct_of_readNumber (t : Text) (v : Value) (rest : Text)
    (h : readNumber t = .ok (v, rest)) : v.Distinct := by
  have unsigned (negative : Bool) (t : Text) (h : readUnsigned negative t = .ok (v, rest)) :
      v.Distinct := by
    simp only [readUnsigned] at h
    split at h
    · contradiction
    · split at h <;> dsimp only at h
      · cases h
        trivial
      · split at h <;> dsimp only at h
        · cases h
          trivial
        · obtain ⟨w, hw, he⟩ := exists_of_map_eq_ok h
          cases he
          exact distinct_of_wholeNumber _ _ _ hw
  simp only [readNumber] at h
  split at h <;> exact unsigned _ _ h

mutual

theorem distinct_of_readValue : ∀ (n : Nat) (t : Text) (v : Value) (rest : Text),
    readValue n t = .ok (v, rest) → v.Distinct
  | 0, _, _, _, h => by simp [readValue] at h
  | n + 1, t, v, rest, h => by
      rw [readValue.eq_def] at h
      dsimp only at h
      split at h
      · split at h
        · contradiction
        · cases h
          trivial
      · split at h
        · cases h
          trivial
        · exact distinct_of_readMembers n .nil _ _ _ trivial h
      · split at h
        · cases h
          trivial
        · obtain ⟨⟨items, more⟩, hi, he⟩ := exists_of_map_eq_ok h
          cases he
          exact distinct_of_readItems n _ _ _ hi
      all_goals first | exact distinct_of_readNumber _ _ _ h | (cases h; trivial)

theorem distinct_of_readItems : ∀ (n : Nat) (t : Text) (items : Items) (rest : Text),
    readItems n t = .ok (items, rest) → items.Distinct
  | 0, _, _, _, h => by simp [readItems] at h
  | n + 1, t, items, rest, h => by
      rw [readItems.eq_def] at h
      dsimp only at h
      split at h
      · contradiction
      · next first _ hv =>
        have head := distinct_of_readValue n _ _ _ hv
        split at h
        · cases h
          exact ⟨head, trivial⟩
        · obtain ⟨⟨others, more⟩, hi, he⟩ := exists_of_map_eq_ok h
          cases he
          exact ⟨head, distinct_of_readItems n _ _ _ hi⟩
        · contradiction

theorem distinct_of_readMembers : ∀ (n : Nat) (known : Members) (t : Text) (v : Value)
    (rest : Text), known.Distinct → readMembers n known t = .ok (v, rest) → v.Distinct
  | 0, _, _, _, _, _, h => by simp [readMembers] at h
  | n + 1, known, t, v, rest, hk, h => by
      rw [readMembers.eq_def] at h
      dsimp only at h
      split at h <;> try contradiction
      split at h <;> try contradiction
      next name _ _ =>
        split at h <;> try contradiction
        split at h <;> try contradiction
        next w _ hw =>
          have longer := known.distinct_insert name w hk (distinct_of_readValue n _ _ _ hw)
          split at h
          · cases h
            exact longer
          · exact distinct_of_readMembers n _ _ _ _ longer h
          · contradiction

end

theorem distinct_of_read (t : Text) (v : Value) (h : read t = .ok v) : v.Distinct := by
  simp only [read] at h
  split at h
  · contradiction
  · next hv =>
    split at h
    · cases h
      exact distinct_of_readValue _ _ _ _ hv
    · contradiction

end PocketShell.Json
