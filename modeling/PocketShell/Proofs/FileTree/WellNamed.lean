import PocketShell.FileTree.Basic

/-!
Trees in which no directory has a name twice and every name is as it should be. Looking up,
walking, giving an entry and taking one away all keep such trees as they are, as long as the
new names are as they should be; what `modify` does to one directory it does to the whole tree.
-/

namespace PocketShell

mutual

/-- Every directory of the tree has different names, and they satisfy `p`. -/
def Node.WellNamed (p : Text → Prop) : Node → Prop
  | .file _ => True
  | .dir d => d.WellNamed p

def Directory.WellNamed (p : Text → Prop) : Directory → Prop
  | .nil => True
  | .cons name node rest =>
      p name ∧ rest.get? name = none ∧ node.WellNamed p ∧ rest.WellNamed p

end

namespace Directory

variable {p : Text → Prop}

/-- No directory of the tree has a name twice. -/
def Distinct (d : Directory) : Prop := d.WellNamed fun _ => True

/-- A directory is a list of entries; what lies below them is left alone by this principle. -/
@[elab_as_elim, induction_eliminator]
theorem induct {motive : Directory → Prop} (nil : motive .nil)
    (cons : ∀ name node rest, motive rest → motive (.cons name node rest)) : ∀ d, motive d
  | .nil => nil
  | .cons name node rest => cons name node rest (induct nil cons rest)

theorem get?_insert (d : Directory) (key other : Text) (node : Node) :
    (d.insert key node).get? other = if key = other then some node else d.get? other := by
  induction d with
  | nil => rfl
  | cons name old rest ih =>
      by_cases hn : name = key
      · subst hn
        simp only [insert, if_true, get?]
        split <;> rfl
      · simp only [insert, hn, if_false, get?, ih]
        split
        · next h => rw [if_neg fun he => hn (h.trans he.symm)]
        · rfl

theorem get?_erase_eq_none (d : Directory) (key other : Text) (h : d.get? other = none) :
    (d.erase key).get? other = none := by
  induction d with
  | nil => rfl
  | cons name node rest ih =>
      simp only [get?] at h
      split at h
      · contradiction
      · next hne =>
        simp only [erase]
        split
        · exact h
        · simp only [get?, hne, if_false]
          exact ih h

theorem wellNamed_get? (d : Directory) (key : Text) (node : Node) (h : d.WellNamed p)
    (hk : d.get? key = some node) : p key ∧ node.WellNamed p := by
  induction d with
  | nil => contradiction
  | cons name child rest ih =>
      simp only [get?] at hk
      split at hk
      · next hn =>
        cases hk
        exact ⟨hn ▸ h.1, h.2.2.1⟩
      · exact ih h.2.2.2 hk

theorem wellNamed_insert (d : Directory) (key : Text) (node : Node) (h : d.WellNamed p)
    (hk : p key) (hn : node.WellNamed p) : (d.insert key node).WellNamed p := by
  induction d with
  | nil => exact ⟨hk, rfl, hn, trivial⟩
  | cons name old rest ih =>
      obtain ⟨good, fresh, _, others⟩ := h
      by_cases he : name = key
      · simp only [insert, he, if_true]
        exact ⟨hk, he ▸ fresh, hn, others⟩
      · simp only [insert, he, if_false]
        refine ⟨good, ?_, by assumption, ih others⟩
        rw [get?_insert, if_neg (Ne.symm he)]
        exact fresh

theorem wellNamed_erase (d : Directory) (key : Text) (h : d.WellNamed p) :
    (d.erase key).WellNamed p := by
  induction d with
  | nil => trivial
  | cons name node rest ih =>
      obtain ⟨good, fresh, below, others⟩ := h
      simp only [erase]
      split
      · exact others
      · exact ⟨good, rest.get?_erase_eq_none key name fresh, below, ih others⟩

theorem wellNamed_modify (f : Directory → Directory)
    (hf : ∀ d : Directory, d.WellNamed p → (f d).WellNamed p) (d : Directory)
    (names : List Text) (h : d.WellNamed p) : (d.modify f names).WellNamed p := by
  induction names generalizing d with
  | nil => exact hf d h
  | cons name names ih =>
      simp only [modify]
      split
      · next child hc =>
        obtain ⟨good, below⟩ := d.wellNamed_get? name _ h hc
        exact d.wellNamed_insert name _ h good (ih child below)
      · exact h

theorem wellNamed_names (d : Directory) (h : d.WellNamed p) : ∀ name ∈ d.names, p name := by
  induction d with
  | nil => intro name hn; cases hn
  | cons first node rest ih =>
      intro name hn
      cases hn with
      | head => exact h.1
      | tail _ hn => exact ih h.2.2.2 name hn

end Directory

theorem Node.wellNamed_walk {p : Text → Prop} (node found : Node) (names : List Text)
    (h : node.WellNamed p) (hw : node.walk names = some found) : found.WellNamed p := by
  induction names generalizing node with
  | nil => cases hw; exact h
  | cons name names ih =>
      cases node with
      | file content => contradiction
      | dir d =>
          simp only [Node.walk] at hw
          split at hw
          · contradiction
          · next child hc => exact ih child (d.wellNamed_get? name child h hc).2 hw

mutual

theorem Node.wellNamed_mono {p q : Text → Prop} (hpq : ∀ name, p name → q name) :
    ∀ node : Node, node.WellNamed p → node.WellNamed q
  | .file _, _ => trivial
  | .dir d, h => Directory.wellNamed_mono hpq d h

theorem Directory.wellNamed_mono {p q : Text → Prop} (hpq : ∀ name, p name → q name) :
    ∀ d : Directory, d.WellNamed p → d.WellNamed q
  | .nil, _ => trivial
  | .cons name node rest, h =>
      ⟨hpq name h.1, h.2.1, Node.wellNamed_mono hpq node h.2.2.1,
        Directory.wellNamed_mono hpq rest h.2.2.2⟩

end

end PocketShell
