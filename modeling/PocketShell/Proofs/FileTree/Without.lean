import PocketShell.Proofs.FileTree.Put

/-!
Trees with places taken away. What stood at such a place is gone with all that was below it; the
other entries stay, in their order. To take places away in turn is to take them away together, and
where no directory has a name twice, erasing an entry is taking its place away.
-/

namespace PocketShell

mutual

/-- The node without what is at the places that are gone, the places being read from it. -/
def Node.without (gone : List Text → Bool) : Node → Node
  | .file content => .file content
  | .dir d => .dir (d.without gone)

def Directory.without (gone : List Text → Bool) : Directory → Directory
  | .nil => .nil
  | .cons name node rest =>
      if gone [name] then rest.without gone
      else .cons name (node.without fun names => gone (name :: names)) (rest.without gone)

end

mutual

theorem Node.without_never : ∀ node : Node, node.without (fun _ => false) = node
  | .file _ => rfl
  | .dir d => congrArg Node.dir d.without_never

theorem Directory.without_never : ∀ d : Directory, d.without (fun _ => false) = d
  | .nil => rfl
  | .cons name node rest => by
      simp only [Directory.without, Bool.false_eq_true, if_false]
      rw [node.without_never, rest.without_never]

end

mutual

theorem Node.without_without (first second : List Text → Bool) : ∀ node : Node,
    (node.without first).without second = node.without fun names => first names || second names
  | .file _ => rfl
  | .dir d => congrArg Node.dir (d.without_without first second)

theorem Directory.without_without (first second : List Text → Bool) : ∀ d : Directory,
    (d.without first).without second = d.without fun names => first names || second names
  | .nil => rfl
  | .cons name node rest => by
      have below := node.without_without (fun names => first (name :: names))
        fun names => second (name :: names)
      have others := rest.without_without first second
      cases gone : first [name] with
      | true => simp [Directory.without, gone, others]
      | false =>
          cases gone' : second [name] <;> simp [Directory.without, gone, gone', below, others]

end

namespace Directory

theorem get?_without (gone : List Text → Bool) (d : Directory) (name : Text) :
    (d.without gone).get? name = if gone [name] then none
      else (d.get? name).map (Node.without fun names => gone (name :: names)) := by
  induction d with
  | nil => simp [without, get?]
  | cons key node rest ih =>
      by_cases same : key = name
      · subst same
        cases lost : gone [key] with
        | true => simpa [without, lost] using ih
        | false => simp [without, lost, get?]
      · cases lost : gone [key] <;> simp [without, lost, get?, same, ih]

theorem names_without (gone : List Text → Bool) (d : Directory) :
    (d.without gone).names = d.names.filter fun name => !gone [name] := by
  induction d with
  | nil => rfl
  | cons key node rest ih =>
      cases lost : gone [key] <;> simp [without, names_cons, lost, ih]

/-- Where a directory has no entry of the first name, the place is not in it. -/
theorem without_of_absent {d : Directory} {name : Text} (absent : d.get? name = none)
    (names : List Text) : d.without (fun place => decide (place = name :: names)) = d := by
  induction d with
  | nil => rfl
  | cons key node rest ih =>
      simp only [get?] at absent
      split at absent
      · cases absent
      · next other =>
        simp [without, other, ih absent, node.without_never]

theorem modify_cons (f : Directory → Directory) (key : Text) (node : Node) (rest : Directory)
    {name : Text} (other : key ≠ name) (names : List Text) :
    (cons key node rest).modify f (name :: names) =
      cons key node (rest.modify f (name :: names)) := by
  simp only [modify, get?, other, if_false]
  split <;> simp [insert, other]

theorem erase_eq_without {d : Directory} (distinct : d.Distinct) (name : Text) :
    d.erase name = d.without fun place => decide (place = [name]) := by
  induction d with
  | nil => rfl
  | cons key node rest ih =>
      obtain ⟨_, fresh, _, others⟩ := distinct
      by_cases same : key = name
      · subst same
        simp [erase, without, without_of_absent fresh []]
      · simp [erase, without, same, ih others, node.without_never]

/-- To erase an entry of the directory at a place is to take away the place of the entry. -/
theorem modify_erase_eq_without {d : Directory} (distinct : d.Distinct) (parent : List Text)
    (name : Text) : d.modify (·.erase name) parent =
      d.without fun place => decide (place = parent ++ [name]) := by
  induction parent generalizing d with
  | nil => exact erase_eq_without distinct name
  | cons first parent ih =>
      induction d with
      | nil => rfl
      | cons key node rest others_ih =>
          obtain ⟨_, fresh, below, others⟩ := distinct
          by_cases same : key = first
          · subst same
            cases node with
            | file content =>
                simp [modify, get?, without, Node.without, without_of_absent fresh]
            | dir child =>
                have inside := ih (d := child) below
                simp [modify, get?, insert, without, Node.without, without_of_absent fresh, inside]
          · rw [modify_cons _ key node rest same, others_ih others]
            simp [without, same, node.without_never]

end Directory

theorem Node.walk_without {gone : List Text → Bool} (node : Node) {names : List Text}
    (kept : ∀ place, place ≠ [] → place <+: names → gone place = false) :
    (node.without gone).walk names =
      (node.walk names).map (Node.without fun more => gone (names ++ more)) := by
  induction names generalizing node gone with
  | nil => rfl
  | cons name names ih =>
      cases node with
      | file content => rfl
      | dir d =>
          have here : gone [name] = false := kept [name] (by simp) (by simp)
          simp only [Node.without, Node.walk, d.get?_without, here, Bool.false_eq_true, if_false]
          cases d.get? name with
          | none => rfl
          | some child =>
              refine ih child fun place _ way => kept (name :: place) (by simp) ?_
              exact List.prefix_cons_inj name |>.mpr way

theorem Node.walk_without_gone {gone : List Text → Bool} (node : Node) {place names : List Text}
    (ne : place ≠ []) (lost : gone place = true) (below : place <+: names) :
    (node.without gone).walk names = none := by
  induction place generalizing node gone names with
  | nil => exact absurd rfl ne
  | cons name place ih =>
      obtain ⟨rest, rfl⟩ := below
      cases node with
      | file content => rfl
      | dir d =>
          simp only [List.cons_append, Node.without, Node.walk, d.get?_without]
          cases here : gone [name] with
          | true => rfl
          | false =>
              cases d.get? name with
              | none => rfl
              | some child =>
                  have more : place ≠ [] := by
                    rintro rfl
                    simp [here] at lost
                  exact ih child more lost (List.prefix_append place rest)

namespace Directory

/-- Places are lost, and nothing else: nothing is found at them or below them, a directory that is
left has its other entries in their order, and what has to do with none of the places is as it
was. -/
structure Loses (places : List (List Text)) (before after : Directory) : Prop where
  lost : ∀ {place names}, place ∈ places → place <+: names → after.walk names = none
  order : ∀ {above d}, (∀ place ∈ places, ¬ place <+: above) →
    before.walk above = some (.dir d) → ∃ d', after.walk above = some (.dir d') ∧
      d'.names = d.names.filter fun name => above ++ [name] ∉ places
  elsewhere : ∀ {names}, (∀ place ∈ places, ¬ place <+: names ∧ ¬ names <+: place) →
    after.walk names = before.walk names

theorem loses_without (d : Directory) {places : List (List Text)}
    (below_root : ∀ place ∈ places, place ≠ []) :
    Loses places d (d.without fun place => decide (place ∈ places)) := by
  have kept {names : List Text} (apart : ∀ place ∈ places, ¬ place <+: names) :
      (d.without fun place => decide (place ∈ places)).walk names =
        (d.walk names).map (Node.without fun more => decide (names ++ more ∈ places)) := by
    refine (Node.dir d).walk_without fun place _ way => ?_
    exact decide_eq_false fun mem => apart place mem way
  refine ⟨fun {place names} mem below => ?_, fun {above sub} apart found => ?_,
    fun {names} apart => ?_⟩
  · exact (Node.dir d).walk_without_gone (below_root place mem) (decide_eq_true mem) below
  · refine ⟨sub.without fun more => decide (above ++ more ∈ places), ?_, ?_⟩
    · rw [kept apart, found]
      rfl
    · rw [names_without]
      apply List.filter_congr
      simp
  · rw [kept fun place mem => (apart place mem).1]
    have never : (fun more => decide (names ++ more ∈ places)) = fun _ => false := by
      funext more
      exact decide_eq_false fun mem => (apart _ mem).2 (List.prefix_append names more)
    rw [never]
    cases d.walk names with
    | none => rfl
    | some node => exact congrArg some node.without_never

end Directory
end PocketShell
