import PocketShell.Proofs.FileTree.WellNamed

/-!
Trees that are the same apart from one place. On the way to that place each directory may differ
in the entry that leads on and in nothing else; so a node that is neither on the way nor at the
place nor below it is the same in both trees. A change of one entry of one directory is a change
apart from the place of that entry.
-/

namespace PocketShell

namespace Directory

/-- The directory without its entry of that name; the others stay in their order. -/
def apart (name : Text) : Directory → Directory
  | .nil => .nil
  | .cons key node rest =>
      if key = name then rest.apart name else .cons key node (rest.apart name)

theorem get?_apart (d : Directory) {name other : Text} (ne : other ≠ name) :
    (d.apart name).get? other = d.get? other := by
  induction d with
  | nil => rfl
  | cons key node rest ih =>
      by_cases same : key = name
      · have passed : ¬ key = other := fun he => ne (he.symm.trans same)
        simp only [apart, same, if_true, ih, get?]
        rw [if_neg (same ▸ passed)]
      · simp only [apart, same, if_false, get?, ih]

theorem apart_insert (d : Directory) (name : Text) (node : Node) :
    (d.insert name node).apart name = d.apart name := by
  induction d with
  | nil => simp [insert, apart]
  | cons key old rest ih =>
      by_cases same : key = name
      · simp [insert, apart, same]
      · simp [insert, apart, same, ih]

theorem apart_erase (d : Directory) (name : Text) : (d.erase name).apart name = d.apart name := by
  induction d with
  | nil => rfl
  | cons key old rest ih =>
      by_cases same : key = name
      · simp [erase, apart, same]
      · simp [erase, apart, same, ih]

end Directory

/-- A file has no entries to leave out. -/
def Node.apart (name : Text) : Node → Node
  | .file content => .file content
  | .dir d => .dir (d.apart name)

theorem Node.walk_append (node : Node) (names more : List Text) :
    node.walk (names ++ more) = (node.walk names).bind (·.walk more) := by
  induction names generalizing node with
  | nil => simp [Node.walk]
  | cons name names ih =>
      cases node with
      | file content => simp [Node.walk]
      | dir d =>
          simp only [List.cons_append, Node.walk]
          cases d.get? name with
          | none => rfl
          | some child => exact ih child

theorem Node.walk_apart (node : Node) {name other : Text} (names : List Text) (ne : other ≠ name) :
    (node.apart name).walk (other :: names) = node.walk (other :: names) := by
  cases node with
  | file content => rfl
  | dir d => simp only [Node.apart, Node.walk, d.get?_apart ne]

namespace Directory

/-- On the way along `place`, every directory of the one tree has the entries of the other but for
the one that leads on. -/
def SameApart (place : List Text) (d d' : Directory) : Prop :=
  ∀ above next below, place = above ++ next :: below →
    (d'.walk above).map (Node.apart next) = (d.walk above).map (Node.apart next)

variable {place : List Text} {d d' d'' : Directory}

theorem sameApart_refl (place : List Text) (d : Directory) : SameApart place d d :=
  fun _ _ _ _ => rfl

theorem SameApart.trans (h : SameApart place d d') (h' : SameApart place d' d'') :
    SameApart place d d'' :=
  fun above next below parts => (h' above next below parts).trans (h above next below parts)

/-- What is the same apart from a place is the same apart from one on the way to it. -/
theorem SameApart.of_prefix {way : List Text} (on_way : way <+: place) (h : SameApart place d d') :
    SameApart way d d' := by
  obtain ⟨rest, rfl⟩ := on_way
  intro above next below parts
  exact h above next (below ++ rest) (by simp [parts])

theorem walk_cons (d : Directory) (name : Text) (names : List Text) :
    d.walk (name :: names) = (d.get? name).bind (·.walk names) := by
  simp only [walk, Node.walk]
  cases d.get? name <;> rfl

theorem walk_single (d : Directory) (name : Text) : d.walk [name] = d.get? name := by
  rw [walk_cons]
  cases d.get? name <;> rfl

theorem walk_append (d : Directory) (names more : List Text) :
    d.walk (names ++ more) = (d.walk names).bind (·.walk more) :=
  Node.walk_append _ _ _

theorem walk_concat (d : Directory) (place : List Text) (name : Text) :
    d.walk (place ++ [name]) = (d.walk place).bind (·.walk [name]) :=
  d.walk_append place [name]

theorem walk_concat_of_dir {d sub : Directory} {place : List Text}
    (there : d.walk place = some (.dir sub)) (name : Text) :
    d.walk (place ++ [name]) = sub.get? name := by
  rw [walk_concat, there]
  exact sub.walk_single name

/-- What is found at a place is an entry of the directory that the place is in. -/
theorem walk_concat_eq_some {d : Directory} {place : List Text} {name : Text} {node : Node} :
    d.walk (place ++ [name]) = some node ↔
      ∃ sub, d.walk place = some (.dir sub) ∧ sub.get? name = some node := by
  rw [walk_concat, Option.bind_eq_some_iff]
  constructor
  · rintro ⟨above, there, inside⟩
    cases above with
    | file content => cases inside
    | dir sub => exact ⟨sub, there, (sub.walk_single name).symm.trans inside⟩
  · rintro ⟨sub, there, found⟩
    exact ⟨.dir sub, there, (sub.walk_single name).trans found⟩

/-- A directory that the way to a changed one leads through is changed in turn. -/
theorem walk_modify_above {f : Directory → Directory} {d sub : Directory} {above : List Text}
    (below : List Text) (there : d.walk above = some (.dir sub)) :
    (d.modify f (above ++ below)).walk above = some (.dir (sub.modify f below)) := by
  induction above generalizing d with
  | nil =>
      cases there
      rfl
  | cons name above ih =>
      rw [walk_cons] at there
      obtain ⟨node, found, inside⟩ := Option.bind_eq_some_iff.mp there
      cases node with
      | file content => cases above <;> cases inside
      | dir child =>
          simp only [List.cons_append, modify, found]
          rw [walk_cons, get?_insert, if_pos rfl]
          exact ih inside

/-- A changed directory is found where it was. -/
theorem walk_modify {f : Directory → Directory} {d sub : Directory} {place : List Text}
    (there : d.walk place = some (.dir sub)) :
    (d.modify f place).walk place = some (.dir (f sub)) := by
  have above := walk_modify_above (f := f) [] there
  rwa [List.append_nil] at above

theorem walk_modify_insert {d sub : Directory} {place : List Text} (name : Text) (node : Node)
    (there : d.walk place = some (.dir sub)) :
    (d.modify (·.insert name node) place).walk (place ++ [name]) = some node :=
  (walk_concat_of_dir (walk_modify there) name).trans (by simp [get?_insert])

theorem apart_modify (f : Directory → Directory) (d : Directory) (name : Text)
    (names : List Text) : (d.modify f (name :: names)).apart name = d.apart name := by
  simp only [modify]
  split
  · exact d.apart_insert name _
  · rfl

theorem sameApart_modify {f : Directory → Directory} {name : Text}
    (entry : ∀ d : Directory, (f d).apart name = d.apart name) (d : Directory)
    (place : List Text) : SameApart (place ++ [name]) d (d.modify f place) := by
  induction place generalizing d with
  | nil =>
      intro above next below parts
      cases above with
      | nil =>
          obtain ⟨rfl, _⟩ := List.cons.inj parts
          simp [modify, walk, Node.walk, Node.apart, entry]
      | cons first above => simp at parts
  | cons first place ih =>
      intro above next below parts
      cases above with
      | nil =>
          obtain ⟨rfl, _⟩ := List.cons.inj parts
          simp [walk, Node.walk, Node.apart, apart_modify]
      | cons second above =>
          obtain ⟨rfl, rest⟩ := List.cons.inj parts
          simp only [modify]
          split
          · next child found =>
            rw [walk_cons, walk_cons, get?_insert, if_pos rfl, found]
            exact ih child above next below rest
          · rfl

/-- Two places of which neither is on the way to the other part somewhere. -/
theorem exists_parting {place names : List Text} (not_below : ¬ place <+: names)
    (not_above : ¬ names <+: place) :
    ∃ above next below other rest, place = above ++ next :: below ∧
      names = above ++ other :: rest ∧ other ≠ next := by
  induction place generalizing names with
  | nil => exact absurd List.nil_prefix not_below
  | cons next place ih =>
      cases names with
      | nil => exact absurd List.nil_prefix not_above
      | cons other names =>
          by_cases same : other = next
          · subst same
            rw [List.prefix_cons_inj] at not_below not_above
            obtain ⟨above, next, below, other', rest, parts, parts', ne⟩ := ih not_below not_above
            exact ⟨other :: above, next, below, other', rest, by simp [parts], by simp [parts'],
              ne⟩
          · exact ⟨[], next, place, other, names, rfl, rfl, same⟩

theorem SameApart.walk_eq (h : SameApart place d d') {names : List Text}
    (not_below : ¬ place <+: names) (not_above : ¬ names <+: place) :
    d'.walk names = d.walk names := by
  obtain ⟨above, next, below, other, rest, parts, rfl, ne⟩ := exists_parting not_below not_above
  have branch (d : Directory) : d.walk (above ++ other :: rest) =
      ((d.walk above).map (Node.apart next)).bind (·.walk (other :: rest)) := by
    rw [walk_append, Option.bind_map]
    congr 1
    funext node
    exact (node.walk_apart rest ne).symm
  rw [branch d', branch d, h above next below parts]

end Directory
end PocketShell
