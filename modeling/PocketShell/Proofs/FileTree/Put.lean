import PocketShell.Proofs.FileTree.Apart

/-!
Putting a node at a place. A directory that gives an entry anew keeps it among its siblings, and a
new entry comes last; the directories above only pass this on, so they keep their names in their
order, and what is not on the way is as it was. Putting twice is putting the second time, and
putting what is there already changes nothing.
-/

namespace PocketShell

/-- Nothing lies below it, as below a file or an empty directory. -/
def Node.IsLeaf (node : Node) : Prop := ∀ name names, node.walk (name :: names) = none

namespace Directory

theorem names_cons (name : Text) (node : Node) (rest : Directory) :
    (cons name node rest).names = name :: rest.names := rfl

theorem mem_names_iff {d : Directory} {name : Text} : name ∈ d.names ↔ (d.get? name).isSome := by
  induction d with
  | nil => simp [names, toList, get?]
  | cons key node rest ih =>
      rw [names_cons, List.mem_cons, ih]
      by_cases same : key = name
      · simp [get?, same]
      · simp [get?, same, Ne.symm same]

theorem not_mem_names_iff {d : Directory} {name : Text} : name ∉ d.names ↔ d.get? name = none := by
  rw [mem_names_iff, Option.not_isSome_iff_eq_none]

theorem nodup_names {p : Text → Prop} {d : Directory} (named : d.WellNamed p) : d.names.Nodup := by
  induction d with
  | nil => exact List.nodup_nil
  | cons name node rest ih =>
      obtain ⟨_, fresh, _, others⟩ := named
      exact List.nodup_cons.mpr ⟨not_mem_names_iff.mpr fresh, ih others⟩

/-- An entry that is there keeps its position, a new one comes last. -/
theorem names_insert (d : Directory) (name : Text) (node : Node) :
    (d.insert name node).names = if name ∈ d.names then d.names else d.names ++ [name] := by
  induction d with
  | nil => rfl
  | cons key old rest ih =>
      by_cases same : key = name
      · simp [insert, names_cons, same]
      · simp only [insert, same, if_false, names_cons, ih, List.mem_cons, Ne.symm same, false_or]
        by_cases there : name ∈ rest.names
        · rw [if_pos there, if_pos there]
        · rw [if_neg there, if_neg there, List.cons_append]

theorem insert_self {d : Directory} {name : Text} {node : Node} (found : d.get? name = some node) :
    d.insert name node = d := by
  induction d with
  | nil => cases found
  | cons key old rest ih =>
      simp only [get?] at found
      by_cases same : key = name
      · rw [if_pos same] at found
        cases found
        simp [insert, same]
      · rw [if_neg same] at found
        simp [insert, same, ih found]

theorem insert_insert (d : Directory) (name : Text) (old new : Node) :
    (d.insert name old).insert name new = d.insert name new := by
  induction d with
  | nil => simp [insert]
  | cons key node rest ih =>
      by_cases same : key = name
      · simp [insert, same]
      · simp [insert, same, ih]

theorem modify_modify (f g : Directory → Directory) (d : Directory) (place : List Text) :
    (d.modify f place).modify g place = d.modify (fun d => g (f d)) place := by
  induction place generalizing d with
  | nil => rfl
  | cons name place ih =>
      simp only [modify]
      cases found : d.get? name with
      | none => simp [found]
      | some node =>
          cases node with
          | file content => simp [found]
          | dir child => simp [get?_insert, insert_insert, ih]

theorem modify_eq_self {f : Directory → Directory} {d sub : Directory} {place : List Text}
    (there : d.walk place = some (.dir sub)) (same : f sub = sub) : d.modify f place = d := by
  induction place generalizing d with
  | nil =>
      cases there
      exact same
  | cons name place ih =>
      rw [walk_cons] at there
      obtain ⟨node, found, inside⟩ := Option.bind_eq_some_iff.mp there
      cases node with
      | file content => cases place <;> cases inside
      | dir child =>
          simp only [modify, found]
          rw [ih inside]
          exact insert_self found

/-- A directory through which the way leads has the same names as before. -/
theorem names_modify (f : Directory → Directory) (d : Directory) (name : Text)
    (names : List Text) : (d.modify f (name :: names)).names = d.names := by
  simp only [modify]
  split
  · next child found => rw [names_insert, if_pos (mem_names_iff.mpr (by simp [found]))]
  · rfl

/-- A node is put at a place: it is there, a directory on the way to it keeps its names in their
order, with the name that leads on at the end if it is new, and what is not on the way is as it
was. -/
structure Put (place : List Text) (node : Node) (before after : Directory) : Prop where
  there : after.walk place = some node
  order : ∀ {above next below sub}, place = above ++ next :: below →
    before.walk above = some (.dir sub) → ∃ sub', after.walk above = some (.dir sub') ∧
      sub'.names = if next ∈ sub.names then sub.names else sub.names ++ [next]
  elsewhere : ∀ {names}, ¬ names <+: place → after.walk names = before.walk names

theorem put_modify {d sub : Directory} {parent : List Text} {name : Text} {node : Node}
    (there : d.walk parent = some (.dir sub)) (leaf : node.IsLeaf)
    (old : ∀ node ∈ sub.get? name, node.IsLeaf) :
    Put (parent ++ [name]) node d (d.modify (·.insert name node) parent) where
  there := walk_modify_insert name node there
  order {above next below sub'} parts found := by
    rcases List.eq_nil_or_concat below with rfl | ⟨way, last, rfl⟩
    · obtain ⟨rfl, last⟩ := List.append_inj' parts rfl
      cases last
      cases there.symm.trans found
      exact ⟨_, walk_modify there, names_insert sub name node⟩
    · have way_eq : parent = above ++ next :: way := by
        have split : parent ++ [name] = (above ++ next :: way) ++ [last] := by simpa using parts
        exact (List.append_inj' split rfl).1
      have inside : sub'.walk (next :: way) = some (.dir sub) := by
        rwa [way_eq, walk_append, found] at there
      have leads_on : next ∈ sub'.names := by
        rw [walk_cons] at inside
        obtain ⟨child, here, _⟩ := Option.bind_eq_some_iff.mp inside
        simp [mem_names_iff, here]
      rw [way_eq, if_pos leads_on]
      exact ⟨_, walk_modify_above (next :: way) found, names_modify _ sub' next way⟩
  elsewhere {names} aside := by
    by_cases below : parent ++ [name] <+: names
    · obtain ⟨rest, rfl⟩ := below
      cases rest with
      | nil => exact absurd (by simp) aside
      | cons first rest =>
          have now := walk_modify_insert name node there
          rw [walk_append, now, walk_append, walk_concat_of_dir there]
          cases here : sub.get? name with
          | none => exact leaf first rest
          | some node' => exact (leaf first rest).trans (old node' here first rest).symm
    · refine (sameApart_modify (fun d => ?_) d parent).walk_eq below aside
      exact d.apart_insert name node

end Directory
end PocketShell
