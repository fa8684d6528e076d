import PocketShell.Proofs.FileTree.WellNamed

/-!
Where the nodes of a tree stand. A node stands at the end of a row of names when each of them is
the name of an entry, with the next entry in the directory of the one before. `walk` only follows
the first entry of a name; where no directory has a name twice it finds every node.
-/

namespace PocketShell

/-- The node that stands at the end of the names, entry by entry. -/
inductive Node.Leads : Node → List Text → Node → Prop
  | here (node : Node) : Leads node [] node
  | inside {d : Directory} {name : Text} {child found : Node} {names : List Text} :
      (name, child) ∈ d.toList → Leads child names found → Leads (.dir d) (name :: names) found

namespace Directory

variable {p : Text → Prop} {d : Directory}

theorem mem_toList_of_get? {key : Text} {node : Node} (found : d.get? key = some node) :
    (key, node) ∈ d.toList := by
  induction d with
  | nil => cases found
  | cons name child rest ih =>
      simp only [get?] at found
      split at found
      · next same =>
        cases found
        exact same ▸ List.mem_cons_self
      · exact List.mem_cons_of_mem _ (ih found)

theorem get?_of_mem_toList (named : d.WellNamed p) {key : Text} {node : Node}
    (mem : (key, node) ∈ d.toList) : d.get? key = some node := by
  induction d with
  | nil => cases mem
  | cons name child rest ih =>
      obtain ⟨_, fresh, _, others⟩ := named
      rcases List.mem_cons.mp mem with same | mem
      · cases same
        simp [get?]
      · have found := ih others mem
        have other : name ≠ key := by
          rintro rfl
          rw [fresh] at found
          cases found
        simp [get?, other, found]

end Directory

/-- Every node of a tree is found at the place where it stands, and its names are as they should
be. -/
theorem Node.Leads.walk {p : Text → Prop} {node found : Node} {names : List Text}
    (leads : node.Leads names found) (named : node.WellNamed p) :
    node.walk names = some found ∧ ∀ name ∈ names, p name := by
  induction leads with
  | here node => exact ⟨rfl, by simp⟩
  | @inside d name child found names mem _ ih =>
      have here := Directory.get?_of_mem_toList named mem
      obtain ⟨good, below⟩ := d.wellNamed_get? name child named here
      obtain ⟨walks, all⟩ := ih below
      exact ⟨by simp only [Node.walk, here, walks], List.forall_mem_cons.mpr ⟨good, all⟩⟩

/-- What is found at a place stands there. -/
theorem Node.leads_of_walk {node found : Node} {names : List Text}
    (walks : node.walk names = some found) : node.Leads names found := by
  induction names generalizing node with
  | nil =>
      cases walks
      exact .here _
  | cons name names ih =>
      cases node with
      | file content => cases walks
      | dir d =>
          simp only [Node.walk] at walks
          split at walks
          · cases walks
          · next child here => exact .inside (Directory.mem_toList_of_get? here) (ih walks)

end PocketShell
