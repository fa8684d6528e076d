import PocketShell.Proofs.Text.Lines
import PocketShell.Session.Listing

/-!
What a drawing tells of a tree. The lines below a directory all begin with its trunk, and the next
line of its own level begins with a branch, which differs from a trunk in its first character,
whatever the names begin with. So the lines of a directory end where the trunk ends, and a drawing
is taken apart into the lines of each entry. What stands in the files is all that a drawing leaves
out.
-/

namespace PocketShell

mutual

/-- The tree with all files empty. -/
def Node.outline : Node → Node
  | .file _ => .file []
  | .dir d => .dir d.outline

def Directory.outline : Directory → Directory
  | .nil => .nil
  | .cons name node rest => .cons name node.outline rest.outline

end

mutual

/-- The names of all nodes below, at any depth, each directory before what is in it. -/
def Node.namesBelow : Node → List Text
  | .file _ => []
  | .dir d => d.namesBelow

def Directory.namesBelow : Directory → List Text
  | .nil => []
  | .cons name node rest => name :: (node.namesBelow ++ rest.namesBelow)

end

namespace Drawing

variable {name name' : Text} {node node' : Node} {indent line : Text} {last last' : Bool}

/-- A name that can be told from the line it is drawn in. -/
def Plain (name : Text) : Prop := .char '\n' ∉ name ∧ .char '/' ∉ name

instance (name : Text) : Decidable (Plain name) := by unfold Plain; infer_instance

section Parts

theorem branch_length (last : Bool) : (branch last).length = 4 := by
  cases last <;> rfl

theorem branch_inj (same : branch last = branch last') : last = last' := by
  revert last last'
  decide

theorem trunk_length (last : Bool) : (trunk last).length = 4 := by
  cases last <;> rfl

theorem branch_not_trunk (last last' : Bool) (t u : Text) :
    branch last ++ t ≠ trunk last' ++ u := by
  have apart : ∀ last last', branch last ≠ trunk last' := by decide
  intro same
  have parts := List.append_inj same ((branch_length last).trans (trunk_length last').symm)
  exact apart last last' parts.1

theorem label_inj (plain : Plain name) (plain' : Plain name')
    (same : Listing.label (name, node) = Listing.label (name', node')) :
    name = name' ∧ node.isDir = node'.isDir := by
  have mixed {t u : Text} (free : .char '/' ∉ u) : t ++ (['/'] : Text) ≠ u := by
    rintro rfl
    exact free (by simp)
  simp only [Listing.label] at same
  cases dir : node.isDir <;> cases dir' : node'.isDir <;> simp only [dir, dir'] at same
  · exact ⟨same, rfl⟩
  · exact absurd same.symm (mixed plain.2)
  · exact absurd same (mixed plain'.2)
  · exact ⟨List.append_cancel_right same, rfl⟩

/-- The line of an entry tells its name and its kind, and whether it is the last one. -/
theorem line_inj (plain : Plain name) (plain' : Plain name')
    (same : indent ++ branch last ++ Listing.label (name, node) =
      indent ++ branch last' ++ Listing.label (name', node')) :
    last = last' ∧ name = name' ∧ node.isDir = node'.isDir := by
  rw [List.append_assoc, List.append_assoc, List.append_cancel_left_eq] at same
  have parts := List.append_inj same ((branch_length last).trans (branch_length last').symm)
  exact ⟨branch_inj parts.1, label_inj plain plain' parts.2⟩

end Parts

section Lines

mutual

theorem nodeLines_length (indent : Text) :
    ∀ node : Node, (nodeLines indent node).length = node.namesBelow.length
  | .file _ => rfl
  | .dir d => entryLines_length indent d

theorem entryLines_length (indent : Text) :
    ∀ d : Directory, (entryLines indent d).length = d.namesBelow.length
  | .nil => rfl
  | .cons name node rest => by
      simp [entryLines, Directory.namesBelow, nodeLines_length, entryLines_length indent rest]

end

mutual

theorem nodeLines_outline (indent : Text) :
    ∀ node : Node, nodeLines indent node.outline = nodeLines indent node
  | .file _ => rfl
  | .dir d => entryLines_outline indent d

theorem entryLines_outline (indent : Text) :
    ∀ d : Directory, entryLines indent d.outline = entryLines indent d
  | .nil => rfl
  | .cons name node rest => by
      have same : isLast rest.outline = isLast rest := by cases rest <;> rfl
      have kind : node.outline.isDir = node.isDir := by cases node <;> rfl
      simp [Directory.outline, entryLines, Listing.label, same, kind,
        nodeLines_outline _ node, entryLines_outline indent rest]

end

mutual

theorem prefix_of_mem_nodeLines : ∀ {indent : Text} {node : Node}, ∀ line ∈ nodeLines indent node,
    indent <+: line
  | _, .file _, _, mem => by cases mem
  | _, .dir _, line, mem => prefix_of_mem_entryLines line mem

theorem prefix_of_mem_entryLines : ∀ {indent : Text} {d : Directory}, ∀ line ∈ entryLines indent d,
    indent <+: line
  | _, .nil, _, mem => by cases mem
  | indent, .cons name node rest, line, mem => by
      rcases List.mem_cons.mp mem with here | mem
      · rw [here, List.append_assoc]
        exact List.prefix_append indent _
      · rcases List.mem_append.mp mem with below | later
        · exact (List.prefix_append indent _).trans (prefix_of_mem_nodeLines line below)
        · exact prefix_of_mem_entryLines line later

end

theorem no_feed_trunk (free : .char '\n' ∉ indent) (last : Bool) :
    .char '\n' ∉ indent ++ trunk last := by
  have bare : .char '\n' ∉ trunk last := by
    revert last
    decide
  simp [free, bare]

mutual

theorem no_feed_nodeLines : ∀ {indent : Text} (node : Node), .char '\n' ∉ indent →
    (∀ name ∈ node.namesBelow, Plain name) → ∀ line ∈ nodeLines indent node, .char '\n' ∉ line
  | _, .file _, _, _, _, mem => by cases mem
  | _, .dir d, free, plain, line, mem => no_feed_entryLines d free plain line mem

theorem no_feed_entryLines : ∀ {indent : Text} (d : Directory), .char '\n' ∉ indent →
    (∀ name ∈ d.namesBelow, Plain name) → ∀ line ∈ entryLines indent d, .char '\n' ∉ line
  | _, .nil, _, _, _, mem => by cases mem
  | indent, .cons name node rest, free, plain, line, mem => by
      simp only [Directory.namesBelow, List.forall_mem_cons, List.forall_mem_append] at plain
      obtain ⟨here, inside, behind⟩ := plain
      rcases List.mem_cons.mp mem with same | mem
      · have hung : .char '\n' ∉ branch (isLast rest) := by
          generalize isLast rest = last
          revert last
          decide
        have labelled : .char '\n' ∉ Listing.label (name, node) := by
          simp only [Listing.label]
          split <;> simp [here.1]
        simp [same, free, hung, labelled]
      · rcases List.mem_append.mp mem with below | later
        · exact no_feed_nodeLines node (no_feed_trunk free _) inside line below
        · exact no_feed_entryLines rest free behind line later

end

end Lines

section Parting

/-- The lines of an entry go as far as its trunk does. -/
theorem takeWhile_trunk (indent : Text) (last : Bool) (node : Node) (rest : Directory) :
    (nodeLines (indent ++ trunk last) node ++ entryLines indent rest).takeWhile
      (indent ++ trunk last).isPrefixOf = nodeLines (indent ++ trunk last) node := by
  have inside : ∀ line ∈ nodeLines (indent ++ trunk last) node,
      (indent ++ trunk last).isPrefixOf line = true :=
    fun line mem => List.isPrefixOf_iff_prefix.mpr (prefix_of_mem_nodeLines line mem)
  have behind : (entryLines indent rest).takeWhile (indent ++ trunk last).isPrefixOf = [] := by
    cases rest with
    | nil => rfl
    | cons name node rest =>
        refine List.takeWhile_cons_of_neg fun trunk_here => ?_
        obtain ⟨more, same⟩ := List.isPrefixOf_iff_prefix.mp trunk_here
        rw [List.append_assoc, List.append_assoc, List.append_cancel_left_eq] at same
        exact branch_not_trunk _ _ _ _ same.symm
  rw [List.takeWhile_append_of_pos inside, behind, List.append_nil]

/-- What follows the line of an entry is taken apart into its own lines and those of the others. -/
theorem parts_inj {rest rest' : Directory}
    (same : nodeLines (indent ++ trunk last) node ++ entryLines indent rest =
      nodeLines (indent ++ trunk last) node' ++ entryLines indent rest') :
    nodeLines (indent ++ trunk last) node = nodeLines (indent ++ trunk last) node' ∧
      entryLines indent rest = entryLines indent rest' := by
  have inside : nodeLines (indent ++ trunk last) node = nodeLines (indent ++ trunk last) node' := by
    rw [← takeWhile_trunk indent last node rest, same, takeWhile_trunk]
  refine ⟨inside, ?_⟩
  rwa [inside, List.append_cancel_left_eq] at same

mutual

theorem outline_of_nodeLines : ∀ {indent : Text} (node node' : Node),
    (∀ name ∈ node.namesBelow, Plain name) → (∀ name ∈ node'.namesBelow, Plain name) →
    node.isDir = node'.isDir → nodeLines indent node = nodeLines indent node' →
    node.outline = node'.outline
  | _, .file _, .file _, _, _, _, _ => rfl
  | _, .file _, .dir _, _, _, kind, _ => by cases kind
  | _, .dir _, .file _, _, _, kind, _ => by cases kind
  | _, .dir d, .dir d', plain, plain', _, same =>
      congrArg Node.dir (outline_of_entryLines d d' plain plain' same)

theorem outline_of_entryLines : ∀ {indent : Text} (d d' : Directory),
    (∀ name ∈ d.namesBelow, Plain name) → (∀ name ∈ d'.namesBelow, Plain name) →
    entryLines indent d = entryLines indent d' → d.outline = d'.outline
  | _, .nil, .nil, _, _, _ => rfl
  | _, .nil, .cons _ _ _, _, _, same => by cases same
  | _, .cons _ _ _, .nil, _, _, same => by cases same
  | indent, .cons name node rest, .cons name' node' rest', plain, plain', same => by
      simp only [Directory.namesBelow, List.forall_mem_cons, List.forall_mem_append] at plain plain'
      obtain ⟨here, inside, behind⟩ := plain
      obtain ⟨here', inside', behind'⟩ := plain'
      obtain ⟨first, others⟩ := List.cons.inj same
      obtain ⟨last, same_name, kind⟩ := line_inj here here' first
      rw [last] at others
      obtain ⟨lines, lines'⟩ := parts_inj others
      have below := outline_of_nodeLines node node' inside inside' kind lines
      have later := outline_of_entryLines rest rest' behind behind' lines'
      rw [Directory.outline, Directory.outline, same_name, below, later]

end

end Parting

section Text

variable {path : Text} {d d' : Directory}

theorem no_feed_header (free : .char '\n' ∉ path) : .char '\n' ∉ header path := by
  simp only [header]
  split
  · decide
  · simp [free]

/-- The lines of a drawing: the header, one line for each node, and nothing behind the last line
feed. -/
theorem lines_text (free : .char '\n' ∉ path) (plain : ∀ name ∈ d.namesBelow, Plain name) :
    Text.lines (text path d) = header path :: entryLines [] d ++ [[]] := by
  have whole : text path d = Text.unlines ((header path :: entryLines [] d) ++ [[]]) := by
    rw [Text.unlines_around]
    simp [text]
  rw [whole, Text.lines_unlines (by simp)]
  simp only [List.forall_mem_append, List.forall_mem_cons]
  exact ⟨⟨no_feed_header free, no_feed_entryLines d (by simp) plain⟩, by simp⟩

/-- Two trees have the same drawing if they differ in nothing but what stands in the files. -/
theorem text_inj (free : .char '\n' ∉ path) (plain : ∀ name ∈ d.namesBelow, Plain name)
    (plain' : ∀ name ∈ d'.namesBelow, Plain name) :
    text path d = text path d' ↔ d.outline = d'.outline := by
  constructor
  · intro same
    have lines := congrArg Text.lines same
    rw [lines_text free plain, lines_text free plain', List.append_cancel_right_eq] at lines
    exact outline_of_entryLines d d' plain plain' (List.cons.inj lines).2
  · intro same
    rw [text, text, ← entryLines_outline [] d, same, entryLines_outline]

end Text
end Drawing
end PocketShell
