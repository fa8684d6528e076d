import PocketShell.Proofs.FileTree.Put
import PocketShell.Proofs.Session.Confined
import PocketShell.Proofs.Session.Refusal

/-!
What `mkdir` and `touch` make. Both look whether the target is vacant: the user may write there,
and there is a directory for it to go into that has no entry of its name. Then they put one node
there, and after that the place is taken. Otherwise they leave the session as it is, and differ
only in what they say to a place that is taken.
-/

namespace PocketShell

theorem complaint_ne_nil (tool action target reason : Text) :
    complaint tool action target reason ≠ [] := by
  simp [complaint]

theorem complaint_alreadyThere (target : Text) :
    complaint "mkdir" "cannot create directory" target CreateFault.alreadyThere.reason =
      "mkdir: cannot create directory '" ++ target ++ "': File exists" := by
  have front : ("mkdir" : Text) ++ ": " ++ "cannot create directory" ++ " '" =
      "mkdir: cannot create directory '" := by decide
  have back : ("': " : Text) ++ "File exists" = "': File exists" := by decide
  rw [complaint, front, List.append_assoc]
  exact congrArg _ back

namespace Session

/-- Something new may go where the target is, and nothing is there. -/
def Vacant (s : Session) (target : Text) : Prop :=
  s.mayWrite target = true ∧ ∃ parent name d, s.placeOf target = parent ++ [name] ∧
    s.root.walk parent = some (.dir d) ∧ name ∉ d.names

variable {s s' : Session} {target : Text} {place : List Text} {d : Directory} {name : Text}

theorem newEntry_of_parent (allowed : s.mayWrite target = true)
    (parts : s.placeOf target = place ++ [name]) (there : s.root.walk place = some (.dir d)) :
    s.newEntry target = .ok (place, d, name) := by
  obtain ⟨parent_eq, segments_eq⟩ := Path.parentAndName_of_segments parts
  rw [mayWrite] at allowed
  simp [newEntry, allowed, parent_eq, segments_eq, Directory.directoryAt, there]

/-- The root is a directory that is in no other one, so what is new there has no name. -/
theorem newEntry_of_root (allowed : s.mayWrite target = true) (root : s.placeOf target = []) :
    s.newEntry target = .ok ([], s.root, []) := by
  have nameless : Path.parentAndName (s.resolve target) = ((['/'] : Text), []) := by
    simp [Path.parentAndName, show Path.segments (s.resolve target) = [] from root]
  rw [mayWrite] at allowed
  simp only [newEntry, allowed, nameless]
  rfl

/-- A new entry that has a name goes into a directory that is there. -/
theorem newEntry_there (entry : s.newEntry target = .ok (place, d, name)) :
    s.root.walk place = some (.dir d) := by
  simp only [newEntry] at entry
  split at entry
  · cases entry
  · split at entry
    · cases entry
    · next there =>
      cases entry
      exact directoryAt_eq_ok there

theorem vacant_iff : s.Vacant target ↔ ∃ place d name,
    s.newEntry target = .ok (place, d, name) ∧ name ≠ [] ∧ d.get? name = none := by
  constructor
  · rintro ⟨allowed, parent, name, d, parts, there, free⟩
    have last : name ∈ Path.segments (s.resolve target) := by
      rw [show Path.segments (s.resolve target) = parent ++ [name] from parts]
      simp
    have named := Path.isSegment_of_mem last
    exact ⟨parent, d, name, newEntry_of_parent allowed parts there, named.1,
      Directory.not_mem_names_iff.mp free⟩
  · rintro ⟨place, d, name, entry, named, free⟩
    obtain ⟨allowed, parts⟩ := newEntry_place entry named
    exact ⟨allowed, place, name, d, parts, newEntry_there entry,
      Directory.not_mem_names_iff.mpr free⟩

/-- The target names a place where something is, as it may name the root. -/
def Taken (s : Session) (target : Text) : Prop :=
  ∃ place d name, s.newEntry target = .ok (place, d, name) ∧ (name = [] ∨ (d.get? name).isSome)

theorem taken_of_walk {node : Node} (allowed : s.mayWrite target = true)
    (found : s.root.walk (s.placeOf target) = some node) : s.Taken target := by
  rcases List.eq_nil_or_concat (s.placeOf target) with root | ⟨parent, name, parts⟩
  · exact ⟨[], s.root, [], newEntry_of_root allowed root, .inl rfl⟩
  · rw [List.concat_eq_append] at parts
    rw [parts] at found
    obtain ⟨d, there, here⟩ := Directory.walk_concat_eq_some.mp found
    exact ⟨parent, d, name, newEntry_of_parent allowed parts there, .inr (by simp [here])⟩

/-- A creation is refused from the outset, or its place is taken, or it is vacant. -/
theorem creation_cases (s : Session) (target : Text) :
    (¬s.Vacant target ∧ ∃ fault, s.newEntry target = .error fault) ∨ s.Taken target ∨
      s.Vacant target := by
  cases entry : s.newEntry target with
  | error fault =>
      refine .inl ⟨fun vacant => ?_, fault, rfl⟩
      obtain ⟨_, _, _, found, _⟩ := vacant_iff.mp vacant
      rw [entry] at found
      cases found
  | ok found =>
      obtain ⟨place, d, name⟩ := found
      by_cases here : name = [] ∨ (d.get? name).isSome
      · exact .inr (.inl ⟨place, d, name, entry, here⟩)
      · rw [not_or, Option.not_isSome_iff_eq_none] at here
        exact .inr (.inr (vacant_iff.mpr ⟨place, d, name, entry, here.1, here.2⟩))

/-- One node was put where the target is, and there it is now. -/
structure Creates (s : Session) (target : Text) (node : Node) (s' : Session) : Prop where
  frame : s' = { s with root := s'.root }
  put : Directory.Put (s.placeOf target) node s.root s'.root
  taken : s'.Taken target

theorem creates_change (entry : s.newEntry target = .ok (place, d, name)) (named : name ≠ [])
    (free : d.get? name = none) {node : Node} (leaf : node.IsLeaf) :
    s.Creates target node (s.change place (·.insert name node)) := by
  obtain ⟨allowed, parts⟩ := newEntry_place entry named
  have there := newEntry_there entry
  refine ⟨rfl, ?_, place, d.insert name node, name, ?_, .inr ?_⟩
  · rw [placeOf, parts]
    exact Directory.put_modify there leaf (by simp [free])
  · exact newEntry_of_parent allowed parts (Directory.walk_modify there)
  · simp [Directory.get?_insert]

theorem creation_refused {fault : CreateFault} (entry : s.newEntry target = .error fault) :
    s.makeDirectory target = .error fault ∧ s.touch target = .error fault := by
  simp [makeDirectory, touch, entry]

theorem Taken.creation (taken : s.Taken target) :
    s.makeDirectory target = .error .alreadyThere ∧ s.touch target = .ok s := by
  obtain ⟨place, d, name, entry, here⟩ := taken
  have stays : (name.isEmpty || d.contains name) = true := by simpa [Directory.contains] using here
  simp [makeDirectory, touch, entry, stays]

theorem Vacant.creation (vacant : s.Vacant target) :
    (∃ s', s.makeDirectory target = .ok s' ∧ s.Creates target (.dir .nil) s') ∧
      ∃ s', s.touch target = .ok s' ∧ s.Creates target (.file []) s' := by
  obtain ⟨place, d, name, entry, named, free⟩ := vacant_iff.mp vacant
  have goes : (name.isEmpty || d.contains name) = false := by
    simp [Directory.contains, named, free]
  refine ⟨⟨_, ?_, creates_change entry named free fun _ _ => rfl⟩,
    ⟨_, ?_, creates_change entry named free fun _ _ => rfl⟩⟩
  · simp [makeDirectory, entry, goes]
  · simp [touch, entry, goes]

theorem Vacant.walk_eq_none (vacant : s.Vacant target) :
    s.root.walk (s.placeOf target) = none := by
  obtain ⟨_, parent, name, d, parts, there, free⟩ := vacant
  rw [parts, Directory.walk_concat_of_dir there, Directory.not_mem_names_iff.mp free]

section Use

variable (now : Moment) (rest : List Text) (piped : Bool)

theorem Taken.use (taken : s.Taken target) :
    s.use now .mkdir (target :: rest) piped =
        ("mkdir: cannot create directory '" ++ target ++ "': File exists", s) ∧
      s.use now .touch (target :: rest) piped = ([], s) := by
  obtain ⟨refused, stays⟩ := taken.creation
  constructor
  · change s.created _ _ target (s.makeDirectory target) = _
    rw [refused, ← complaint_alreadyThere]
    rfl
  · change s.created _ _ target (s.touch target) = _
    rw [stays]
    rfl

theorem Vacant.use (vacant : s.Vacant target) :
    (∃ s', s.use now .mkdir (target :: rest) piped = ([], s') ∧
        s.Creates target (.dir .nil) s') ∧
      ∃ s', s.use now .touch (target :: rest) piped = ([], s') ∧
        s.Creates target (.file []) s' := by
  obtain ⟨⟨made, makes, creates⟩, touched, touches, creates'⟩ := vacant.creation
  refine ⟨⟨made, ?_, creates⟩, touched, ?_, creates'⟩
  · change s.created _ _ target (s.makeDirectory target) = _
    rw [makes]
    rfl
  · change s.created _ _ target (s.touch target) = _
    rw [touches]
    rfl

/-- Where nothing can be made, nothing is changed, and `mkdir` says why. -/
theorem use_of_not_vacant (not_vacant : ¬s.Vacant target) :
    (∃ said, said ≠ [] ∧ s.use now .mkdir (target :: rest) piped = (said, s)) ∧
      ∃ said, s.use now .touch (target :: rest) piped = (said, s) := by
  rcases s.creation_cases target with ⟨_, fault, entry⟩ | taken | vacant
  · obtain ⟨unmade, untouched⟩ := creation_refused entry
    refine ⟨⟨_, complaint_ne_nil "mkdir" "cannot create directory" target fault.reason, ?_⟩,
      complaint "touch" "cannot touch" target fault.reason, ?_⟩
    · change s.created _ _ target (s.makeDirectory target) = _
      rw [unmade]
      rfl
    · change s.created _ _ target (s.touch target) = _
      rw [untouched]
      rfl
  · obtain ⟨unmade, untouched⟩ := taken.use now rest piped
    exact ⟨⟨_, by simp, unmade⟩, _, untouched⟩
  · exact absurd vacant not_vacant

end Use

/-- `mkdir` says nothing exactly if its target is vacant; then there is an empty directory, the last
among its siblings, and all else is as it was. Otherwise it says something and does nothing. `touch`
changes the tree exactly if its target is vacant, and then there is an empty file. At a place where
the user may write and where something is already it neither says nor does anything. So to touch
twice is to touch once, and a directory that was made cannot be made again. -/
theorem creations_make_one_node_or_none (s : Session) (target : Text) (now : Moment)
    (rest : List Text) (piped : Bool) :
    let place := s.placeOf target
    let make (s : Session) := s.use now .mkdir (target :: rest) piped
    let touch (s : Session) := s.use now .touch (target :: rest) piped
    ((make s).1 = [] ↔ s.Vacant target) ∧
    (s.Vacant target → Directory.Put place (.dir .nil) s.root (make s).2.root ∧
      (make s).2 = { s with root := (make s).2.root }) ∧
    ((make s).1 ≠ [] → (make s).2 = s) ∧
    ((touch s).2.root ≠ s.root ↔ s.Vacant target) ∧
    (s.Vacant target → (touch s).1 = [] ∧
      Directory.Put place (.file []) s.root (touch s).2.root ∧
      (touch s).2 = { s with root := (touch s).2.root }) ∧
    (¬s.Vacant target → (touch s).2 = s) ∧
    (s.mayWrite target = true → (s.root.walk place).isSome → touch s = ([], s)) ∧
    touch (touch s).2 = touch s ∧
    ((make s).1 = [] → make (make s).2 =
      ("mkdir: cannot create directory '" ++ target ++ "': File exists", (make s).2)) := by
  intro place make touch
  have stays (allowed : s.mayWrite target = true) (found : (s.root.walk place).isSome) :
      touch s = ([], s) := by
    obtain ⟨node, found⟩ := Option.isSome_iff_exists.mp found
    exact ((taken_of_walk allowed found).use now rest piped).2
  by_cases vacant : s.Vacant target
  · obtain ⟨⟨made, makes, creates⟩, touched, touches, creates'⟩ := vacant.use now rest piped
    have makes : make s = ([], made) := makes
    have touches : touch s = ([], touched) := touches
    have changed : touched.root ≠ s.root := by
      intro same
      have there := creates'.put.there
      rw [same, vacant.walk_eq_none] at there
      cases there
    rw [makes, touches]
    refine ⟨by simp [vacant], fun _ => ⟨creates.put, creates.frame⟩, by simp,
      by simp [vacant, changed], fun _ => ⟨rfl, creates'.put, creates'.frame⟩,
      fun absent => absurd vacant absent, ?_,
      (creates'.taken.use now rest piped).2, fun _ => (creates.taken.use now rest piped).1⟩
    exact fun allowed found => touches ▸ stays allowed found
  · obtain ⟨⟨said, said_ne, makes⟩, word, touches⟩ := use_of_not_vacant now rest piped vacant
    have makes : make s = (said, s) := makes
    have touches : touch s = (word, s) := touches
    refine ⟨?_, ?_, ?_, ?_, ?_, ?_, stays, ?_, ?_⟩ <;> simp [makes, touches, vacant, said_ne]

end Session
end PocketShell
