import PocketShell.Proofs.Session.Written

/-!
When a write is refused, and when a creation is. Of a write the tree alone decides, and the place
that is written to: there must be no directory at it, and a directory for it to go into. Neither the
user, nor what is written, nor the way of writing plays a part. A creation asks the user first.
-/

namespace PocketShell

/-- Nothing can be written where a directory is, nor where there is no directory to write in. -/
def Directory.refuses (root : Directory) (place : List Text) : Bool :=
  match root.walk place with
  | some (.dir _) => true
  | _ =>
      match root.walk place.dropLast with
      | some (.dir _) => false
      | _ => true

/-- When a fault is met by a write at a place of a tree. -/
def WriteFault.Arises (root : Directory) (place : List Text) : WriteFault → Prop
  | .lookup .missing => root.walk place.dropLast = none
  | .lookup .notADirectory => ∃ text, root.walk place.dropLast = some (.file text)
  | .isADirectory => place = [] ∨ ∃ d, root.walk place = some (.dir d)

theorem Directory.refuses_iff (root : Directory) (place : List Text) :
    root.refuses place ↔ ∃ fault : WriteFault, fault.Arises root place := by
  constructor
  · intro refused
    simp only [refuses] at refused
    split at refused
    · next d found => exact ⟨.isADirectory, .inr ⟨d, found⟩⟩
    · split at refused
      · cases refused
      · next no_dir =>
        cases above : root.walk place.dropLast with
        | none => exact ⟨.lookup .missing, above⟩
        | some node =>
            cases node with
            | file text => exact ⟨.lookup .notADirectory, text, above⟩
            | dir d => exact absurd above (no_dir d)
  · rintro ⟨fault, arises⟩
    rcases fault with (_ | _) | _
    · have above : root.walk place.dropLast = none := arises
      rw [refuses, above]
      split <;> rfl
    · obtain ⟨text, above⟩ : ∃ text, root.walk place.dropLast = some (.file text) := arises
      rw [refuses, above]
      split <;> rfl
    · rcases arises with rfl | ⟨d, found⟩
      · rfl
      · rw [refuses, found]

theorem Path.segments_of_nameless {path parent : Text} (h : parentAndName path = (parent, [])) :
    segments path = [] := by
  simp only [parentAndName] at h
  split at h
  · next found => exact List.getLast?_eq_none_iff.mp found
  · next last found =>
    cases h
    exact absurd rfl (isSegment_of_mem (List.mem_of_getLast? found)).1

namespace Session

/-- Which fault is met is told from the place that is written to. -/
theorem write_error_iff (s : Session) (file content : Text) (mode : WriteMode)
    (fault : WriteFault) :
    s.write file content mode = .error fault ↔ fault.Arises s.root (s.placeOf file) := by
  cases parts : Path.parentAndName (s.resolve file) with
  | mk parent name =>
      by_cases named : name = []
      · subst named
        have root : s.placeOf file = [] := Path.segments_of_nameless parts
        rcases fault with (_ | _) | _ <;>
          simp [write, parts, root, WriteFault.Arises, Directory.walk, Node.walk]
      · have place : s.placeOf file = Path.segments parent ++ [name] :=
          Path.segments_parentAndName parts named
        simp only [write, parts, Directory.directoryAt, place]
        rcases fault with (_ | _) | _ <;>
          simp only [WriteFault.Arises, List.dropLast_concat, Directory.walk_concat]
        all_goals
          cases s.root.walk (Path.segments parent) with
          | none => simp [named]
          | some node =>
              cases node with
              | file old => simp [named, Node.walk]
              | dir d =>
                  cases found : d.get? name with
                  | none => simp [named, Node.walk, found]
                  | some entry => cases entry <;> simp [named, Node.walk, found]

theorem write_refused_iff (s : Session) (file content : Text) (mode : WriteMode) :
    (∃ fault, s.write file content mode = .error fault) ↔ s.root.refuses (s.placeOf file) := by
  simp only [s.write_error_iff, Directory.refuses_iff]

variable {s s' : Session} {file content : Text} {mode : WriteMode}

theorem refuses_of_write {fault : WriteFault}
    (refused : s.write file content mode = .error fault) : s.root.refuses (s.placeOf file) :=
  (s.write_refused_iff file content mode).mp ⟨fault, refused⟩

theorem not_refuses_of_write (wrote : s.write file content mode = .ok s') :
    ¬s.root.refuses (s.placeOf file) := by
  rw [← s.write_refused_iff file content mode, wrote]
  rintro ⟨fault, ⟨⟩⟩

/-- Without the right to write, a creation says so and does nothing else. -/
theorem creation_denied {target : Text} (denied : s.mayWrite target = false) (now : Moment)
    (rest : List Text) (piped : Bool) :
    s.use now .touch (target :: rest) piped =
        (complaint "touch" "cannot touch" target "Permission denied", s) ∧
      s.use now .mkdir (target :: rest) piped =
        (complaint "mkdir" "cannot create directory" target "Permission denied", s) := by
  have refused : s.newEntry target = .error .denied := by
    rw [mayWrite] at denied
    simp [newEntry, denied]
  constructor
  · change s.created "touch" "cannot touch" target (s.touch target) = _
    rw [touch, refused]
    rfl
  · change s.created "mkdir" "cannot create directory" target (s.makeDirectory target) = _
    rw [makeDirectory, refused]
    rfl

end Session
end PocketShell
