import PocketShell.Proofs.FileTree.Put
import PocketShell.Proofs.Session.Refusal
import PocketShell.Proofs.Shell.Event

/-!
Writing a file as an update of the tree. Which fault a write meets depends on the place and the
tree alone; without one the file is put at its place. What is written over a file is all that is
left of it, so a second write makes the first one forgotten, and appending after that is writing
more at once.
-/

namespace PocketShell

namespace Session

variable {s s' : Session} {file content : Text} {mode : WriteMode}

/-- A write that nothing refuses. -/
theorem write_eq {parent name : Text} {d : Directory}
    (parts : Path.parentAndName (s.resolve file) = (parent, name)) (named : name ≠ [])
    (there : s.root.walk (Path.segments parent) = some (.dir d))
    (no_dir : ∀ sub, d.get? name ≠ some (.dir sub)) (content : Text) (mode : WriteMode) :
    s.write file content mode =
      .ok (s.change (Path.segments parent)
        (·.insert name (written (d.get? name) content mode))) := by
  cases found : d.get? name with
  | none => simp [write, parts, named, Directory.directoryAt, there, found]
  | some node =>
      cases node with
      | file old => simp [write, parts, named, Directory.directoryAt, there, found]
      | dir sub => exact absurd found (no_dir sub)

theorem change_change (s : Session) (place : List Text) (f g : Directory → Directory) :
    (s.change place f).change place g = s.change place fun d => g (f d) := by
  simp [change, Directory.modify_modify]

/-- A second write finds what the first one has left, and what was there before is gone. -/
theorem write_write (wrote : s.write file content mode = .ok s') (more : Text)
    (again : WriteMode) :
    ∃ place name old,
      (∀ text mode, s.write file text mode =
        .ok (s.change place (·.insert name (written old text mode)))) ∧
      s'.write file more again =
        .ok (s.change place
          (·.insert name (written (some (written old content mode)) more again))) := by
  obtain ⟨parent, name, d, parts, named, at_parent, no_dir, rfl⟩ := write_change wrote
  have there := directoryAt_eq_ok at_parent
  refine ⟨Path.segments parent, name, d.get? name, write_eq parts named there no_dir, ?_⟩
  obtain ⟨text, is_file⟩ := written_isFile (d.get? name) content mode
  have second := write_eq (s := s.change (Path.segments parent)
    (·.insert name (written (d.get? name) content mode))) parts named
    (Directory.walk_modify there) (by simp [Directory.get?_insert, is_file]) more again
  rw [second, change_change]
  simp [Directory.get?_insert, Directory.insert_insert]

/-- Writing over a file and then again is one write over it. -/
theorem write_after_overwrite (s : Session) (file first second : Text) (again : WriteMode) :
    (s.write file first .overwrite).bind (·.write file second again) =
      s.write file (match again with | .overwrite => second | .append => first ++ second)
        .overwrite := by
  cases wrote : s.write file first .overwrite with
  | error fault =>
      have arises := (s.write_error_iff file first .overwrite fault).mp wrote
      exact ((s.write_error_iff file _ .overwrite fault).mpr arises).symm
  | ok s' =>
      obtain ⟨place, name, old, once, twice⟩ := write_write wrote second again
      rw [once]
      refine twice.trans ?_
      cases again <;> rfl

/-- To write over a file what it holds already changes nothing. -/
theorem write_over_itself (held : s.node? file = some (.file content)) :
    s.write file content .overwrite = .ok s := by
  have found : s.root.walk (s.placeOf file) = some (.file content) := held
  cases wrote : s.write file content .overwrite with
  | error fault =>
      have refused := refuses_of_write wrote
      rcases List.eq_nil_or_concat (s.placeOf file) with root | ⟨parent, name, parts⟩
      · rw [root] at found
        cases found
      · rw [List.concat_eq_append] at parts
        rw [parts] at found refused
        obtain ⟨d, there, _⟩ := Directory.walk_concat_eq_some.mp found
        simp [Directory.refuses, found, there] at refused
  | ok s' =>
      obtain ⟨parent, name, d, parts, named, at_parent, _, rfl⟩ := write_change wrote
      have there := directoryAt_eq_ok at_parent
      rw [placeOf, Path.segments_parentAndName parts named,
        Directory.walk_concat_of_dir there] at found
      have same : d.insert name (written (d.get? name) content .overwrite) = d :=
        Directory.insert_self found
      rw [change, Directory.modify_eq_self there same]

theorem write_node? (wrote : s.write file content mode = .ok s') :
    s'.node? file = some (written (s.node? file) content mode) := by
  have found := write_found wrote
  obtain ⟨_, _, _, _, _, _, _, rfl⟩ := write_change wrote
  exact found

/-- A write that succeeds puts the file at its place. -/
theorem write_put (wrote : s.write file content mode = .ok s') :
    Directory.Put (s.placeOf file)
      (written (s.root.walk (s.placeOf file)) content mode) s.root s'.root := by
  have found := write_found wrote
  obtain ⟨parent, name, d, parts, named, at_parent, no_dir, rfl⟩ := write_change wrote
  have there := directoryAt_eq_ok at_parent
  have place : s.placeOf file = Path.segments parent ++ [name] :=
    Path.segments_parentAndName parts named
  rw [place, Directory.walk_concat_of_dir there]
  refine Directory.put_modify there ?_ fun node mem => ?_
  · obtain ⟨text, is_file⟩ := written_isFile (d.get? name) content mode
    rw [is_file]
    exact fun _ _ => rfl
  · cases node with
    | file old => exact fun _ _ => rfl
    | dir sub => exact absurd mem (no_dir sub)

end Session

namespace Shell

variable {σ : Type} [KeyValueStore σ]

/-- A write is refused exactly at the root, where there is no directory to write in, and where a
directory is; it then changes nothing. Otherwise it puts a file at its place, which holds what was
written, or what it held and that behind it if this was to be appended, and all else of the session
is as it was. So of two writes over a file the second counts alone, and appending to what was just
written is writing both. -/
theorem write_is_a_lawful_update (sh : Shell σ) (file : Text) :
    let s := sh.session
    let place := s.placeOf file
    (∀ content mode,
      let after := sh.handle (.write file content mode)
      (∀ fault : WriteFault, s.write file content mode = .error fault ↔
        fault.Arises s.root place) ∧
      (∀ fault, s.write file content mode = .error fault → after = sh) ∧
      ∀ s', s.write file content mode = .ok s' →
        after = sh.withSession s' ∧ s' = { s with root := s'.root } ∧
        ∃ text, s'.node? file = some (.file text) ∧
          Directory.Put place (.file text) s.root s'.root ∧
          (mode = .overwrite ∨ s.node? file = none → text = content) ∧
          ∀ old, mode = .append → s.node? file = some (.file old) → text = old ++ content) ∧
    ∀ first second,
      (s.write file first .overwrite).bind (·.write file second .overwrite) =
        s.write file second .overwrite ∧
      (s.write file first .overwrite).bind (·.write file second .append) =
        s.write file (first ++ second) .overwrite := by
  intro s place
  refine ⟨fun content mode => ⟨s.write_error_iff file content mode, fun fault refused => ?_,
    fun s' wrote => ⟨?_, ?_, ?_⟩⟩, fun first second => ⟨?_, ?_⟩⟩
  · simp only [handle]
    rw [show sh.session.write file content mode = .error fault from refused]
  · simp only [handle]
    rw [show sh.session.write file content mode = .ok s' from wrote]
  · obtain ⟨_, _, _, _, _, _, _, rfl⟩ := Session.write_change wrote
    rfl
  · have found : s'.node? file = some (written (s.node? file) content mode) :=
      Session.write_node? wrote
    have put : Directory.Put place (written (s.node? file) content mode) s.root s'.root :=
      Session.write_put wrote
    obtain ⟨text, is_file⟩ := Session.written_isFile (s.node? file) content mode
    rw [is_file] at found put
    refine ⟨text, found, put, fun fresh => ?_, fun old append held => ?_⟩
    · have whole : written (s.node? file) content mode = .file content := by
        rcases fresh with rfl | absent
        · rfl
        · rw [absent]
          cases mode <;> rfl
      exact (Node.file.inj (whole.symm.trans is_file)).symm
    · rw [append, held] at is_file
      exact (Node.file.inj is_file).symm
  · exact s.write_after_overwrite file first second .overwrite
  · exact s.write_after_overwrite file first second .append

end Shell
end PocketShell
