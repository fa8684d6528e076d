import PocketShell.Proofs.FileTree.Apart
import PocketShell.Proofs.Path.Resolution
import PocketShell.Proofs.Session.Account

/-!
Where a write goes. It puts a file at the place that the name leads to from where the session is,
whatever the session may write, and leaves the tree as it is apart from that place. A name that
begins with a slash leads to the same place from everywhere, one that begins with a tilde from
wherever the home is the same, and any other one from the same working directory.
-/

namespace PocketShell.Session

variable {s s' : Session} {file content : Text} {mode : WriteMode}

/-- The place that a path leads to from where the session is. -/
def placeOf (s : Session) (path : Text) : List Text := Path.segments (s.resolve path)

theorem write_same (written : s.write file content mode = .ok s') :
    s'.account = s.account ∧ s'.editor = s.editor := by
  obtain ⟨_, _, _, _, _, _, _, rfl⟩ := write_change written
  exact ⟨rfl, rfl⟩

theorem write_sameApart (written : s.write file content mode = .ok s') :
    Directory.SameApart (s.placeOf file) s.root s'.root := by
  obtain ⟨parent, name, d, parts, named, _, _, rfl⟩ := write_change written
  rw [placeOf, Path.segments_parentAndName parts named]
  apply Directory.sameApart_modify
  intro d
  exact d.apart_insert name _

theorem directoryAt_eq_ok {root d : Directory} {place : List Text}
    (there : root.directoryAt place = .ok d) : root.walk place = some (.dir d) := by
  simp only [Directory.directoryAt] at there
  split at there
  · cases there
  · cases there
  · next found =>
    cases there
    exact found

/-- What is found after a write is made from what was found before. -/
theorem write_found (wrote : s.write file content mode = .ok s') :
    s'.root.walk (s.placeOf file) =
      some (PocketShell.written (s.root.walk (s.placeOf file)) content mode) := by
  obtain ⟨parent, name, d, parts, named, there, _, rfl⟩ := write_change wrote
  have before := directoryAt_eq_ok there
  rw [placeOf, Path.segments_parentAndName parts named, Directory.walk_concat_of_dir before]
  exact Directory.walk_modify_insert name _ before

/-- What is written over a file is the content of the file then. -/
theorem write_content (written : s.write file content .overwrite = .ok s') :
    s'.root.walk (s.placeOf file) = some (.file content) := write_found written

theorem resolve_of_slash (s t : Session) {path : Text} (slash : path.head? = some (.char '/')) :
    s.resolve path = t.resolve path := by
  cases path with
  | nil => cases slash
  | cons c rest =>
      cases slash
      simp [resolve, Path.resolve, Path.place, Path.expandHome, Path.isAbsolute]

theorem resolve_of_tilde {s t : Session} {path : Text} (tilde : path.head? = some (.char '~'))
    (home : s.environment.home = t.environment.home)
    (absolute : t.environment.home.head? = some (.char '/')) : s.resolve path = t.resolve path := by
  cases path with
  | nil => cases tilde
  | cons c rest =>
      cases tilde
      simp [resolve, Path.resolve, Path.place, Path.expandHome, Path.isAbsolute, home,
        List.head?_append, absolute]

theorem resolve_of_path {s t : Session} {path : Text} (plain : path.head? ≠ some (.char '~'))
    (same : s.path = t.path) : s.resolve path = t.resolve path := by
  simp only [resolve, Path.resolve, Path.place, Path.expandHome_of_no_tilde plain, same]

end PocketShell.Session
