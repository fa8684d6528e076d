import PocketShell.Path
import PocketShell.Permission
import PocketShell.Proofs.Text.Lines

/-!
The segments of a path and of the paths that are made from them. Segments are never empty and have
no slash in them, so a path that is put together from segments has just these; and a path that
begins with another one and a slash has its segments first. The right to write is told from texts
but holds of places by that: what lies in a home directory as a text lies in it as a place.
-/

namespace PocketShell.Path

theorem segments_append (path rest : Text) :
    segments (path ++ .char '/' :: rest) = segments path ++ segments rest := by
  simp [segments, Text.splitOn_append]

theorem segments_slash (path : Text) : segments ('/' :: path) = segments path :=
  segments_append [] path

/-- What can stand between two slashes. -/
def IsSegment (name : Text) : Prop := name ≠ [] ∧ .char '/' ∉ name

theorem isSegment_of_mem {path name : Text} (mem : name ∈ segments path) : IsSegment name := by
  obtain ⟨piece, named⟩ := List.mem_filter.mp mem
  exact ⟨by simpa using named, Text.not_mem_of_mem_splitOn piece⟩

theorem segments_of_isSegment {name : Text} (h : IsSegment name) : segments name = [name] := by
  simp [segments, Text.splitOn_of_not_mem h.2, h.1]

theorem segments_ofSegments {names : List Text} (h : ∀ name ∈ names, IsSegment name) :
    segments (ofSegments names) = names := by
  rw [ofSegments, segments_slash]
  induction names with
  | nil => rfl
  | cons name names ih =>
      have first := segments_of_isSegment (h name List.mem_cons_self)
      have rest := ih fun other mem => h other (List.mem_cons_of_mem name mem)
      cases names with
      | nil => exact first
      | cons next names =>
          rw [Text.join, List.append_assoc]
          simp only [List.cons_append, List.nil_append]
          rw [segments_append, first, rest]
          rfl

theorem segments_parentAndName {path parent name : Text}
    (h : parentAndName path = (parent, name)) (named : name ≠ []) :
    segments path = segments parent ++ [name] := by
  simp only [parentAndName] at h
  split at h
  · cases h
    exact absurd rfl named
  · next last found =>
    cases h
    have inside : ∀ other ∈ (segments path).dropLast, IsSegment other := by
      intro other mem
      exact isSegment_of_mem (List.dropLast_subset _ mem)
    obtain ⟨before, parts⟩ := List.getLast?_eq_some_iff.mp found
    rw [segments_ofSegments inside]
    simp [parts]

theorem parentAndName_of_segments {path name : Text} {parent : List Text}
    (parts : segments path = parent ++ [name]) :
    parentAndName path = (ofSegments parent, name) ∧ segments (ofSegments parent) = parent := by
  refine ⟨by simp [parentAndName, parts], segments_ofSegments fun other mem => ?_⟩
  have inside : other ∈ segments path := parts ▸ List.mem_append_left _ mem
  exact isSegment_of_mem inside

end PocketShell.Path

namespace PocketShell

/-- The place of the home directory of an ordinary user. -/
def homePlace (user : Text) : List Text := Path.segments ("/home/" ++ user)

theorem homePlace_prefix_of_withinHome {path user : Text} (h : withinHome path user) :
    homePlace user <+: Path.segments path := by
  simp only [withinHome, Bool.or_eq_true, decide_eq_true_eq, List.isPrefixOf_iff_prefix] at h
  rcases h with same | ⟨rest, below⟩
  · rw [same]
    exact List.prefix_refl _
  · rw [← below, List.append_assoc, List.singleton_append, Path.segments_append]
    exact List.prefix_append _ _

theorem homePlace_prefix_of_canWrite {path user : Text} (ordinary : user ≠ rootUser)
    (h : canWrite path user) : homePlace user <+: Path.segments path := by
  simp only [canWrite, ordinary, decide_false, Bool.false_or] at h
  exact homePlace_prefix_of_withinHome h

end PocketShell
