import PocketShell.Proofs.FileTree.Apart
import PocketShell.Proofs.Path.Segments
import PocketShell.Proofs.Session.Step

/-!
What an ordinary user can change. The right to write is asked for before every edit, of the path of
a new entry or of the parent of one that is removed; either way the entry lies in the home directory
of the user, or it is that directory itself. So whatever a command edits, the tree is the same apart
from that home.
-/

namespace PocketShell.Session

/-- A new entry goes where the user may write. -/
theorem newEntry_place {s : Session} {target : Text} {place : List Text} {d : Directory}
    {name : Text} (entry : s.newEntry target = .ok (place, d, name)) (named : name ≠ []) :
    canWrite (s.resolve target) s.user ∧ Path.segments (s.resolve target) = place ++ [name] := by
  simp only [newEntry] at entry
  split at entry
  · cases entry
  · next allowed =>
    cases parts : Path.parentAndName (s.resolve target) with
    | mk parent last =>
        simp only [parts] at entry
        split at entry
        · cases entry
        · cases entry
          exact ⟨by simpa using allowed, Path.segments_parentAndName parts named⟩

/-- What is removed is an entry of a directory in which the user may write. -/
theorem removal_place {s : Session} {recursive : Bool} {target : Text} {place : List Text}
    {name : Text} (removal : s.removal recursive target = .allowed place name) :
    ∃ parent, canWrite parent s.user ∧ place = Path.segments parent := by
  simp only [Session.removal] at removal
  generalize Path.parentAndName (s.resolve target) = parts at removal
  obtain ⟨parent, last⟩ := parts
  split at removal
  · cases removal
  · next allowed =>
    split at removal
    · split at removal
      · cases removal
      · split at removal
        · cases removal
        · cases removal
          exact ⟨parent, by simpa using allowed, rfl⟩
    · cases removal

variable {args : List Text} {s s' : Session}

theorem edit_sameApart (edit : Edit args s s') (ordinary : s.user ≠ rootUser) :
    s'.user = s.user ∧ Directory.SameApart (homePlace s.user) s.root s'.root := by
  cases edit with
  | create target place d name node mem entry named free kind =>
      obtain ⟨allowed, segments⟩ := newEntry_place entry named
      have inside := homePlace_prefix_of_canWrite ordinary allowed
      rw [segments] at inside
      refine ⟨rfl, Directory.SameApart.of_prefix inside ?_⟩
      apply Directory.sameApart_modify
      intro d
      exact d.apart_insert name node
  | remove target recursive place name mem removal =>
      obtain ⟨parent, allowed, rfl⟩ := removal_place removal
      have inside := homePlace_prefix_of_canWrite ordinary allowed
      have below := inside.trans (List.prefix_append (Path.segments parent) [name])
      refine ⟨rfl, Directory.SameApart.of_prefix below ?_⟩
      apply Directory.sameApart_modify
      intro d
      exact d.apart_erase name

theorem edits_sameApart (edits : Edits args s s') (ordinary : s.user ≠ rootUser) :
    s'.user = s.user ∧ Directory.SameApart (homePlace s.user) s.root s'.root := by
  induction edits with
  | refl => exact ⟨rfl, Directory.sameApart_refl _ _⟩
  | tail _ edit ih =>
      obtain ⟨same_user, before⟩ := ih
      obtain ⟨user, after⟩ := edit_sameApart edit (same_user ▸ ordinary)
      rw [same_user] at user after
      exact ⟨user, before.trans after⟩

theorem use_sameApart (s : Session) (now : Moment) (tool : Tool) (args : List Text) (piped : Bool)
    (ordinary : s.user ≠ rootUser) :
    Directory.SameApart (homePlace s.user) s.root (s.use now tool args piped).2.root := by
  rcases use_effect s now tool args piped with edits | ⟨_, same⟩
  · exact (edits_sameApart edits ordinary).2
  · rw [same]
    exact Directory.sameApart_refl _ _

end PocketShell.Session
