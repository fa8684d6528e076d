import PocketShell.FileTree.Samples
import PocketShell.Proofs.Path.Resolution
import PocketShell.Session.Tools

/-!
Going somewhere in steps. What a path is resolved to stands for itself from everywhere, and a path
with a slash in it leads from the place of its first part to that of its second one. So a session
that went to one directory and from there to another could have gone the whole way at once.
-/

namespace PocketShell.Session

variable {s there : Session} {target : Text}

/-- Going somewhere without a complaint is going to a directory. -/
theorem changeDirectory_eq_nil_iff : s.changeDirectory target = ([], there) ↔
    (∃ d, s.node? target = some (.dir d)) ∧ s.moveTo (s.resolve target) = there := by
  have node : s.nodeAt (s.resolve target) = s.node? target := rfl
  simp only [changeDirectory, node]
  cases s.node? target with
  | none => simp
  | some found => cases found <;> simp

/-- From the place of its first part, the second part of a path leads where the whole path leads. -/
theorem resolve_moveTo {s : Session} {first rest : Text} (some_first : first ≠ [])
    (rooted : Path.isAbsolute s.environment.home) (not_absolute : rest.head? ≠ some (.char '/'))
    (no_tilde : rest.head? ≠ some (.char '~')) :
    (s.moveTo (s.resolve first)).resolve rest = s.resolve (first ++ .char '/' :: rest) :=
  (Path.resolve_append some_first rooted not_absolute no_tilde s.path).symm

/-- Two steps from directory to directory come to the same as one. -/
theorem changeDirectory_append {first rest : Text} (some_first : first ≠ [])
    (rooted : Path.isAbsolute s.environment.home) (not_absolute : rest.head? ≠ some (.char '/'))
    (no_tilde : rest.head? ≠ some (.char '~')) {between : Session}
    (went : s.changeDirectory first = ([], between))
    (went_on : between.changeDirectory rest = ([], there)) :
    s.changeDirectory (first ++ .char '/' :: rest) = ([], there) := by
  obtain ⟨_, rfl⟩ := changeDirectory_eq_nil_iff.mp went
  obtain ⟨⟨d, found⟩, rfl⟩ := changeDirectory_eq_nil_iff.mp went_on
  have same := resolve_moveTo some_first rooted not_absolute no_tilde
  have node : (s.moveTo (s.resolve first)).node? rest = s.node? (first ++ .char '/' :: rest) :=
    congrArg s.nodeAt same
  have place : (s.moveTo (s.resolve first)).moveTo ((s.moveTo (s.resolve first)).resolve rest) =
      s.moveTo (s.resolve (first ++ .char '/' :: rest)) := congrArg s.moveTo same
  rw [place]
  exact changeDirectory_eq_nil_iff.mpr ⟨⟨d, node.symm.trans found⟩, rfl⟩

/-- A path is resolved to a canonical one, which stands for itself from everywhere and is put
together again from its parent and its name. A path with a slash in it is resolved in two steps,
if its second part is not absolute; so when the steps from directory to directory lead somewhere,
the whole path leads there at once. -/
theorem paths_are_resolved_in_steps (path current home : Text) (rooted : Path.isAbsolute home)
    (canonical : Path.Canonical current) :
    let found := Path.resolve path current home
    Path.Canonical found ∧
    (∀ elsewhere other : Text, Path.resolve found elsewhere other = found) ∧
    (found ≠ (['/'] : Text) →
      Path.join (Path.parentAndName found).1 (Path.parentAndName found).2 = found) ∧
    ∀ first rest : Text, first ≠ [] →
      rest.head? ≠ some (.char '/') → rest.head? ≠ some (.char '~') →
      Path.resolve (first ++ .char '/' :: rest) current home =
        Path.resolve rest (Path.resolve first current home) home ∧
      ∀ (s between there : Session) (now : Moment) (piped : Bool),
        s.environment.home = home →
        s.use now .cd [first] piped = ([], between) →
        between.use now .cd [rest] piped = ([], there) →
        s.use now .cd [first ++ .char '/' :: rest] piped = ([], there) := by
  intro found
  have canonical_found : Path.Canonical found := canonical.resolve path home
  refine ⟨canonical_found, canonical_found.resolve_eq, canonical_found.join_parentAndName,
    fun first rest some_first not_absolute no_tilde => ⟨?_, ?_⟩⟩
  · exact Path.resolve_append some_first rooted not_absolute no_tilde current
  · intro s between there now piped at_home went went_on
    rw [← at_home] at rooted
    exact changeDirectory_append some_first rooted not_absolute no_tilde went went_on

/-- The guest goes up from home to the root and from there to `/tmp`. -/
theorem guest_goes_to_tmp_by_home :
    let s := Session.start (.defaultTree "guest") "guest" "/home/guest"
    let home : Text := "/home/guest"
    let first : Text := "~//.././.."
    let rest : Text := "tmp/../tmp/"
    Path.isAbsolute home ∧ Path.Canonical home ∧
    Path.resolve "~/x/../y/" home home = ("/home/guest/y" : Text) ∧
    Path.resolve "/home/guest/y" "/etc" "/root" = ("/home/guest/y" : Text) ∧
    Path.join "/home/guest" "y" = ("/home/guest/y" : Text) ∧
    Path.resolve (first ++ .char '/' :: rest) home home =
      Path.resolve rest (Path.resolve first home home) home ∧
    (s.use default .cd [first ++ .char '/' :: rest] false).2.path = ("/tmp" : Text) := by
  intro s home first rest
  have rooted : Path.isAbsolute home := rfl
  have canonical : Path.Canonical home := Path.canonical_home (by decide)
  obtain ⟨_, stands, joined, steps⟩ :=
    paths_are_resolved_in_steps "~/x/../y/" home home rooted canonical
  obtain ⟨resolved, goes⟩ := steps first rest (by decide) (by decide) (by decide)
  have up : s.changeDirectory first = ([], s.moveTo "/") :=
    changeDirectory_eq_nil_iff.mpr ⟨⟨s.root, by decide +kernel⟩,
      congrArg s.moveTo (by decide +kernel)⟩
  have down : (s.moveTo "/").changeDirectory rest = ([], (s.moveTo "/").moveTo "/tmp") :=
    changeDirectory_eq_nil_iff.mpr ⟨⟨.nil, by decide +kernel⟩,
      congrArg (s.moveTo "/").moveTo (by decide +kernel)⟩
  have went := goes s _ _ default false rfl up down
  exact ⟨rooted, canonical, by decide, stands "/etc" "/root", joined (by decide), resolved,
    congrArg (·.2.path) went⟩

end PocketShell.Session
