import PocketShell.Proofs.FileTree.Places
import PocketShell.Proofs.Path.Canonical
import PocketShell.Proofs.Session.Confined
import PocketShell.Proofs.Session.Saveable
import PocketShell.Proofs.Session.Written

/-!
Sessions in which every node has an address. A name comes into the tree as the last segment of a
resolved path, and such a path is canonical as long as the working directory is, so names stay
legal. The working directory is a resolved path too, or one that was left behind with a user; only
`cd` without arguments takes the home directory as it is, without resolving it.
-/

namespace PocketShell.Session

structure Addressable (s : Session) : Prop where
  legal : s.root.WellNamed Path.LegalSegment
  path : Path.Canonical s.path
  stack : ∀ u ∈ s.userStack, Path.Canonical u.path

variable {s s' : Session}

/-- The absolute path of a node is its address: from everywhere it leads to the place of the node,
and the node is found there. -/
theorem Addressable.node?_of_leads (h : s.Addressable) {names : List Text} {node : Node}
    (leads : (Node.dir s.root).Leads names node) :
    s.placeOf (Path.ofSegments names) = names ∧ s.node? (Path.ofSegments names) = some node := by
  obtain ⟨walks, legal⟩ := leads.walk h.legal
  have resolved : s.resolve (Path.ofSegments names) = Path.ofSegments names :=
    Path.resolve_ofLegal legal s.path s.environment.home
  have place : s.placeOf (Path.ofSegments names) = names := by
    rw [placeOf, resolved, Path.segments_ofLegal legal]
  refine ⟨place, ?_⟩
  rw [node?, nodeAt, ← placeOf, place]
  exact walks

theorem Addressable.moveTo (h : s.Addressable) {path : Text} (canonical : Path.Canonical path) :
    (s.moveTo path).Addressable :=
  ⟨h.legal, canonical, h.stack⟩

theorem Addressable.resolve (h : s.Addressable) (path : Text) : Path.Canonical (s.resolve path) :=
  h.path.resolve path s.environment.home

theorem Addressable.insert (h : s.Addressable) (place : List Text) {name : Text} {node : Node}
    (legal : Path.LegalSegment name) (below : node.WellNamed Path.LegalSegment) :
    (s.change place (·.insert name node)).Addressable :=
  { h with
    legal := Directory.wellNamed_modify _
      (fun d hd => d.wellNamed_insert name node hd legal below) s.root place h.legal }

theorem Addressable.write (h : s.Addressable) {file content : Text} {mode : WriteMode}
    (written : s.write file content mode = .ok s') : s'.Addressable := by
  obtain ⟨parent, name, d, parts, named, _, _, rfl⟩ := write_change written
  obtain ⟨text, is_file⟩ := written_isFile (d.get? name) content mode
  exact h.insert _ (Path.legal_parentAndName (h.resolve file) parts named) (is_file ▸ trivial)

theorem Addressable.edit (h : s.Addressable) {args : List Text} (edit : Edit args s s') :
    s'.Addressable := by
  cases edit with
  | create target place d name node mem entry named free kind =>
      obtain ⟨_, segments⟩ := newEntry_place entry named
      have legal : Path.LegalSegment name :=
        (h.resolve target).legal name (segments ▸ List.mem_append_right place List.mem_cons_self)
      refine h.insert place legal ?_
      rcases kind with rfl | rfl <;> trivial
  | remove target recursive place name mem removal =>
      exact
        { h with
          legal := Directory.wellNamed_modify _ (fun d hd => d.wellNamed_erase name hd) s.root place
            h.legal }

theorem Addressable.edits (h : s.Addressable) {args : List Text} (edits : Edits args s s') :
    s'.Addressable := by
  induction edits with
  | refl => exact h
  | tail _ edit ih => exact ih.edit edit

theorem Addressable.switchUser (h : s.Addressable) (user : Text) :
    (s.switchUser user).2.Addressable :=
  ⟨h.legal, h.path, List.forall_mem_cons.mpr ⟨h.path, h.stack⟩⟩

theorem Addressable.restoreUser (h : s.Addressable) : s.restoreUser.2.Addressable := by
  simp only [Session.restoreUser]
  split
  · exact h
  · next previous stack left =>
    obtain ⟨top, rest⟩ := List.forall_mem_cons.mp (left ▸ h.stack)
    exact ⟨h.legal, top, rest⟩

theorem Addressable.changeDirectory (h : s.Addressable) (target : Text) :
    (s.changeDirectory target).2.Addressable := by
  simp only [Session.changeDirectory]
  split
  · exact h
  · exact h
  · exact h.moveTo (h.resolve target)

/-- A command keeps a session addressable, if it does not go to a home directory whose path is not
canonical. -/
theorem Addressable.use (h : s.Addressable) (now : Moment) (tool : Tool) (args : List Text)
    (piped : Bool)
    (home : tool = .cd → args = [] → Path.Canonical s.environment.home) :
    (s.use now tool args piped).2.Addressable := by
  cases tool with
  | help | cat => cases args <;> exact h
  | clear | echo | whoami | date | uname | env | history | ps | ls | pwd | tree => exact h
  | cd =>
      cases args with
      | nil => exact h.moveTo (home rfl rfl)
      | cons target rest => exact h.changeDirectory target
  | mkdir =>
      cases args with
      | nil => exact h
      | cons target rest =>
          have mem : target ∈ target :: rest := List.mem_cons_self
          exact h.edits (created_edits s _ _ _ fun s' => makeDirectory_edits s s' mem)
  | touch =>
      cases args with
      | nil => exact h
      | cons target rest =>
          have mem : target ∈ target :: rest := List.mem_cons_self
          exact h.edits (created_edits s _ _ _ fun s' => touch_edits s s' mem)
  | rm => exact h.edits (remove_edits s args)
  | su => cases args <;> exact h.switchUser _
  | exit =>
      have left : (s.use now .exit args piped).2 = s.restoreUser.2 := s.leaveUser_session
      rw [left]
      exact h.restoreUser

end PocketShell.Session
