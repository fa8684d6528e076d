import PocketShell.Proofs.FileTree.WellNamed
import PocketShell.Proofs.Session.Step

/-!
Sessions that a checkpoint can hold: no directory has a name twice, and neither the user nor the
path is empty. For the user to stay so the names in the tree must not be empty either, because a
wildcard may make a name an argument of `su`; and for the path, the home directories.
-/

namespace PocketShell

/-- Names by which an entry can be reached. -/
def Named (name : Text) : Prop := name ≠ []

structure UserState.Saveable (u : UserState) : Prop where
  user_ne : u.user ≠ []
  home_ne : u.home ≠ []
  path_ne : u.path ≠ []

namespace Session

structure Saveable (s : Session) : Prop where
  root_named : s.root.WellNamed Named
  user_ne : s.user ≠ []
  path_ne : s.path ≠ []
  home_ne : s.environment.home ≠ []
  stack : ∀ u ∈ s.userStack, u.Saveable

theorem Saveable.distinct {s : Session} (h : s.Saveable) : s.root.Distinct :=
  Directory.wellNamed_mono (fun _ _ => trivial) s.root h.root_named

theorem resolve_ne_nil (s : Session) (path : Text) : s.resolve path ≠ [] := List.cons_ne_nil _ _

theorem homeFor_ne_nil (user : Text) : homeFor user ≠ [] := by
  simp only [homeFor]
  split <;> simp

theorem saveable_insert {s : Session} (h : s.Saveable) (place : List Text) {name : Text}
    {node : Node} (named : Named name) (node_named : node.WellNamed Named) :
    (s.change place (·.insert name node)).Saveable :=
  { h with
    root_named := Directory.wellNamed_modify _
      (fun d hd => Directory.wellNamed_insert d name node hd named node_named) s.root place
      h.root_named }

theorem saveable_moveTo {s : Session} (h : s.Saveable) {path : Text} (path_ne : path ≠ []) :
    (s.moveTo path).Saveable :=
  ⟨h.root_named, h.user_ne, path_ne, h.home_ne, h.stack⟩

theorem saveable_remember {s : Session} (h : s.Saveable) (line : Text) :
    (s.remember line).Saveable :=
  ⟨h.root_named, h.user_ne, h.path_ne, h.home_ne, h.stack⟩

theorem written_isFile (existing : Option Node) (content : Text) (mode : WriteMode) :
    ∃ text, written existing content mode = .file text := by
  simp only [written]
  split
  · exact ⟨_, rfl⟩
  · exact ⟨_, rfl⟩

theorem saveable_write {s s' : Session} {file content : Text} {mode : WriteMode} (hs : s.Saveable)
    (h : s.write file content mode = .ok s') : s'.Saveable := by
  obtain ⟨parent, name, d, _, named, _, _, rfl⟩ := write_change h
  obtain ⟨text, file⟩ := written_isFile (d.get? name) content mode
  exact saveable_insert hs (Path.segments parent) named (file ▸ trivial)

theorem saveable_step {args : List Text} (args_ne : ∀ arg ∈ args, arg ≠ []) {s s' : Session}
    (step : Step args s s') (h : s.Saveable) : s'.Saveable := by
  cases step with
  | enter target d mem found => exact saveable_moveTo h (s.resolve_ne_nil target)
  | goHome => exact saveable_moveTo h h.home_ne
  | create target place d name node mem entry name_ne free kind =>
      refine saveable_insert h place name_ne ?_
      rcases kind with rfl | rfl <;> trivial
  | remove target recursive place name mem allowed =>
      exact
        { h with
          root_named := Directory.wellNamed_modify _
            (fun d hd => Directory.wellNamed_erase d name hd) s.root place h.root_named }
  | switchUser user mem =>
      have user_ne : user ≠ [] := by
        rcases List.mem_cons.mp mem with rfl | mem
        · decide
        · exact args_ne user mem
      refine ⟨h.root_named, user_ne, h.path_ne, homeFor_ne_nil user, ?_⟩
      intro u mem
      rcases List.mem_cons.mp mem with rfl | mem
      · exact ⟨h.user_ne, h.home_ne, h.path_ne⟩
      · exact h.stack u mem
  | restoreUser =>
      simp only [restoreUser]
      split
      · exact h
      · next previous stack left =>
        have top := h.stack previous (left ▸ List.mem_cons_self)
        exact ⟨h.root_named, top.user_ne, top.path_ne, top.home_ne, fun u mem =>
          h.stack u (left ▸ List.mem_cons_of_mem _ mem)⟩

theorem words_ne_nil (text : Text) : ∀ word ∈ Text.words text, word ≠ [] := by
  intro word mem
  simpa using (List.mem_filter.mp mem).2

theorem mem_expand {arguments names : List Text} {arg : Text}
    (h : arg ∈ Wildcard.expand arguments names) : arg ∈ arguments ∨ arg ∈ names := by
  obtain ⟨argument, mem, found⟩ := List.mem_flatMap.mp h
  simp only [Wildcard.expandOne] at found
  split at found
  · split at found
    · exact .inl (List.mem_singleton.mp found ▸ mem)
    · exact .inr (List.mem_filter.mp found).1
  · exact .inl (List.mem_singleton.mp found ▸ mem)

theorem expandWildcards_ne_nil {s : Session} (h : s.Saveable) {args : List Text}
    (args_ne : ∀ arg ∈ args, arg ≠ []) : ∀ arg ∈ s.expandWildcards args, arg ≠ [] := by
  intro arg mem
  simp only [expandWildcards] at mem
  split at mem
  · next d here =>
    have named : d.WellNamed Named :=
      Node.wellNamed_walk (.dir s.root) (.dir d) (Path.segments s.path) h.root_named here
    rcases mem_expand mem with mem | mem
    · exact args_ne arg mem
    · exact d.wellNamed_names named arg mem
  · exact args_ne arg mem

end Session
end PocketShell
