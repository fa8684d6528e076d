import Mathlib.Logic.Relation
import PocketShell.Session.Tools

/-!
What the built-in commands do to a session, taken apart into steps. A command that only looks
takes none, and `rm` takes one for each target that it removes; the other steps are those of `cd`,
of `mkdir` and `touch`, and of `su` and `exit`. Whatever every step keeps, every command keeps. The
steps that change the tree are edits, and a command that takes one takes no other steps. A redirect
writes a file besides.
-/

namespace PocketShell.Session

/-- The steps that a command with the arguments `args` can take. -/
inductive Step (args : List Text) : Session → Session → Prop
  | enter (s : Session) (target : Text) (d : Directory) :
      target ∈ args → s.node? target = some (.dir d) → Step args s (s.moveTo (s.resolve target))
  | goHome (s : Session) : Step args s (s.moveTo s.environment.home)
  | create (s : Session) (target : Text) (place : List Text) (d : Directory) (name : Text)
      (node : Node) :
      target ∈ args → s.newEntry target = .ok (place, d, name) → name ≠ [] → d.get? name = none →
      node = .dir .nil ∨ node = .file [] → Step args s (s.change place (·.insert name node))
  | remove (s : Session) (target : Text) (recursive : Bool) (place : List Text) (name : Text) :
      target ∈ args → s.removal recursive target = .allowed place name →
      Step args s (s.change place (·.erase name))
  | switchUser (s : Session) (user : Text) :
      user ∈ rootUser :: args → Step args s (s.switchUser user).2
  | restoreUser (s : Session) : Step args s s.restoreUser.2

/-- Any number of steps. -/
abbrev Steps (args : List Text) : Session → Session → Prop := Relation.ReflTransGen (Step args)

/-- The steps that change the tree, which leave all else alone. -/
inductive Edit (args : List Text) : Session → Session → Prop
  | create (s : Session) (target : Text) (place : List Text) (d : Directory) (name : Text)
      (node : Node) :
      target ∈ args → s.newEntry target = .ok (place, d, name) → name ≠ [] → d.get? name = none →
      node = .dir .nil ∨ node = .file [] → Edit args s (s.change place (·.insert name node))
  | remove (s : Session) (target : Text) (recursive : Bool) (place : List Text) (name : Text) :
      target ∈ args → s.removal recursive target = .allowed place name →
      Edit args s (s.change place (·.erase name))

abbrev Edits (args : List Text) : Session → Session → Prop := Relation.ReflTransGen (Edit args)

theorem Edit.step {args : List Text} {s s' : Session} (h : Edit args s s') : Step args s s' := by
  cases h with
  | create target place d name node mem entry name_ne free kind =>
      exact .create s target place d name node mem entry name_ne free kind
  | remove target recursive place name mem allowed =>
      exact .remove s target recursive place name mem allowed

theorem Edits.steps {args : List Text} {s s' : Session} (h : Edits args s s') : Steps args s s' :=
  Relation.ReflTransGen.mono (fun _ _ edit => Edit.step edit) s s' h

theorem Step.mono {args more : List Text} {s s' : Session} (h : Step args s s')
    (sub : ∀ arg ∈ args, arg ∈ more) : Step more s s' := by
  cases h with
  | enter target d mem found => exact .enter s target d (sub target mem) found
  | goHome => exact .goHome s
  | create target place d name node mem entry name_ne free kind =>
      exact .create s target place d name node (sub target mem) entry name_ne free kind
  | remove target recursive place name mem allowed =>
      exact .remove s target recursive place name (sub target mem) allowed
  | switchUser user mem =>
      refine .switchUser s user ?_
      rcases List.mem_cons.mp mem with same | mem
      · exact List.mem_cons.mpr (.inl same)
      · exact List.mem_cons.mpr (.inr (sub user mem))
  | restoreUser => exact .restoreUser s

theorem Steps.mono {args more : List Text} {s s' : Session} (h : Steps args s s')
    (sub : ∀ arg ∈ args, arg ∈ more) : Steps more s s' :=
  Relation.ReflTransGen.mono (fun _ _ step => Step.mono step sub) s s' h

/-- What every step keeps, any number of them keeps. -/
theorem Steps.keep {args : List Text} {s s' : Session} {p : Session → Prop} (h : Steps args s s')
    (step_keeps : ∀ {s s' : Session}, Step args s s' → p s → p s') (hs : p s) : p s' := by
  induction h with
  | refl => exact hs
  | tail _ step ih => exact step_keeps step ih

section Tools

variable {args : List Text} {target : Text}

/-- A creation is refused, or it adds one entry, or it is a `touch` that finds one there. -/
theorem created_edits (s : Session) (tool action : Text) (result : Except CreateFault Session)
    (made : ∀ s', result = .ok s' → Edits args s s') :
    Edits args s (s.created tool action target result).2 := by
  cases result with
  | error fault => exact .refl
  | ok s' => exact made s' rfl

theorem makeDirectory_edits (s s' : Session) (mem : target ∈ args)
    (h : s.makeDirectory target = .ok s') : Edits args s s' := by
  simp only [makeDirectory] at h
  split at h
  · cases h
  · next place d name entry =>
    split at h
    · cases h
    · next free =>
      cases h
      simp only [Bool.or_eq_true, List.isEmpty_iff, not_or, Directory.contains,
        Option.not_isSome_iff_eq_none] at free
      exact .single (.create s target place d name _ mem entry free.1 free.2 (.inl rfl))

theorem touch_edits (s s' : Session) (mem : target ∈ args) (h : s.touch target = .ok s') :
    Edits args s s' := by
  simp only [touch] at h
  split at h
  · cases h
  · next place d name entry =>
    split at h
    · cases h
      exact .refl
    · next free =>
      cases h
      simp only [Bool.or_eq_true, List.isEmpty_iff, not_or, Directory.contains,
        Option.not_isSome_iff_eq_none] at free
      exact .single (.create s target place d name _ mem entry free.1 free.2 (.inr rfl))

theorem removeOne_edits (options : RemoveOptions) (run : RemoveRun) (mem : target ∈ args) :
    Edits args run.session (removeOne options run target).session := by
  simp only [removeOne]
  split
  · exact .refl
  · split <;> exact .refl
  · split <;> exact .refl
  · next place name allowed => exact .single (.remove _ target _ place name mem allowed)

theorem removeAll_edits (options : RemoveOptions) (run : RemoveRun) (targets : List Text)
    (sub : ∀ target ∈ targets, target ∈ args) :
    Edits args run.session (targets.foldl (removeOne options) run).session := by
  induction targets generalizing run with
  | nil => exact .refl
  | cons target targets ih =>
      have first := removeOne_edits options run (sub target List.mem_cons_self)
      have rest := ih (removeOne options run target) fun other mem =>
        sub other (List.mem_cons_of_mem target mem)
      exact first.trans rest

theorem mem_of_splitFlags (args : List Text) :
    ∀ target ∈ (splitFlags args).2, target ∈ args := by
  intro target mem
  exact (List.mem_filter.mp mem).1

theorem remove_edits (s : Session) (args : List Text) : Edits args s (s.remove args).2 := by
  have sub := mem_of_splitFlags args
  simp only [remove]
  generalize splitFlags args = parts at sub ⊢
  obtain ⟨flags, targets⟩ := parts
  cases targets with
  | nil => exact .refl
  | cons target targets => exact removeAll_edits _ { session := s } _ sub

/-- A command edits the tree, or it takes one step that leaves the tree alone. -/
def Effect (args : List Text) (s after : Session) : Prop :=
  Edits args s after ∨ (Step args s after ∧ after.root = s.root)

theorem changeDirectory_effect (s : Session) (mem : target ∈ args) :
    Effect args s (s.changeDirectory target).2 := by
  simp only [changeDirectory]
  split
  · exact .inl .refl
  · exact .inl .refl
  · next d found => exact .inr ⟨.enter s target d mem found, rfl⟩

/-- What `exit` says depends on the stack, what it does is the same step either way. -/
theorem leaveUser_session (s : Session) : s.leaveUser.2 = s.restoreUser.2 := by
  simp only [leaveUser, restoreUser]
  cases s.userStack <;> rfl

theorem restoreUser_root (s : Session) : s.restoreUser.2.root = s.root := by
  simp only [restoreUser]
  split <;> rfl

theorem leaveUser_effect (s : Session) : Effect args s s.leaveUser.2 := by
  rw [leaveUser_session]
  exact .inr ⟨.restoreUser s, restoreUser_root s⟩

end Tools

theorem use_effect (s : Session) (now : Moment) (tool : Tool) (args : List Text) (piped : Bool) :
    Effect args s (s.use now tool args piped).2 := by
  cases tool with
  | help | cat => cases args <;> exact .inl .refl
  | clear | echo | whoami | date | uname | env | history | ps | ls | pwd | tree =>
      exact .inl .refl
  | cd =>
      cases args with
      | nil => exact .inr ⟨.goHome s, rfl⟩
      | cons target rest => exact changeDirectory_effect s List.mem_cons_self
  | mkdir =>
      cases args with
      | nil => exact .inl .refl
      | cons target rest =>
          exact .inl (created_edits s _ _ _ fun s' => makeDirectory_edits s s' List.mem_cons_self)
  | touch =>
      cases args with
      | nil => exact .inl .refl
      | cons target rest =>
          exact .inl (created_edits s _ _ _ fun s' => touch_edits s s' List.mem_cons_self)
  | rm => exact .inl (remove_edits s args)
  | su =>
      cases args with
      | nil => exact .inr ⟨.switchUser s rootUser List.mem_cons_self, rfl⟩
      | cons user rest =>
          exact .inr ⟨.switchUser s user (List.mem_cons_of_mem _ List.mem_cons_self), rfl⟩
  | exit => exact leaveUser_effect s

/-- A command takes steps that its arguments allow. -/
theorem use_steps (s : Session) (now : Moment) (tool : Tool) (args : List Text) (piped : Bool) :
    Steps args s (s.use now tool args piped).2 := by
  rcases use_effect s now tool args piped with edits | ⟨step, _⟩
  · exact edits.steps
  · exact .single step

/-- Steps leave alone what belongs to the shell around the session. -/
theorem step_frame {args : List Text} {s s' : Session} (h : Step args s s') :
    s'.registry = s.registry ∧ s'.stem = s.stem ∧ s'.editor = s.editor ∧
      s'.history = s.history := by
  cases h with
  | restoreUser =>
      simp only [restoreUser]
      split <;> exact ⟨rfl, rfl, rfl, rfl⟩
  | enter | goHome | create | remove | switchUser => exact ⟨rfl, rfl, rfl, rfl⟩

theorem steps_frame {args : List Text} {s s' : Session} (h : Steps args s s') :
    s'.registry = s.registry ∧ s'.stem = s.stem ∧ s'.editor = s.editor ∧
      s'.history = s.history := by
  induction h with
  | refl => exact ⟨rfl, rfl, rfl, rfl⟩
  | tail _ step ih =>
      obtain ⟨registry, stem, editor, history⟩ := step_frame step
      exact ⟨registry.trans ih.1, stem.trans ih.2.1, editor.trans ih.2.2.1, history.trans ih.2.2.2⟩

/-- A write that succeeds puts a file in a directory that is there, and not in place of another
directory. -/
theorem write_change {s s' : Session} {file content : Text} {mode : WriteMode}
    (h : s.write file content mode = .ok s') :
    ∃ parent name d, Path.parentAndName (s.resolve file) = (parent, name) ∧ name ≠ [] ∧
      s.root.directoryAt (Path.segments parent) = .ok d ∧
      (∀ sub, d.get? name ≠ some (.dir sub)) ∧
      s' = s.change (Path.segments parent)
        (·.insert name (written (d.get? name) content mode)) := by
  simp only [write] at h
  cases target : Path.parentAndName (s.resolve file) with
  | mk parent name =>
      simp only [target] at h
      split at h
      · cases h
      · next named =>
        split at h
        · cases h
        · next d there =>
          split at h
          · cases h
          · next no_dir =>
            cases h
            exact ⟨parent, name, d, rfl, by simpa using named, there, no_dir, rfl⟩

theorem write_frame {s s' : Session} {file content : Text} {mode : WriteMode}
    (h : s.write file content mode = .ok s') :
    s'.registry = s.registry ∧ s'.stem = s.stem := by
  obtain ⟨_, _, _, _, _, _, _, rfl⟩ := write_change h
  exact ⟨rfl, rfl⟩

end PocketShell.Session
