import PocketShell.Proofs.Shell.Restart

/-!
Whether the checkpoint is that of the session. A line of a built-in command saves what it leaves,
whatever was saved before, but there are two ways out before the save: a redirect that is refused,
and a host command behind `sudo` that fails. The command has run by then. So after `cd` or `rm` with
a redirect that is refused, the checkpoint is that of an earlier moment: what was removed is there
again in the next session.
-/

namespace PocketShell.Shell

variable {σ : Type}

/-- A built-in command can fail only where it stands for one of the host. -/
theorem run_failed {nested : Shell σ → Text → Result σ} {sh : Shell σ} {invocation : Invocation}
    {handler : Handler} (own : handler.isHost = false) {text : Text} {after : Shell σ}
    (failed : run nested sh invocation handler = (.error text, after)) :
    handler = .sudo ∧ ∃ command name args,
      sh.session.registry.behindSudo invocation.args = .inr (.host command, name, args) := by
  match handler, own with
  | .job (.tool tool), _ => cases failed
  | .job .edit, _ => cases failed
  | .sudo, _ =>
      simp only [run] at failed
      split at failed
      · cases failed
      · next job name args found =>
        cases job with
        | tool tool => cases failed
        | edit => cases failed
        | host command => exact ⟨rfl, command, name, args, found⟩

theorem run_store (nested : Shell σ → Text → Result σ) (sh : Shell σ) (invocation : Invocation)
    {handler : Handler} (own : handler.isHost = false) (direct : handler ≠ .sudo) :
    (run nested sh invocation handler).2.machine.store = sh.machine.store := by
  match handler, own with
  | .job (.tool tool), _ => rfl
  | .job .edit, _ => rfl
  | .sudo, _ => exact absurd rfl direct

variable [KeyValueStore σ] (working : WorkingStore σ) (stem : Text)

/-- Checkpoints are kept under `stem`, in a store at work. -/
structure Keeps (sh : Shell σ) : Prop where
  stem_eq : sh.session.stem = some stem
  ready : working.Ready sh.machine.store

/-- The three texts of the checkpoint are those of the tree, the user and the path of the session.
-/
structure UpToDate (sh : Shell σ) : Prop where
  tree : working.holds sh.machine.store (Checkpoint.treeKey stem) = some sh.session.root.treeText
  user : working.holds sh.machine.store (Checkpoint.userKey stem) = some sh.session.user
  path : working.holds sh.machine.store (Checkpoint.pathKey stem) = some sh.session.path

variable {working stem} {sh : Shell σ}

theorem Keeps.withSession (h : Keeps working stem sh) {s : Session}
    (same : s.stem = sh.session.stem) : Keeps working stem (sh.withSession s) :=
  ⟨same.trans h.stem_eq, h.ready⟩

theorem Keeps.checkpoint (h : Keeps working stem sh) :
    Keeps working stem sh.checkpoint ∧ UpToDate working stem sh.checkpoint := by
  obtain ⟨same, store⟩ := checkpoint_eq h.stem_eq
  obtain ⟨ready, inside, _⟩ :=
    Checkpoint.save_working working stem sh.session.savedState _ h.ready
  rw [← store] at ready inside
  rw [← same] at inside
  refine ⟨⟨same ▸ h.stem_eq, ready⟩, ?_, ?_, ?_⟩
  · exact inside (Checkpoint.treeKey stem, _) (.head _)
  · exact inside (Checkpoint.userKey stem, _) (.tail _ (.head _))
  · exact inside (Checkpoint.pathKey stem, _) (.tail _ (.tail _ (.head _)))

/-- A command of the host may write a file, and have a line executed. -/
theorem Keeps.runHost {nested : Shell σ → Text → Result σ}
    (nested_keeps : ∀ sh line, Keeps working stem sh → Keeps working stem (nested sh line).2)
    (h : Keeps working stem sh) (invocation : Invocation) (command : HostCommand) :
    Keeps working stem (Shell.runHost nested sh invocation command).2 := by
  match command with
  | .report _ | .text _ | .fail _ => exact h
  | .writeAndFail _ =>
      simp only [Shell.runHost, writePartly]
      split
      · exact h
      · next s written => exact h.withSession (Session.write_frame written).2
  | .alias line => exact nested_keeps _ _ h

theorem Keeps.runJob {nested : Shell σ → Text → Result σ}
    (nested_keeps : ∀ sh line, Keeps working stem sh → Keeps working stem (nested sh line).2)
    (h : Keeps working stem sh) (invocation : Invocation) (job : Job) :
    Keeps working stem (Shell.runJob nested sh invocation job).2 := by
  cases job with
  | tool tool =>
      have steps := sh.session.use_steps sh.machine.clock tool invocation.args invocation.piped
      exact h.withSession (Session.steps_frame steps).2.1
  | edit => exact ⟨h.stem_eq, h.ready⟩
  | host command => exact h.runHost nested_keeps invocation command

theorem Keeps.run {nested : Shell σ → Text → Result σ}
    (nested_keeps : ∀ sh line, Keeps working stem sh → Keeps working stem (nested sh line).2)
    (h : Keeps working stem sh) (invocation : Invocation) (handler : Handler) :
    Keeps working stem (Shell.run nested sh invocation handler).2 := by
  match handler with
  | .job job => exact h.runJob nested_keeps invocation job
  | .sudo =>
      simp only [Shell.run]
      split
      · exact h
      · exact h.runJob nested_keeps _ _

/-- An output is delivered with a checkpoint of what it leaves, or its redirect is refused. -/
theorem Keeps.deliver (h : Keeps working stem sh) (output : Text) (redirect : Option Redirect) :
    Keeps working stem (sh.deliver output redirect).2 ∧
      (UpToDate working stem (sh.deliver output redirect).2 ∨
        ∃ r ∈ redirect, ∃ fault, sh.session.write r.target output r.mode = .error fault ∧
          sh.deliver output redirect = (fault.message r.target, sh)) := by
  cases redirect with
  | none => exact ⟨h.checkpoint.1, .inl h.checkpoint.2⟩
  | some redirect =>
      simp only [Shell.deliver]
      split
      · next fault refused => exact ⟨h, .inr ⟨redirect, rfl, fault, refused, rfl⟩⟩
      · next s written =>
        have done := h.withSession (Session.write_frame written).2
        exact ⟨done.checkpoint.1, .inl done.checkpoint.2⟩

theorem Keeps.executeWith {nested : Shell σ → Text → Result σ}
    (nested_keeps : ∀ sh line, Keeps working stem sh → Keeps working stem (nested sh line).2)
    (h : Keeps working stem sh) (line : Text) :
    Keeps working stem (Shell.executeWith nested sh line).2 := by
  have remembers : Keeps working stem (sh.remembering line) := h.withSession rfl
  rcases executeWith_cases nested sh line with
    ⟨_, result⟩ | ⟨_, _, result⟩ | ⟨_, command, _, result⟩
  · rw [result]
    exact h
  · rw [result]
    exact remembers
  · have ran := remembers.run nested_keeps (invocation sh.session line) command.handler
    rw [result]
    split
    · next text after failed =>
      rw [failed] at ran
      exact ⟨ran.stem_eq, ran.ready⟩
    · next output after finished =>
      rw [finished] at ran
      exact (ran.deliver _ _).1

/-- Lines nested in each other by the host keep to the same store. -/
theorem Keeps.nestedIn (n : Nat) (sh : Shell σ) (line : Text) (h : Keeps working stem sh) :
    Keeps working stem (Shell.nestedIn n sh line).2 := by
  induction n generalizing sh line with
  | zero => exact h
  | succ n ih =>
      simp only [Shell.nestedIn, executeNested_eq]
      exact h.executeWith ih line

/-- After a line of a built-in command the checkpoint is that of the session, unless the redirect
was refused, which leaves the checkpoint as it was, or a host command behind `sudo` has failed. -/
theorem line_is_saved_or_refused (keeps : Keeps working stem sh) {line : Text} {command : Command}
    (words : line.all isBlank = false)
    (known : sh.session.registry.get? (commandName line) = some command)
    (own : Registry.builtins.get? (commandName line) = some command) :
    let told := (sh.execute line).1
    let last := (sh.execute line).2
    Keeps working stem last ∧
    (UpToDate working stem last ∨
      (∃ r ∈ (Stages.ofLine line).redirect, ∃ output fault,
        last.session.write r.target output r.mode = .error fault ∧
        told = fault.message r.target ∧
        (command.handler ≠ .sudo → last.machine.store = sh.machine.store)) ∨
      (command.handler = .sudo ∧ ∃ host name args text,
        sh.session.registry.behindSudo (arguments sh.session line) =
          .inr (.host host, name, args) ∧
        told = "Error executing " ++ commandName line ++ ": " ++ text)) := by
  intro told last
  have own := Registry.builtins_not_host own
  have remembers : Keeps working stem (sh.remembering line) := keeps.withSession rfl
  have ran := remembers.run (Keeps.nestedIn nestingLimit) (invocation sh.session line)
    command.handler
  have store := run_store (nestedIn nestingLimit) (sh.remembering line)
    (invocation sh.session line) own
  simp only [told, last]
  rw [execute_eq, executeWith_of_known _ sh words known]
  split
  · next text after failed =>
    rw [failed] at ran
    obtain ⟨is_sudo, host, name, args, found⟩ := run_failed own failed
    exact ⟨⟨ran.stem_eq, ran.ready⟩, .inr (.inr ⟨is_sudo, host, name, args, text, found, rfl⟩)⟩
  · next output after finished =>
    rw [finished] at ran store
    obtain ⟨kept, saved | ⟨r, mem, fault, refused, delivered⟩⟩ :=
      ran.deliver (filtered (Stages.ofLine line).filter output) (Stages.ofLine line).redirect
    · exact ⟨kept, .inl saved⟩
    · -- nothing is written after the command has run, neither the file nor the checkpoint
      rw [delivered]
      exact ⟨ran, .inr (.inl ⟨r, mem, _, fault, refused, rfl, store⟩)⟩

theorem guest_is_saved :
    let line : Text := "cd /tmp > moved.txt"
    Keeps MemoryStore.working "unixshell" guestShell ∧ line.all isBlank = false ∧
      (Registry.builtins.get? (commandName line)).isSome ∧
      UpToDate MemoryStore.working "unixshell" (guestShell.execute line).2 := by
  intro line
  have keeps : Keeps MemoryStore.working "unixshell" guestShell := ⟨rfl, trivial⟩
  have words : line.all isBlank = false := by decide +kernel
  have found : (Registry.builtins.get? (commandName line)).isSome := by decide +kernel
  obtain ⟨command, known⟩ := Option.isSome_iff_exists.mp found
  have silent : (guestShell.execute line).1 = [] := by decide +kernel
  have direct : (Registry.builtins.get? (commandName line)).map Command.handler ≠ some .sudo := by
    decide +kernel
  rw [known] at direct
  obtain ⟨_, saved | ⟨r, _, _, fault, _, told, _⟩ | ⟨is_sudo, _⟩⟩ :=
    line_is_saved_or_refused keeps words known known
  · exact ⟨keeps, words, found, saved⟩
  · exact absurd (told.symm.trans silent) (message_ne_nil fault r.target)
  · exact absurd (congrArg some is_sudo) direct

/-- The checkpoint lags: the guest has moved, and the next session begins in the old place. -/
theorem refused_redirect_lags :
    let before := (guestShell.execute "pwd").2
    let line : Text := "cd /tmp > /nope/log"
    let last := (before.execute line).2
    UpToDate MemoryStore.working "unixshell" before ∧ line.all isBlank = false ∧
      before.session.registry.get? (commandName line) =
        Registry.builtins.get? (commandName line) ∧
      (Registry.builtins.get? (commandName line)).isSome ∧
      (before.execute line).1 = ("bash: /nope/log: No such file or directory" : Text) ∧
      last.session.path = ("/tmp" : Text) ∧
      MemoryStore.get last.machine.store (Checkpoint.pathKey "unixshell") =
        some ("/home/guest" : Text) := by
  intro before line last
  have saved : UpToDate MemoryStore.working "unixshell" before :=
    ⟨by decide +kernel, by decide +kernel, by decide +kernel⟩
  exact ⟨saved, by decide +kernel, by decide +kernel, by decide +kernel, by decide +kernel,
    by decide +kernel, by decide +kernel⟩

end PocketShell.Shell
