import PocketShell.Proofs.Checkpoint.RoundTrip
import PocketShell.Proofs.Session.Saveable
import PocketShell.Proofs.Shell.Execute

/-!
A session that is begun anew on the store of another one goes on where that one stopped, once its
last line has reached the checkpoint. All that can come in between is that the working directory
is gone by then: removed, or never there, as a home directory may be. Such a checkpoint is not
taken up, and the new session begins like the first.
-/

namespace PocketShell.Shell

variable {σ : Type} [KeyValueStore σ] (working : WorkingStore σ)

/-- A session with the built-in commands that can be saved, checkpoints under `stem`, and a store
at work. -/
structure Sound (stem : Text) (sh : Shell σ) : Prop where
  saveable : sh.session.Saveable
  builtins : sh.session.registry = Registry.builtins
  keeps : sh.session.stem = some stem
  ready : working.Ready sh.machine.store

variable {working} {stem : Text} {sh : Shell σ}

theorem Sound.withSession (h : Sound working stem sh) {s : Session} (saveable : s.Saveable)
    (registry : s.registry = sh.session.registry) (kept : s.stem = sh.session.stem) :
    Sound working stem (sh.withSession s) :=
  ⟨saveable, registry.trans h.builtins, kept.trans h.keeps, h.ready⟩

theorem Sound.remembering (h : Sound working stem sh) (line : Text) :
    Sound working stem (sh.remembering line) :=
  h.withSession (Session.saveable_remember h.saveable line) rfl rfl

theorem Sound.ran (h : Sound working stem sh) {args : List Text}
    (args_ne : ∀ arg ∈ args, arg ≠ []) {after : Shell σ} (ran : Ran args sh after) :
    Sound working stem after := by
  cases ran with
  | tool s steps =>
      obtain ⟨registry, kept, _⟩ := Session.steps_frame steps
      exact h.withSession (steps.keep (Session.saveable_step args_ne) h.saveable) registry kept
  | edit file =>
      have s := h.saveable
      exact ⟨⟨s.root_named, s.user_ne, s.path_ne, s.home_ne, s.stack⟩, h.builtins, h.keeps, h.ready⟩

/-- A checkpoint leaves the session alone and its state in the store. -/
theorem checkpoint_eq (kept : sh.session.stem = some stem) :
    sh.checkpoint.session = sh.session ∧
      sh.checkpoint.machine.store =
        (Checkpoint.save stem sh.session.savedState sh.machine.store).1 := by
  have kept' : sh.machine.session.stem = some stem := kept
  simp [checkpoint, onMachine, Machine.checkpoint, Machine.checkpointOf, kept', Machine.note,
    session]

theorem Sound.checkpoint (h : Sound working stem sh) : Sound working stem sh.checkpoint := by
  obtain ⟨same, store⟩ := checkpoint_eq h.keeps
  have ready := (Checkpoint.save_working working stem sh.session.savedState _ h.ready).1
  refine ⟨?_, ?_, ?_, ?_⟩
  · rw [same]
    exact h.saveable
  · rw [same]
    exact h.builtins
  · rw [same]
    exact h.keeps
  · rw [store]
    exact ready

theorem message_ne_nil (fault : WriteFault) (file : Text) : fault.message file ≠ [] := by
  unfold WriteFault.message
  simp only [ne_eq, List.append_eq_nil_iff]
  rintro ⟨⟨⟨bash, _⟩, _⟩, _⟩
  simp at bash

/-- An output is delivered with a checkpoint, or a redirect is refused and says why. -/
theorem Sound.deliver (h : Sound working stem sh) (output : Text) (redirect : Option Redirect) :
    Sound working stem (sh.deliver output redirect).2 ∧
      ((redirect.isSome → (sh.deliver output redirect).1 = []) →
        ∃ done, Sound working stem done ∧ (sh.deliver output redirect).2 = done.checkpoint) := by
  cases redirect with
  | none => exact ⟨h.checkpoint, fun _ => ⟨sh, h, rfl⟩⟩
  | some redirect =>
      simp only [Shell.deliver]
      split
      · next fault refused =>
        refine ⟨h, fun silent => ?_⟩
        exact absurd (silent rfl) (message_ne_nil fault redirect.target)
      · next s written =>
        have same := Session.write_frame written
        have done := h.withSession (Session.saveable_write h.saveable written) same.1 same.2
        exact ⟨done.checkpoint, fun _ => ⟨_, done, rfl⟩⟩

/-- Whether a line comes to its checkpoint: it is not blank, its command is known, and if its
output goes to a redirect, nothing is said. -/
def ReachesCheckpoint (sh : Shell σ) (line : Text) : Prop :=
  line.all isBlank = false ∧ (sh.session.registry.get? (commandName line)).isSome ∧
    ((Stages.ofLine line).redirect.isSome → (sh.execute line).1 = [])

theorem Sound.execute (h : Sound working stem sh) (line : Text) :
    Sound working stem (sh.execute line).2 ∧
      (sh.ReachesCheckpoint line →
        ∃ done, Sound working stem done ∧ (sh.execute line).2 = done.checkpoint) := by
  have outcome := executed sh line h.builtins
  simp only [ReachesCheckpoint]
  rw [h.builtins]
  generalize sh.execute line = result at outcome
  cases outcome with
  | blank blank =>
      refine ⟨h, fun reached => ?_⟩
      simp [reached.1] at blank
  | unknown words unknown =>
      refine ⟨h.remembering line, fun reached => ?_⟩
      simp [unknown] at reached
  | ran output ran words known steps =>
      -- a wildcard turns names of the tree into arguments, so the tree must have no empty ones
      have args_ne : ∀ arg ∈ arguments sh.session line, arg ≠ [] :=
        Session.expandWildcards_ne_nil h.saveable fun arg mem =>
          Session.words_ne_nil _ arg (List.mem_of_mem_tail mem)
      obtain ⟨sound, reached⟩ :=
        ((h.remembering line).ran args_ne steps).deliver output (Stages.ofLine line).redirect
      exact ⟨sound, fun line_reaches => reached line_reaches.2.2⟩

def atMoment (sh : Shell σ) (now : Moment) : Shell σ := sh.onMachine ({ · with clock := now })

/-- Executes lines in turn, each at its moment. -/
def executeAll (sh : Shell σ) (lines : List (Moment × Text)) : Shell σ :=
  lines.foldl (fun sh entry => ((sh.atMoment entry.1).execute entry.2).2) sh

theorem Sound.atMoment (h : Sound working stem sh) (now : Moment) :
    Sound working stem (sh.atMoment now) :=
  ⟨h.saveable, h.builtins, h.keeps, h.ready⟩

theorem Sound.executeAll (h : Sound working stem sh) (lines : List (Moment × Text)) :
    Sound working stem (sh.executeAll lines) := by
  induction lines generalizing sh with
  | nil => exact h
  | cons entry lines ih => exact ih ((h.atMoment entry.1).execute entry.2).1

/-- Options for a session on the default tree that has the built-in commands and keeps its
checkpoints under `stem`. -/
structure Plain (stem : Text) (options : StartOptions) : Prop where
  persists : options.stem = some stem
  tree : options.tree = none
  commands : options.commands = []
  user_ne : options.user ≠ []

theorem saveable_launch {options : StartOptions} (plain : Plain stem options) :
    (Session.launch options none).Saveable := by
  simp only [Session.launch, plain.tree, plain.commands, List.foldl_nil, Option.getD_none,
    Session.start]
  have no_stack : ∀ u ∈ ([] : List UserState), u.Saveable := by simp
  refine ⟨?_, plain.user_ne, by simp, Session.homeFor_ne_nil options.user, no_stack⟩
  simp [Directory.defaultTree, Directory.ofList, Directory.single, Directory.hostnameFile,
    Directory.WellNamed, Node.WellNamed, Directory.get?, Named, plain.user_ne]

/-- Registering the commands of the host leaves a session as it has begun. -/
theorem launch_eq (options : StartOptions) (saved : Option SavedState) :
    ∃ registry : Registry, Session.launch options saved =
      { (match saved with
          | some state => Session.start state.root state.user state.path
          | none =>
              Session.start (options.tree.getD (.defaultTree options.user)) options.user
                ("/home/" ++ options.user)) with
        stem := options.stem, registry := registry } := by
  have registered (commands : List (Text × HostCommand)) (s : Session) :
      ∃ registry : Registry, commands.foldl
        (fun s entry => s.register entry.1 { handler := .job (.host entry.2) }) s =
        { s with registry := registry } := by
    induction commands generalizing s with
    | nil => exact ⟨s.registry, rfl⟩
    | cons entry commands ih => exact ih (s.register entry.1 _)
  exact registered options.commands _

theorem launch_savedState (options : StartOptions) (saved : SavedState) :
    (Session.launch options (some saved)).savedState = saved := by
  obtain ⟨registry, launched⟩ := launch_eq options (some saved)
  rw [launched]
  rfl

/-- The shell that begins with what a look for a checkpoint has given. -/
def begun (options : StartOptions) (saved : Option SavedState) (store : σ) (clock : Moment)
    (log : List LogEntry) (desk : Desk) : Shell σ :=
  { machine := { session := .launch options saved, store := store, clock := clock, log := log },
    desk := desk }

theorem start_of_load {options : StartOptions} (persists : options.stem = some stem) {store : σ}
    {saved : Option SavedState} (found : (Checkpoint.load stem store).1 = .ok saved)
    (clock : Moment) (desk : Desk) :
    Shell.start options store clock desk =
      .ok (begun options saved (Checkpoint.load stem store).2.1 clock
        (Checkpoint.load stem store).2.2 desk) := by
  have looked : Machine.lookUp options store = Checkpoint.load stem store := by
    simp [Machine.lookUp, persists]
  cases loaded : Checkpoint.load stem store with
  | mk outcome rest =>
      rw [loaded] at found looked
      cases found
      simp [Shell.start, looked, begun]

/-- Without a checkpoint to take up, a session begins as its options say. -/
theorem start_of_fresh {options : StartOptions} {store : σ}
    (fresh : (Machine.lookUp options store).1 = .ok none) (clock : Moment) (desk : Desk) :
    ∃ first, Shell.start options store clock desk = .ok first ∧
      first.session = Session.launch options none ∧ first.machine.former = [] := by
  cases looked : Machine.lookUp options store with
  | mk outcome rest =>
      rw [looked] at fresh
      cases fresh
      refine ⟨begun options none rest.1 clock rest.2 desk, ?_, rfl, rfl⟩
      simp [Shell.start, looked, begun]

variable (working) in
theorem sound_begun {options : StartOptions} (plain : Plain stem options) {store : σ}
    (clock : Moment) (log : List LogEntry) (desk : Desk) (ready : working.Ready store) :
    Sound working stem (begun options none store clock log desk) := by
  refine ⟨saveable_launch plain, ?_, ?_, ready⟩
  · simp [begun, session, Session.launch, plain.commands, Session.start]
  · simp [begun, session, Session.launch, plain.commands, plain.persists]

/-- A session that begins on a checkpoint takes it up if its path leads to a node. -/
theorem start_on_checkpoint (h : Sound working stem sh) (again : StartOptions)
    (same_stem : again.stem = some stem) (clock : Moment) (desk : Desk) :
    ∃ second, Shell.start again sh.checkpoint.machine.store clock desk = .ok second ∧
      second.session = Session.launch again
        (if (sh.session.nodeAt sh.session.path).isSome then some sh.session.savedState
          else none) := by
  have saved := (checkpoint_eq h.keeps).2
  have found := Checkpoint.load_save working stem sh.session.savedState _ h.ready
    h.saveable.distinct h.saveable.user_ne h.saveable.path_ne
  rw [← saved] at found
  exact ⟨_, start_of_load same_stem found clock desk, rfl⟩

variable (working) in
/-- A line that reaches its checkpoint leaves a session that another one on the same store takes
up with the same tree, user and path, as long as the path leads to a node of the tree; if it leads
nowhere, the other session begins with what it was given. -/
theorem restart_goes_on {options again : StartOptions} (plain : Plain stem options)
    (same_stem : again.stem = some stem) {store : σ} (ready : working.Ready store)
    (empty : (Checkpoint.load stem store).1 = .ok none) (clock : Moment) (desk : Desk) :
    ∃ first, Shell.start options store clock desk = .ok first ∧
      ∀ (lines : List (Moment × Text)) (now : Moment) (line : Text),
        let before := (first.executeAll lines).atMoment now
        let last := (before.execute line).2
        before.ReachesCheckpoint line → ∀ (later : Moment) (desk' : Desk),
          ∃ second, Shell.start again last.machine.store later desk' = .ok second ∧
            ((last.session.nodeAt last.session.path).isSome →
              second.session.root = last.session.root ∧ second.session.user = last.session.user ∧
                second.session.path = last.session.path) ∧
            (last.session.nodeAt last.session.path = none →
              second.session = Session.launch again none) := by
  have started := start_of_load plain.persists empty clock desk
  have sound := sound_begun working plain clock (Checkpoint.load stem store).2.2 desk
    (Checkpoint.load_working working stem store ready).2.1
  refine ⟨_, started, ?_⟩
  intro lines now line before last reached later desk'
  obtain ⟨done, kept, ended⟩ := (((sound.executeAll lines).atMoment now).execute line).2 reached
  obtain ⟨second, again_started, taken⟩ := start_on_checkpoint kept again same_stem later desk'
  -- the shell that the line leaves is the checkpointed one, and its session the one that was saved
  have last_eq : last = done.checkpoint := ended
  have same : last.session = done.session := by
    rw [last_eq]
    exact (checkpoint_eq kept.keeps).1
  rw [same, last_eq]
  refine ⟨second, again_started, fun walks => ?_, fun gone => ?_⟩
  · rw [if_pos walks] at taken
    have state := launch_savedState again done.session.savedState
    rw [← taken] at state
    exact ⟨congrArg SavedState.root state, congrArg SavedState.user state,
      congrArg SavedState.path state⟩
  · rw [taken, gone]
    rfl

instance (sh : Shell σ) (line : Text) : Decidable (sh.ReachesCheckpoint line) := by
  simp only [ReachesCheckpoint]
  infer_instance

def guestOptions : StartOptions := { user := "guest", stem := some "unixshell" }

theorem guestOptions_plain : Plain "unixshell" guestOptions := ⟨rfl, rfl, rfl, by decide +kernel⟩

/-- The first shell of a guest, on a store that is empty. -/
def guestShell : Shell MemoryStore := begun guestOptions none {} default [] {}

theorem guest_goes_on :
    let before := (guestShell.executeAll [(default, "mkdir work"), (default, "cd work")]).atMoment
      default
    let last := (before.execute "echo draft > plan.txt").2
    Plain "unixshell" guestOptions ∧
      (Checkpoint.load "unixshell" ({} : MemoryStore)).1 = .ok none ∧
      before.ReachesCheckpoint "echo draft > plan.txt" ∧
      (last.session.nodeAt last.session.path).isSome ∧
      ∃ second, Shell.start guestOptions last.machine.store default {} = .ok second ∧
        second.session.root = last.session.root ∧ second.session.user = last.session.user ∧
        second.session.path = last.session.path := by
  intro before last
  have empty : (Checkpoint.load "unixshell" ({} : MemoryStore)).1 = .ok none := rfl
  have reached : before.ReachesCheckpoint "echo draft > plan.txt" := by decide +kernel
  have walks : (last.session.nodeAt last.session.path).isSome := by decide +kernel
  obtain ⟨first, started, goes_on⟩ := restart_goes_on MemoryStore.working
    guestOptions_plain guestOptions_plain.persists trivial empty default {}
  cases Except.ok.inj (started.symm.trans rfl : Except.ok first = .ok guestShell)
  obtain ⟨second, again, same, _⟩ := goes_on _ _ _ reached default {}
  exact ⟨guestOptions_plain, empty, reached, walks, second, again, same walks⟩

/-- Without its working directory a tree is lost: root removes the home of the guest, where the
session still is, and the next session begins with a new home. -/
theorem removed_home_is_lost :
    let before := (guestShell.executeAll [(default, "su")]).atMoment default
    let last := (before.execute "rm -r /home/guest").2
    Plain "unixshell" guestOptions ∧ Path.LegalSegment guestOptions.user ∧
      Shell.start guestOptions ({} : MemoryStore) default {} = .ok guestShell ∧
      before.ReachesCheckpoint "rm -r /home/guest" ∧
      ∃ second, Shell.start guestOptions last.machine.store default {} = .ok second ∧
        second.session.root ≠ last.session.root ∧ second.session.user ≠ last.session.user := by
  intro before last
  have reached : before.ReachesCheckpoint "rm -r /home/guest" := by decide +kernel
  have gone : last.session.nodeAt last.session.path = none := by decide +kernel
  have other : (Session.launch guestOptions none).root ≠ last.session.root ∧
      (Session.launch guestOptions none).user ≠ last.session.user := by decide +kernel
  have sound : Sound MemoryStore.working "unixshell" guestShell :=
    sound_begun MemoryStore.working guestOptions_plain default [] {} trivial
  obtain ⟨done, kept, ended⟩ :=
    (((sound.executeAll [(default, "su")]).atMoment default).execute "rm -r /home/guest").2 reached
  have last_eq : last = done.checkpoint := ended
  obtain ⟨second, again, taken⟩ := start_on_checkpoint kept guestOptions rfl default {}
  have same : last.session = done.session := by
    rw [last_eq]
    exact (checkpoint_eq kept.keeps).1
  rw [same] at gone
  rw [gone] at taken
  refine ⟨guestOptions_plain, by decide +kernel, rfl, reached, second, ?_, ?_, ?_⟩
  · rw [last_eq]
    exact again
  · rw [taken]
    exact other.1
  · rw [taken]
    exact other.2

end PocketShell.Shell
