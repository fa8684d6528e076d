import PocketShell.Proofs.Session.Addressable
import PocketShell.Proofs.Shell.Accounts
import PocketShell.Proofs.Shell.Sessions

/-!
No command leaves a node behind that none can reach. With the built-in commands alone, and from the
default tree, every node has its address at every moment, as long as `cd` without arguments finds a
home directory with a canonical path. The home of a user called `..` has none: from there `.` is a
name like any other, and the entry that it is given cannot be reached again.
-/

namespace PocketShell

/-- Every node can be reached, and no command of the host is there to change that. -/
def Session.Orderly (s : Session) : Prop := s.Addressable ∧ s.registry = Registry.builtins

namespace Session

theorem lasting_orderly : Machine.Lasting Orderly where
  write orderly written := ⟨orderly.1.write written, (write_frame written).1.trans orderly.2⟩
  mark _ orderly := ⟨⟨orderly.1.legal, orderly.1.path, orderly.1.stack⟩, orderly.2⟩

end Session

namespace Shell

variable {σ : Type} {sh : Shell σ}

/-- If a line comes to `cd` without arguments, the home directory has a canonical path. -/
def GoesHomeWell (s : Session) (line : Text) : Prop :=
  ∀ name, jobOf s line = some (.tool .cd, name, []) → Path.Canonical s.environment.home

theorem runJob_orderly (nested : Shell σ → Text → Result σ)
    (each : sh.machine.Each Session.Orderly) (invocation : Invocation) {job : Job}
    (own : (Handler.job job).isHost = false)
    (home : job = .tool .cd → invocation.args = [] → Path.Canonical sh.session.environment.home) :
    (runJob nested sh invocation job).2.machine.Each Session.Orderly := by
  obtain ⟨addressable, builtins⟩ := each.1
  cases job with
  | tool tool =>
      have used := addressable.use sh.machine.clock tool invocation.args invocation.piped
        fun is_cd bare => home (congrArg Job.tool is_cd) bare
      have steps := sh.session.use_steps sh.machine.clock tool invocation.args invocation.piped
      exact ⟨⟨used, (Session.steps_frame steps).1.trans builtins⟩, each.2⟩
  | edit => exact ⟨Session.lasting_orderly.mark _ each.1, each.2⟩
  | host command => cases own

theorem jobOf_of_known {s : Session} {line : Text} {command : Command}
    (words : line.all isBlank = false)
    (known : s.registry.get? (commandName line) = some command) :
    jobOf s line = match command.handler with
      | .job job => some (job, commandName line, arguments s line)
      | .sudo => (s.registry.behindSudo (arguments s line)).getRight? := by
  simp only [jobOf, words, Bool.false_eq_true, if_false, known, Option.map_some]
  cases command.handler <;> rfl

variable [KeyValueStore σ]

theorem each_checkpoint {P : Session → Prop} (each : sh.machine.Each P) :
    sh.checkpoint.machine.Each P :=
  Machine.Each.checkpointOf each sh.machine.session

theorem deliver_orderly (each : sh.machine.Each Session.Orderly) (output : Text)
    (redirect : Option Redirect) :
    (sh.deliver output redirect).2.machine.Each Session.Orderly := by
  cases redirect with
  | none => exact each_checkpoint each
  | some redirect =>
      simp only [deliver]
      split
      · exact each
      · next s written =>
        exact each_checkpoint ⟨Session.lasting_orderly.write each.1 written, each.2⟩

theorem execute_orderly (each : sh.machine.Each Session.Orderly) {line : Text}
    (home : GoesHomeWell sh.session line) :
    (sh.execute line).2.machine.Each Session.Orderly := by
  have remembers : (sh.remembering line).machine.Each Session.Orderly := by
    obtain ⟨⟨addressable, builtins⟩, former⟩ := each
    exact ⟨⟨⟨addressable.legal, addressable.path, addressable.stack⟩, builtins⟩, former⟩
  rw [execute_eq]
  rcases executeWith_cases (nestedIn nestingLimit) sh line with
    ⟨_, result⟩ | ⟨_, _, result⟩ | ⟨words, command, known, result⟩
  · rw [result]
    exact each
  · rw [result]
    exact remembers
  · have builtins : sh.session.registry = Registry.builtins := each.1.2
    have own := Registry.builtins_not_host (builtins ▸ known)
    have job := jobOf_of_known words known
    have ran : (run (nestedIn nestingLimit) (sh.remembering line) (invocation sh.session line)
        command.handler).2.machine.Each Session.Orderly := by
      match handler : command.handler with
      | .job work =>
          rw [handler] at own job
          refine runJob_orderly _ remembers _ own fun is_cd bare => home (commandName line) ?_
          rw [job, is_cd]
          exact congrArg (fun args => some (Job.tool .cd, commandName line, args)) bare
      | .sudo =>
          rw [handler] at job
          simp only [run]
          split
          · exact remembers
          · next work name args found =>
            have found : sh.session.registry.behindSudo (arguments sh.session line) =
                .inr (work, name, args) := found
            obtain ⟨own, _⟩ := Registry.behindSudo_builtins _ (builtins ▸ found)
            refine runJob_orderly _ remembers _ own fun is_cd bare => home name ?_
            rw [job, found, is_cd]
            exact congrArg (fun args => some (Job.tool .cd, name, args)) bare
    obtain ⟨output, after, finished, _⟩ :=
      ran_builtin (nestedIn nestingLimit) (sh.remembering line) (invocation sh.session line)
        builtins own
    rw [finished] at ran
    rw [result, finished]
    exact deliver_orderly ran _ _

/-- Every line that goes home on the way through the events goes home well. -/
def HomesAreCanonical (sh : Shell σ) : List Event → Prop
  | [] => True
  | event :: events =>
      (∀ now line, event = .execute now line → GoesHomeWell sh.session line) ∧
        (sh.handle event).HomesAreCanonical events

theorem handle_orderly (each : sh.machine.Each Session.Orderly) {event : Event}
    (no_command : ∀ name command, event ≠ .register name command)
    (home : ∀ now line, event = .execute now line → GoesHomeWell sh.session line) :
    (sh.handle event).machine.Each Session.Orderly := by
  obtain ⟨addressable, builtins⟩ := each.1
  cases event with
  | execute now line =>
      have timed : (sh.atMoment now).machine.Each Session.Orderly := each
      exact execute_orderly timed (home now line rfl)
  | openEditor file => exact ⟨Session.lasting_orderly.mark _ each.1, each.2⟩
  | press k =>
      rw [handle, press_eq]
      exact each_actAll Session.lasting_orderly each _
  | send k =>
      rw [handle, send_eq]
      exact each_actAll Session.lasting_orderly each _
  | act id event => exact each_actAll Session.lasting_orderly each [(id, event)]
  | write file content mode =>
      simp only [handle]
      split
      · exact each
      · next s written => exact ⟨Session.lasting_orderly.write each.1 written, each.2⟩
  | switchUser user => exact ⟨⟨addressable.switchUser user, builtins⟩, each.2⟩
  | restoreUser =>
      have step : Session.Step [] sh.session sh.session.restoreUser.2 := .restoreUser sh.session
      have registry := (Session.step_frame step).1
      exact ⟨⟨addressable.restoreUser, registry.trans builtins⟩, each.2⟩
  | register name command => exact absurd rfl (no_command name command)
  | save => exact each_checkpoint each
  | clear =>
      simp only [handle, onMachine, Machine.clearCheckpoint]
      split <;> exact each

theorem handleAll_orderly (each : sh.machine.Each Session.Orderly) {events : List Event}
    (no_commands : ∀ name command, .register name command ∉ events)
    (homes : sh.HomesAreCanonical events) :
    (sh.handleAll events).machine.Each Session.Orderly := by
  induction events generalizing sh with
  | nil => exact each
  | cons event events ih =>
      refine ih (handle_orderly each ?_ homes.1) ?_ homes.2
      · rintro name command rfl
        exact no_commands name command List.mem_cons_self
      · exact fun name command mem => no_commands name command (List.mem_cons_of_mem event mem)

theorem legal_defaultTree {user : Text} (legal : Path.LegalSegment user) :
    (Directory.defaultTree user).WellNamed Path.LegalSegment := by
  have files : (Node.dir (.ofList
      [("README.md", .file "# Welcome\n\nThis is a simple Unix shell emulator.\n"),
       ("example.txt", .file "This is an example file.\n")])).WellNamed Path.LegalSegment :=
    ⟨by decide, rfl, trivial, by decide, rfl, trivial, trivial⟩
  have home : (Node.dir (.single user (.dir _))).WellNamed Path.LegalSegment :=
    ⟨legal, rfl, files, trivial⟩
  have etc : (Node.dir (.single "hostname" Directory.hostnameFile)).WellNamed Path.LegalSegment :=
    ⟨by decide, rfl, trivial, trivial⟩
  exact ⟨by decide, rfl, home, by decide, rfl, etc, by decide, rfl, trivial, trivial⟩

theorem orderly_launch {options : StartOptions} (legal : Path.LegalSegment options.user)
    (tree : options.tree = none) (commands : options.commands = []) :
    (Session.launch options none).Orderly := by
  simp only [Session.launch, tree, commands, List.foldl_nil, Option.getD_none, Session.start]
  have nobody : ∀ u ∈ ([] : List UserState), Path.Canonical u.path := by simp
  exact ⟨⟨legal_defaultTree legal, Path.canonical_home legal, nobody⟩, rfl⟩

/-- Begun on the default tree by a user whose name can stand in a path, a session always has a
canonical working directory and legal names in its tree, and the path of every node leads to that
node, whatever lines, keys and calls there were: as long as `cd` without arguments is given a home
directory with a canonical path. -/
theorem every_node_has_its_address {options : StartOptions}
    (legal : Path.LegalSegment options.user) (tree : options.tree = none)
    (commands : options.commands = []) {store : σ}
    (fresh : (Machine.lookUp options store).1 = .ok none) (clock : Moment) (desk : Desk) :
    ∃ first, Shell.start options store clock desk = .ok first ∧
      ∀ events : List Event, (∀ name command, .register name command ∉ events) →
        first.HomesAreCanonical events →
        let s := (first.handleAll events).session
        s.root.WellNamed Path.LegalSegment ∧ Path.Canonical s.path ∧
          ∀ names node, (Node.dir s.root).Leads names node →
            s.placeOf (Path.ofSegments names) = names ∧
              s.node? (Path.ofSegments names) = some node := by
  cases found : Machine.lookUp options store with
  | mk outcome rest =>
      rw [found] at fresh
      cases fresh
      refine ⟨begun options none rest.1 clock rest.2 desk, ?_, ?_⟩
      · simp only [Shell.start, found]
        rfl
      · intro events no_commands homes s
        have each : (begun options none rest.1 clock rest.2 desk).machine.Each Session.Orderly :=
          ⟨orderly_launch legal tree commands, by simp [begun]⟩
        obtain ⟨⟨addressable, _⟩, _⟩ := handleAll_orderly each no_commands homes
        exact ⟨addressable.legal, addressable.path, fun names node leads =>
          addressable.node?_of_leads leads⟩

/-- Alice, who has no home directory, makes one for herself from where the guest was. -/
theorem alice_makes_her_home :
    let events : List Event := [.execute default "su alice", .execute default "mkdir ~",
      .execute default "cd", .execute default "echo x > ../alice/./notes.txt"]
    let s := (guestShell.handleAll events).session
    Path.LegalSegment guestOptions.user ∧ guestOptions.tree = none ∧ guestOptions.commands = [] ∧
      (Machine.lookUp guestOptions ({} : MemoryStore)).1 = .ok none ∧
      Shell.start guestOptions ({} : MemoryStore) default {} = .ok guestShell ∧
      (∀ name command, .register name command ∉ events) ∧ guestShell.HomesAreCanonical events ∧
      s.path = ("/home/alice" : Text) ∧
      s.node? "/home/alice/notes.txt" = some (.file "x") := by
  intro events s
  have legal : Path.LegalSegment guestOptions.user := by decide +kernel
  have fresh : (Machine.lookUp guestOptions ({} : MemoryStore)).1 = .ok none := rfl
  have no_commands : ∀ name command, Event.register name command ∉ events := by simp [events]
  have homes : guestShell.HomesAreCanonical events := by
    have guest : Path.Canonical ("/home/" ++ "guest") := Path.canonical_home (by decide)
    have alice : Path.Canonical ("/home/" ++ "alice") := Path.canonical_home (by decide)
    have turned : (guestShell.handleAll (events.take 1)).session.environment.home =
        "/home/" ++ "alice" := by decide +kernel
    have made : (guestShell.handleAll (events.take 2)).session.environment.home =
        "/home/" ++ "alice" := by decide +kernel
    have moved : (guestShell.handleAll (events.take 3)).session.environment.home =
        "/home/" ++ "alice" := by decide +kernel
    exact ⟨fun _ _ _ _ _ => guest, fun _ _ _ _ _ => turned ▸ alice, fun _ _ _ _ _ => made ▸ alice,
      fun _ _ _ _ _ => moved ▸ alice, trivial⟩
  have path : s.path = ("/home/alice" : Text) := by decide +kernel
  have written : s.root.walk ["home", "alice", "notes.txt"] = some (.file "x") := by
    decide +kernel
  obtain ⟨first, started, addressed⟩ := every_node_has_its_address legal rfl rfl fresh default {}
  cases Except.ok.inj (started.symm.trans rfl : Except.ok first = .ok guestShell)
  obtain ⟨_, _, found⟩ := addressed events no_commands homes
  have leads : (Node.dir s.root).Leads ["home", "alice", "notes.txt"] (.file "x") :=
    Node.leads_of_walk written
  exact ⟨legal, rfl, rfl, fresh, rfl, no_commands, homes, path, (found _ _ leads).2⟩

/-- A user called `..` goes home and makes a directory there: it stands in the tree under that name,
where its path leads up to the root. -/
theorem home_of_dots_is_lost :
    let events : List Event :=
      [.execute default "su ..", .execute default "cd", .execute default "mkdir ."]
    let s := (guestShell.handleAll events).session
    Path.LegalSegment guestOptions.user ∧ guestOptions.tree = none ∧ guestOptions.commands = [] ∧
      (Machine.lookUp guestOptions ({} : MemoryStore)).1 = .ok none ∧
      Shell.start guestOptions ({} : MemoryStore) default {} = .ok guestShell ∧
      ¬ Path.LegalSegment ".." ∧ ¬ Path.Canonical s.path ∧
      (Node.dir s.root).Leads ["home", ".."] (.dir .nil) ∧
      s.node? (Path.ofSegments ["home", ".."]) = some (.dir s.root) ∧
      Node.dir s.root ≠ .dir .nil := by
  intro events s
  have illegal : ¬ Path.LegalSegment ".." := by decide
  have path : s.path = ("/home/.." : Text) := by decide +kernel
  have not_canonical : ¬ Path.Canonical s.path := by
    intro canonical
    exact illegal (canonical.legal ".." (by rw [path]; decide))
  have made : s.root.walk ["home", ".."] = some (.dir .nil) := by decide +kernel
  have led : s.node? (Path.ofSegments ["home", ".."]) = some (.dir s.root) := by decide +kernel
  have other : Node.dir s.root ≠ .dir .nil := by decide +kernel
  have leads := Node.leads_of_walk made
  exact ⟨by decide +kernel, rfl, rfl, rfl, rfl, illegal, not_canonical, leads, led, other⟩

end Shell
end PocketShell
