import PocketShell.Proofs.Pipeline.Stages
import PocketShell.Proofs.Session.History
import PocketShell.Proofs.Shell.Restart

/-!
A line with a filter and a redirect does what its command does alone, and then filters the output
and writes it. The command runs before anything is written and knows nothing of the stages behind
it: apart from `ls`, which asks whether there is a filter, and `history`, which shows the line
itself, no built-in command can tell the line from its command. Behind `sudo` may stand either.
-/

namespace PocketShell

/-- Whether a command does the same whatever lines were entered and whatever stages follow. -/
def Handler.isPlain : Handler → Bool
  | .job (.tool tool) => tool ≠ .history && tool ≠ .ls
  | .job .edit => true
  | _ => false

theorem Registry.builtins_plain {name : Text} {command : Command}
    (h : builtins.get? name = some command)
    (apart : name ∉ (["ls", "history", "sudo"] : List Text)) : command.handler.isPlain := by
  have own : ∀ entry ∈ builtins.toList, entry.1 ∉ (["ls", "history", "sudo"] : List Text) →
      entry.2.handler.isPlain := by decide +kernel
  obtain ⟨entry, found, rfl⟩ := Option.map_eq_some_iff.mp h
  have same : entry.1 = name := by simpa using List.find?_some found
  exact own entry (List.mem_of_find?_eq_some found) (same ▸ apart)

namespace Shell

variable {σ : Type}

/-- The same shell after other lines. -/
def recalling (sh : Shell σ) (history : List Text) : Shell σ :=
  sh.withSession (sh.session.withHistory history)

/-- The same shell with another checkpoint, and other notes about it. -/
def storing (sh : Shell σ) (store : σ) (log : List LogEntry) : Shell σ :=
  sh.onMachine ({ · with store := store, log := log })

/-- There is one output and one shell for all lines entered before, whatever follows. -/
theorem run_recalling (nested : Shell σ → Text → Result σ) (sh : Shell σ) (name : Text)
    (args : List Text) {handler : Handler} (plain : handler.isPlain) :
    ∃ output ran, ∀ history piped,
      run nested (sh.recalling history) ⟨name, args, piped⟩ handler =
        (.ok output, recalling ran history) := by
  match handler, plain with
  | .job .edit, _ =>
      exact ⟨editorOpenedMark, (sh.openEditor (args.headD "untitled")).2, fun _ _ => rfl⟩
  | .job (.tool tool), plain =>
      have apart : tool ≠ .history ∧ tool ≠ .ls := by simpa [Handler.isPlain] using plain
      let used := sh.session.use sh.machine.clock tool args false
      refine ⟨used.1, sh.withSession used.2, fun history piped => ?_⟩
      have same : (sh.recalling history).session.use (sh.recalling history).machine.clock tool args
          piped = used.map id (·.withHistory history) :=
        sh.session.use_withHistory history _ args false piped apart.1 apart.2
      simp only [run, runJob, runTool, same]
      rfl

variable [KeyValueStore σ]

theorem checkpoint_recalling (sh : Shell σ) (history : List Text) :
    (sh.recalling history).checkpoint = sh.checkpoint.recalling history := by
  have stem : (sh.recalling history).machine.session.stem = sh.machine.session.stem := rfl
  simp only [checkpoint, onMachine, Machine.checkpoint, Machine.checkpointOf, stem]
  split <;> rfl

theorem checkpoint_eq_storing (sh : Shell σ) :
    ∃ store log, sh.checkpoint = sh.storing store log := by
  simp only [checkpoint, onMachine, Machine.checkpoint, Machine.checkpointOf]
  split
  · exact ⟨sh.machine.store, sh.machine.log, rfl⟩
  · exact ⟨_, _, rfl⟩

/-- A redirect writes into the shell that the command leaves alone, up to the checkpoint: that of
the command is not made, and a write that is refused has none. -/
theorem deliver_redirect (sh : Shell σ) (redirect : Redirect) (output : Text)
    (past history : List Text) :
    let alone := sh.checkpoint.recalling past
    ∃ store log, (sh.recalling history).deliver output (some redirect) =
      match alone.session.write redirect.target output redirect.mode with
      | .error fault => (fault.message redirect.target, (alone.recalling history).storing store log)
      | .ok s => ([], ((alone.withSession s).recalling history).storing store log) := by
  intro alone
  obtain ⟨store, log, saved⟩ := sh.checkpoint_eq_storing
  have alone_eq : alone = (sh.storing store log).recalling past := by rw [← saved]
  have here : (sh.recalling history).session.write redirect.target output redirect.mode =
      (sh.session.write redirect.target output redirect.mode).map (·.withHistory history) :=
    Session.write_withHistory _ _ _ _ _
  have there : alone.session.write redirect.target output redirect.mode =
      (sh.session.write redirect.target output redirect.mode).map (·.withHistory past) := by
    rw [alone_eq]
    exact Session.write_withHistory _ _ _ _ _
  simp only [deliver, here, there]
  rw [alone_eq]
  cases sh.session.write redirect.target output redirect.mode with
  | error fault => exact ⟨sh.machine.store, sh.machine.log, rfl⟩
  | ok s =>
      obtain ⟨store, log, saved⟩ := (sh.withSession (s.withHistory history)).checkpoint_eq_storing
      refine ⟨store, log, ?_⟩
      exact congrArg (Prod.mk []) saved

theorem filtered_some (g : GrepFilter) {output : Text} (some_output : output ≠ []) :
    filtered (some g) output = g.apply output := by
  simp [filtered, some_output]

theorem filtered_eq_self {filter : Option GrepFilter} {output : Text}
    (unfiltered : filter = none ∨ output = []) : filtered filter output = output := by
  cases filter with
  | none => rfl
  | some g => simp [filtered, unfiltered.resolve_left]

theorem executeWith_of_recalling (nested : Shell σ → Text → Result σ) (sh : Shell σ) {line : Text}
    {command : Command} (words : line.all isBlank = false)
    (known : sh.session.registry.get? (commandName line) = some command) {output : Text}
    {ran : Shell σ}
    (runs : ∀ history piped,
      run nested (sh.recalling history) ⟨commandName line, arguments sh.session line, piped⟩
        command.handler = (.ok output, ran.recalling history)) :
    executeWith nested sh line =
      (ran.recalling (sh.session.history ++ [line])).deliver
        (filtered (Stages.ofLine line).filter output) (Stages.ofLine line).redirect := by
  have remembers : sh.remembering line = sh.recalling (sh.session.history ++ [line]) := rfl
  rw [executeWith_of_known nested sh words known, invocation, remembers, runs]

/-- What stands before the stages of a line does what it does as a line of its own. Then a filter
is applied to its output, if there is a filter and the output is not empty, and the redirect
writes what comes of it. -/
theorem line_is_command_then_stages (sh : Shell σ) {line text name : Text}
    {filter : Option GrepFilter} {redirect : Option Redirect} {command : Command}
    (parted : Stages.ofLine line = ⟨text, filter, redirect⟩)
    (words : text.all isBlank = false) (no_pipe : .char '|' ∉ text) (no_redirect : .char '>' ∉ text)
    (first : (Text.words text).head? = some name)
    (known : sh.session.registry.get? name = some command)
    (own : Registry.builtins.get? name = some command)
    (apart : name ∉ (["ls", "history", "sudo"] : List Text)) :
    let alone := sh.execute text
    let history := sh.session.history ++ [line]
    alone.2.session.history = sh.session.history ++ [text] ∧
    ∃ output,
      (∀ g ∈ filter, alone.1 ≠ [] → output = g.apply alone.1) ∧
      (filter = none ∨ alone.1 = [] → output = alone.1) ∧
      (redirect = none → sh.execute line = (output, alone.2.recalling history)) ∧
      ∀ r ∈ redirect, ∃ store log, sh.execute line =
        match alone.2.session.write r.target output r.mode with
        | .error fault => (fault.message r.target, (alone.2.recalling history).storing store log)
        | .ok s => ([], ((alone.2.withSession s).recalling history).storing store log) := by
  intro alone history
  have plain := Registry.builtins_plain own apart
  have line_words : line.all isBlank = false := by
    rw [← Bool.not_eq_true]
    intro blank
    have text_blank := Stages.blank_of_ofLine blank
    simp [parted, words] at text_blank
  have text_parted := Stages.ofLine_plain no_pipe no_redirect
  have named : (Text.words text).headD [] = name := by simp [List.headD_eq_head?_getD, first]
  have line_name : commandName line = name := by simpa only [commandName, parted] using named
  have text_name : commandName text = name := by simpa only [commandName, text_parted] using named
  have line_args : arguments sh.session line = arguments sh.session text := by
    simp only [arguments, parted, text_parted]
  -- the command has one run, and the two lines differ in what they have remembered before it
  obtain ⟨said, ran, runs⟩ :=
    run_recalling (nestedIn nestingLimit) sh name (arguments sh.session text) plain
  have alone_eq : alone = (said, ran.checkpoint.recalling (sh.session.history ++ [text])) := by
    have result := executeWith_of_recalling _ sh words (text_name ▸ known) (text_name ▸ runs)
    rw [text_parted, ← execute_eq] at result
    exact result.trans (congrArg (Prod.mk said) (checkpoint_recalling _ _))
  have line_eq :
      sh.execute line = (ran.recalling history).deliver (filtered filter said) redirect := by
    have result := executeWith_of_recalling _ sh line_words (line_name ▸ known)
      (line_name ▸ line_args ▸ runs)
    rwa [parted, ← execute_eq] at result
  rw [line_eq, alone_eq]
  refine ⟨rfl, filtered filter said, ?_, ?_, ?_, ?_⟩
  · rintro g rfl some_output
    exact filtered_some g some_output
  · exact filtered_eq_self
  · rintro rfl
    exact congrArg (Prod.mk _) (checkpoint_recalling _ _)
  · rintro redirect rfl
    exact deliver_redirect ran redirect _ _ history

/-- Of a file, the lines that a filter keeps are written to another one. -/
theorem guest_writes_what_is_found :
    let line : Text := "cat README.md | grep Unix > found.txt"
    let text : Text := "cat README.md"
    Stages.ofLine line =
        ⟨text, some ⟨"Unix", false, false⟩, some ⟨"found.txt", .overwrite⟩⟩ ∧
      text.all isBlank = false ∧ .char '|' ∉ text ∧ .char '>' ∉ text ∧
      (Text.words text).head? = some ("cat" : Text) ∧
      (Registry.builtins.get? "cat").isSome ∧
      (guestShell.execute text).1 = "# Welcome\n\nThis is a simple Unix shell emulator.\n" ∧
      (guestShell.execute text).2.session.history = [text] ∧
      ∃ s store log,
        (guestShell.execute text).2.session.write "found.txt"
          "This is a simple Unix shell emulator." .overwrite = .ok s ∧
        s.nodeAt "/home/guest/found.txt" = some (.file "This is a simple Unix shell emulator.") ∧
        guestShell.execute line =
          ([], (((guestShell.execute text).2.withSession s).recalling [line]).storing
            store log) := by
  intro line text
  have parted : Stages.ofLine line =
      ⟨text, some ⟨"Unix", false, false⟩, some ⟨"found.txt", .overwrite⟩⟩ := by decide +kernel
  have words : text.all isBlank = false := by decide +kernel
  have no_pipe : .char '|' ∉ text := by decide +kernel
  have no_redirect : .char '>' ∉ text := by decide +kernel
  have first : (Text.words text).head? = some ("cat" : Text) := by decide +kernel
  have found : (Registry.builtins.get? "cat").isSome := by decide +kernel
  obtain ⟨command, known⟩ := Option.isSome_iff_exists.mp found
  obtain ⟨remembered, output, filters, _, _, written⟩ := line_is_command_then_stages guestShell
    parted words no_pipe no_redirect first known known (by decide +kernel)
  have shown : (guestShell.execute text).1 =
      "# Welcome\n\nThis is a simple Unix shell emulator.\n" := by decide +kernel
  have output_eq : output = "This is a simple Unix shell emulator." := by
    rw [filters _ rfl (by rw [shown]; decide), shown]
    decide +kernel
  have there : ((guestShell.execute text).2.session.write "found.txt"
      "This is a simple Unix shell emulator." .overwrite).toOption.bind
        (·.nodeAt "/home/guest/found.txt") =
          some (.file "This is a simple Unix shell emulator.") := by decide +kernel
  have of_toOption {result : Except WriteFault Session} {s : Session}
      (h : result.toOption = some s) : result = .ok s := by
    cases result with
    | error fault => cases h
    | ok s => exact congrArg _ (Option.some.inj h)
  obtain ⟨s, wrote, there⟩ := Option.bind_eq_some_iff.mp there
  have wrote := of_toOption wrote
  obtain ⟨store, log, ended⟩ := written _ rfl
  simp only [output_eq, wrote] at ended
  exact ⟨parted, words, no_pipe, no_redirect, first, found, shown, remembered, s, store, log, wrote,
    there, ended⟩

/-- An inverted filter, a write that follows a move, and one that is refused. -/
example : (guestShell.execute "cat README.md | grep -v Unix").1 = "# Welcome\n" ∧
    (guestShell.execute "cd /tmp | grep x > out.txt").2.session.nodeAt "/tmp/out.txt" =
      some (.file []) ∧
    (guestShell.execute "cat README.md > /nope/x").1 =
      "bash: /nope/x: No such file or directory" := by decide +kernel

end Shell
end PocketShell
