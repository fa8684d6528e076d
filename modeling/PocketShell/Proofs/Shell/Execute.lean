import PocketShell.Proofs.Session.Step
import PocketShell.Shell.Execute

/-!
What a line comes to in a session that has only the built-in commands. Such a line never fails and
never executes another one, so it is blank, or its command is not known, or its command runs, which
is steps of the session or the opening of an editor, and its output is delivered.
-/

namespace PocketShell

def Handler.isHost : Handler → Bool
  | .job (.host _) => true
  | _ => false

namespace Registry

theorem builtins_not_host {name : Text} {command : Command}
    (h : builtins.get? name = some command) : command.handler.isHost = false := by
  have own : ∀ entry ∈ builtins.toList, entry.2.handler.isHost = false := by decide +kernel
  obtain ⟨entry, found, rfl⟩ := Option.map_eq_some_iff.mp h
  exact own entry (List.mem_of_find?_eq_some found)

/-- What stands behind `sudo` is a built-in command with some of the arguments, or nothing. -/
theorem behindSudo_builtins (args : List Text) {job : Job} {name : Text} {rest : List Text}
    (h : builtins.behindSudo args = .inr (job, name, rest)) :
    (Handler.job job).isHost = false ∧ ∀ arg ∈ rest, arg ∈ args := by
  induction args with
  | nil => simp [behindSudo] at h
  | cons first args ih =>
      simp only [behindSudo] at h
      split at h
      · cases h
        exact ⟨rfl, fun arg mem => List.mem_cons_of_mem _ mem⟩
      · split at h
        · cases h
        · obtain ⟨own, sub⟩ := ih h
          exact ⟨own, fun arg mem => List.mem_cons_of_mem _ (sub arg mem)⟩
        · next job' found =>
          cases h
          obtain ⟨command, there, handler⟩ := Option.map_eq_some_iff.mp found
          exact ⟨handler ▸ builtins_not_host there, fun arg mem => List.mem_cons_of_mem _ mem⟩

end Registry

namespace Shell

variable {σ : Type}

/-- The word of a line that names its command. -/
def commandName (line : Text) : Text := (Text.words (Stages.ofLine line).command).headD []

/-- The arguments that a line gives to its command, wildcards being expanded. -/
def arguments (s : Session) (line : Text) : List Text :=
  s.expandWildcards (Text.words (Stages.ofLine line).command).tail

/-- How a line has its command run. -/
def invocation (s : Session) (line : Text) : Invocation :=
  ⟨commandName line, arguments s line, (Stages.ofLine line).filter.isSome⟩

/-- What running a built-in command with the arguments `args` can make of a shell. -/
inductive Ran (args : List Text) (sh : Shell σ) : Shell σ → Prop
  | tool (s : Session) : Session.Steps args sh.session s → Ran args sh (sh.withSession s)
  | edit (file : Text) : Ran args sh (sh.openEditor file).2

theorem ran_job (nested : Shell σ → Text → Result σ) (sh : Shell σ) (invocation : Invocation)
    {args : List Text} (sub : ∀ arg ∈ invocation.args, arg ∈ args) {job : Job}
    (own : (Handler.job job).isHost = false) :
    ∃ output ran, runJob nested sh invocation job = (.ok output, ran) ∧ Ran args sh ran := by
  cases job with
  | tool tool =>
      have steps := sh.session.use_steps sh.machine.clock tool invocation.args invocation.piped
      exact ⟨_, _, rfl, .tool _ (steps.mono sub)⟩
  | edit => exact ⟨_, _, rfl, .edit _⟩
  | host command => cases own

theorem ran_builtin (nested : Shell σ → Text → Result σ) (sh : Shell σ) (invocation : Invocation)
    (builtins : sh.session.registry = Registry.builtins) {handler : Handler}
    (own : handler.isHost = false) :
    ∃ output ran, run nested sh invocation handler = (.ok output, ran) ∧
      Ran invocation.args sh ran := by
  match handler, own with
  | .job job, own => exact ran_job nested sh invocation (fun _ mem => mem) own
  | .sudo, _ =>
      simp only [run, builtins]
      split
      · exact ⟨_, sh, rfl, .tool sh.session .refl⟩
      · next job name args found =>
        obtain ⟨own, sub⟩ := Registry.behindSudo_builtins invocation.args found
        exact ran_job nested sh _ sub own

variable [KeyValueStore σ]

theorem checkpoint_session (sh : Shell σ) : sh.checkpoint.session = sh.session := by
  simp only [checkpoint, onMachine, Machine.checkpoint, Machine.checkpointOf]
  split <;> rfl

/-- The line is remembered before anything else is done with it. -/
def remembering (sh : Shell σ) (line : Text) : Shell σ :=
  sh.withSession (sh.session.remember line)

/-- What executing a line gives and leaves behind. -/
inductive Executed (sh : Shell σ) (line : Text) : Text × Shell σ → Prop
  | blank : line.all isBlank = true → Executed sh line ([], sh)
  | unknown : line.all isBlank = false → Registry.builtins.get? (commandName line) = none →
      Executed sh line (commandName line ++ ": command not found", sh.remembering line)
  | ran (output : Text) (ran : Shell σ) : line.all isBlank = false →
      (Registry.builtins.get? (commandName line)).isSome →
      Ran (arguments sh.session line) (sh.remembering line) ran →
      Executed sh line (ran.deliver output (Stages.ofLine line).redirect)

theorem executeWith_of_known (nested : Shell σ → Text → Result σ) (sh : Shell σ) {line : Text}
    {command : Command} (words : line.all isBlank = false)
    (known : sh.session.registry.get? (commandName line) = some command) :
    executeWith nested sh line =
      match run nested (sh.remembering line) (invocation sh.session line) command.handler with
      | (.error text, sh) =>
          ("Error executing " ++ commandName line ++ ": " ++ text,
            sh.onMachine (·.note [failureLog (commandName line) text]))
      | (.ok output, sh) =>
          sh.deliver (filtered (Stages.ofLine line).filter output)
            (Stages.ofLine line).redirect := by
  have found : (sh.withSession (sh.session.remember line)).session.registry.get?
      ((Text.words (Stages.ofLine line).command).headD []) = some command := known
  simp only [executeWith, words, Bool.false_eq_true, if_false, found]
  rfl

theorem executeWith_of_unknown (nested : Shell σ → Text → Result σ) (sh : Shell σ) {line : Text}
    (words : line.all isBlank = false)
    (unknown : sh.session.registry.get? (commandName line) = none) :
    executeWith nested sh line =
      (commandName line ++ ": command not found", sh.remembering line) := by
  have missing : (sh.withSession (sh.session.remember line)).session.registry.get?
      ((Text.words (Stages.ofLine line).command).headD []) = none := unknown
  simp only [executeWith, words, Bool.false_eq_true, if_false, missing]
  rfl

/-- A line is blank, or its command is not known, or its command runs and its output is delivered
unless it fails. -/
theorem executeWith_cases (nested : Shell σ → Text → Result σ) (sh : Shell σ) (line : Text) :
    (line.all isBlank = true ∧ executeWith nested sh line = ([], sh)) ∨
    (line.all isBlank = false ∧ sh.session.registry.get? (commandName line) = none ∧
      executeWith nested sh line =
        (commandName line ++ ": command not found", sh.remembering line)) ∨
    (line.all isBlank = false ∧ ∃ command,
      sh.session.registry.get? (commandName line) = some command ∧
      executeWith nested sh line =
        match run nested (sh.remembering line) (invocation sh.session line) command.handler with
        | (.error text, sh) =>
            ("Error executing " ++ commandName line ++ ": " ++ text,
              sh.onMachine (·.note [failureLog (commandName line) text]))
        | (.ok output, sh) =>
            sh.deliver (filtered (Stages.ofLine line).filter output)
              (Stages.ofLine line).redirect) := by
  cases words : line.all isBlank with
  | true =>
      refine .inl ⟨rfl, ?_⟩
      simp only [executeWith, words, if_true]
  | false =>
      cases known : sh.session.registry.get? (commandName line) with
      | none => exact .inr (.inl ⟨rfl, rfl, executeWith_of_unknown nested sh words known⟩)
      | some command =>
          exact .inr (.inr ⟨rfl, command, rfl, executeWith_of_known nested sh words known⟩)

theorem executed_with (nested : Shell σ → Text → Result σ) (sh : Shell σ) (line : Text)
    (builtins : sh.session.registry = Registry.builtins) :
    Executed sh line (executeWith nested sh line) := by
  rcases executeWith_cases nested sh line with
    ⟨blank, result⟩ | ⟨words, unknown, result⟩ | ⟨words, command, known, result⟩
  · rw [result]
    exact .blank blank
  · rw [result]
    exact .unknown words (builtins ▸ unknown)
  · rw [builtins] at known
    obtain ⟨output, ran, finished, steps⟩ := ran_builtin nested (sh.remembering line)
      (invocation sh.session line) builtins (Registry.builtins_not_host known)
    rw [result, finished]
    exact .ran _ ran words (by simp [known]) steps

/-- How a line is executed for the host, at most `n` lines being nested in each other. -/
def nestedIn : Nat → Shell σ → Text → Result σ
  | 0, sh, _ => (.error "maximum recursion depth exceeded", sh)
  | n + 1, sh, line =>
      let (output, sh) := executeNested n sh line
      (.ok output, sh)

theorem executeNested_eq (n : Nat) (sh : Shell σ) (line : Text) :
    executeNested n sh line = executeWith (nestedIn n) sh line := by
  cases n <;> rfl

theorem execute_eq (sh : Shell σ) (line : Text) :
    sh.execute line = executeWith (nestedIn nestingLimit) sh line :=
  executeNested_eq nestingLimit sh line

theorem executed (sh : Shell σ) (line : Text)
    (builtins : sh.session.registry = Registry.builtins) :
    Executed sh line (sh.execute line) := by
  rw [execute_eq]
  exact executed_with _ sh line builtins

end Shell
end PocketShell
