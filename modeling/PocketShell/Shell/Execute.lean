import PocketShell.Pipeline.Stages
import PocketShell.Session.Tools
import PocketShell.Shell.Basic

/-!
Executing a command line. The line is remembered and parted into its stages; the first word of
the command names it, wildcards in the others are expanded. Its output goes through the filter
and to the redirect, and a checkpoint follows unless the command is not known, fails, or cannot
be redirected. A command given by the host may itself execute a line.
-/

namespace PocketShell.Shell

variable {σ : Type}

/-- What a command comes to: output, or a failure with its text. Either way it leaves a shell. -/
abbrev Result (σ : Type) := Except Text Text × Shell σ

def boolText (b : Bool) : Text := if b then "true" else "false"

def reportText (text : Text) (invocation : Invocation) : Text :=
  Text.join ['|']
    [text, invocation.name, Text.join [','] invocation.args, boolText invocation.piped]

def aliasLine (line : Text) (args : List Text) : Text :=
  if args.isEmpty then line else line ++ .char ' ' :: Text.join [' '] args

def writePartly (sh : Shell σ) : Shell σ :=
  match sh.session.write "partial.txt" "partial" .overwrite with
  | .error _ => sh
  | .ok s => sh.withSession s

/-- Runs a command of the host; `nested` executes a line on its behalf. -/
def runHost (nested : Shell σ → Text → Result σ) (sh : Shell σ) (invocation : Invocation) :
    HostCommand → Result σ
  | .report text => (.ok (reportText text invocation), sh)
  | .text text => (.ok text, sh)
  | .fail text => (.error text, sh)
  | .writeAndFail text => (.error text, sh.writePartly)
  | .alias line => nested sh (aliasLine line invocation.args)

def runTool (sh : Shell σ) (tool : Tool) (invocation : Invocation) : Result σ :=
  let (output, s) := sh.session.use sh.machine.clock tool invocation.args invocation.piped
  (.ok output, sh.withSession s)

def edit (sh : Shell σ) (invocation : Invocation) : Result σ :=
  let (output, sh) := sh.openEditor (invocation.args.headD "untitled")
  (.ok output, sh)

def runJob (nested : Shell σ → Text → Result σ) (sh : Shell σ) (invocation : Invocation) :
    Job → Result σ
  | .tool tool => runTool sh tool invocation
  | .edit => edit sh invocation
  | .host command => runHost nested sh invocation command

/-- Runs a command; what the words behind `sudo` name runs as the same user. -/
def run (nested : Shell σ → Text → Result σ) (sh : Shell σ) (invocation : Invocation) :
    Handler → Result σ
  | .job job => runJob nested sh invocation job
  | .sudo =>
      match sh.session.registry.behindSudo invocation.args with
      | .inl message => (.ok message, sh)
      | .inr (job, name, args) => runJob nested sh ⟨name, args, invocation.piped⟩ job

def failureLog (name text : Text) : LogEntry :=
  ⟨.error, .shell, "Command " ++ name ++ " failed: " ++ text⟩

variable [KeyValueStore σ]

/-- Sends the output of a finished command to its redirect, if there is one, and saves. -/
def deliver (sh : Shell σ) (output : Text) : Option Redirect → Text × Shell σ
  | none => (output, sh.checkpoint)
  | some redirect =>
      match sh.session.write redirect.target output redirect.mode with
      | .error fault => (fault.message redirect.target, sh)
      | .ok s => ([], (sh.withSession s).checkpoint)

/-- What a filter makes of an output; an empty output stays empty. -/
def filtered (filter : Option GrepFilter) (output : Text) : Text :=
  match filter with
  | some g => if output.isEmpty then output else g.apply output
  | none => output

def executeWith (nested : Shell σ → Text → Result σ) (sh : Shell σ) (line : Text) :
    Text × Shell σ :=
  if line.all isBlank then ([], sh)
  else
    let sh := sh.withSession (sh.session.remember line)
    let stages := Stages.ofLine line
    let words := Text.words stages.command
    let name := words.headD []
    match sh.session.registry.get? name with
    | none => (name ++ ": command not found", sh)
    | some command =>
        let invocation : Invocation :=
          ⟨name, sh.session.expandWildcards words.tail, stages.filter.isSome⟩
        match run nested sh invocation command.handler with
        | (.error text, sh) =>
            ("Error executing " ++ name ++ ": " ++ text,
              sh.onMachine (·.note [failureLog name text]))
        | (.ok output, sh) => sh.deliver (filtered stages.filter output) stages.redirect

/-- Executes a line with at most `n` lines nested in each other on behalf of the host. -/
def executeNested : Nat → Shell σ → Text → Text × Shell σ
  | 0, sh, line =>
      executeWith (fun sh _ => (.error "maximum recursion depth exceeded", sh)) sh line
  | n + 1, sh, line =>
      executeWith
        (fun sh line =>
          let (output, sh) := executeNested n sh line
          (.ok output, sh))
        sh line

def nestingLimit : Nat := 1000

def execute (sh : Shell σ) (line : Text) : Text × Shell σ := executeNested nestingLimit sh line

end PocketShell.Shell
