import PocketShell.CommandLine.Console
import PocketShell.CommandLine.Options
import PocketShell.Store.File
import PocketShell.Text.Literal

/-!
The whole program: options, a shell that keeps its state in a file, and then one command or a
conversation. Log entries below the chosen level are left out.
-/

namespace PocketShell.Program

/-- What the program finds when it is started. -/
structure World where
  disk : Disk
  clock : Moment
  size : ScreenSize
  codes : List Int := []
  closing : List Int := []

/-- Why the program does not begin. -/
inductive Fault
  | unknownLevel (name : Text)
  | noLevel
  | noUser
  | longNumber (n : Json.LongNumber)
  deriving DecidableEq, Repr

def Fault.message : Fault → Text
  | .unknownLevel name => "Unknown level: " ++ Text.literal name
  | .noLevel => "'list' object has no attribute 'upper'"
  | .noUser => "unhashable type: 'list'"
  | .longNumber n => n.message

/-- How a start ends: at once with an exit code, with a fault, or with a console to work on. -/
inductive Launch
  | exit (code : Nat)
  | fault (f : Fault)
  | console (c : Console FileStore) (command : List Text) (level : Nat)

def levelOf (name : Text) : Option Nat :=
  (logLevels.find? (·.1 = Text.upper name)).map Prod.snd

def startOptions (o : CommandLine.Options) (user : Text) (now : Moment) : StartOptions :=
  { tree := if o.examples then some (.exampleTree user now) else none,
    user := user,
    stem := if o.state.isEmpty then none else some (Checkpoint.effectiveStem o.stem) }

def stateStore (w : World) (o : CommandLine.Options) : FileStore :=
  { path := .ofText o.state, disk := w.disk }

/-- The user to start with. Without one, only a session that was saved can go on. -/
def userFor (w : World) (o : CommandLine.Options) : Except Fault Text :=
  match o.user with
  | some user => .ok user
  | none =>
      if o.examples then .error .noUser
      else match (Machine.lookUp (startOptions o [] w.clock) (stateStore w o)).1 with
        | .error n => .error (.longNumber n)
        | .ok none => .error .noUser
        | .ok (some _) => .ok []

def openShell (w : World) (o : CommandLine.Options) (user : Text) :
    Except Fault (Shell FileStore) :=
  let desk : Desk := { surface := some {} }
  (Shell.start (startOptions o user w.clock) (stateStore w o) w.clock desk).mapError .longNumber

def levelFor (o : CommandLine.Options) : Except Fault Nat :=
  match o.logLevel with
  | none => .error .noLevel
  | some name =>
      match levelOf name with
      | none => .error (.unknownLevel (Text.upper name))
      | some level => .ok level

/-- The console to work on, and the level of its log. -/
def begin (w : World) (o : CommandLine.Options) : Except Fault (Console FileStore × Nat) := do
  let level ← levelFor o
  let user ← userFor w o
  let shell ← openShell w o user
  return ({ shell, size := w.size, codes := w.codes, closing := w.closing }, level)

def launch (w : World) (setting : Text → Option Text) (args : List Text) : Launch :=
  match CommandLine.read (CommandLine.defaults setting) args with
  | .help => .exit 0
  | .usage => .exit 2
  | .options o =>
      match begin w o with
      | .error fault => .fault fault
      | .ok (console, level) => .console console o.command level

/-- A command is executed alone; without one, the lines are. -/
def work (c : Console FileStore) (command : List Text) (lines : List (Option Text)) :
    Console FileStore :=
  if command.isEmpty then c.converse lines else c.execute (Text.join [' '] command)

def logLine (stamp : Text) (entry : LogEntry) : Text :=
  "[" ++ stamp ++ "] " ++ entry.severity.name ++ ": " ++ entry.message ++ (['\n'] : Text)

/-- The log of a console from a level on, one entry a line. -/
def logText (stamp : Text) (level : Nat) (log : List LogEntry) : Text :=
  (log.filter fun entry => level ≤ entry.severity.level).flatMap (logLine stamp)

end PocketShell.Program
