import PocketShell.Pipeline.GrepFilter
import PocketShell.Session.Listing
import PocketShell.Session.Write

/-!
The built-in commands that concern the session alone. Each gives its output and the session
after it; what goes wrong is said in the output.
-/

namespace PocketShell

def clearMark : Text := "__CLEAR__"

def systemName : Text := "UnixShell"

def systemRelease : Text := "1.0.0"

/-- The letters of all flags together, and the other arguments. -/
def splitFlags (args : List Text) : Text × List Text :=
  let isFlag (arg : Text) : Bool := arg.head? == some (.char '-')
  ((args.filter isFlag).flatMap (·.drop 1), args.filter fun arg => !isFlag arg)

/-- A complaint of a tool about a target. -/
def complaint (tool action target reason : Text) : Text :=
  tool ++ ": " ++ action ++ " '" ++ target ++ "': " ++ reason

def processTable : Text := Text.unlines
  ["  PID TTY          TIME CMD",
   "    1 ?                0:01 init",
   "  100 pts/0            0:00 bash",
   "  101 pts/0            0:00 ps",
   ""]

structure RemoveOptions where
  recursive : Bool
  force : Bool
  verbose : Bool
  deriving DecidableEq, Repr

def RemoveOptions.ofFlags (flags : Text) : RemoveOptions :=
  ⟨flags.contains 'r' || flags.contains 'R', flags.contains 'f', flags.contains 'v'⟩

/-- A session in the course of removing targets, with what is to be said. -/
structure RemoveRun where
  session : Session
  removed : List Text := []
  errors : List Text := []

namespace Session

def helpTopic (s : Session) (topic : Text) : Text :=
  match s.registry.get? topic with
  | none => "help: no help topics match '" ++ topic ++ "'"
  | some command =>
      Text.unlines <|
        [topic, List.replicate topic.length '-']
          ++ (if command.summary.isEmpty then [] else [command.summary])
          ++ (if command.usage.isEmpty then [] else ["Usage: " ++ command.usage])

def helpIndex (s : Session) : Text :=
  let commands := s.registry.toList.mergeSort fun a b => Text.ble a.1 b.1
  let line (entry : Text × Command) : Text :=
    Text.trimEnd ("  " ++ Text.padEnd 10 entry.1 ++ " " ++ entry.2.summary)
  "Available commands:\n" ++ Text.unlines (commands.map line)
    ++ "\n\nType any command to try it out!"

def environmentText (s : Session) : Text :=
  Text.unlines (s.environment.entries.map fun (key, value) => key ++ "=" ++ value)

def historyText (s : Session) : Text :=
  Text.unlines (s.history.zipIdx.map fun (line, i) => Text.ofNat (i + 1) ++ "  " ++ line)

/-- What `ls` says about one target; an empty directory gives nothing. -/
def listTarget (s : Session) (now : Moment) (style : ListingStyle) (target : Text) : Option Text :=
  let path := if target = (['.'] : Text) then s.path else s.resolve target
  match s.nodeAt path with
  | none => some ("ls: cannot access '" ++ target ++ "': No such file or directory")
  | some (.file _) => some target
  | some (.dir d) => Listing.text style now s.user path d

def list (s : Session) (now : Moment) (args : List Text) (piped : Bool) : Text :=
  let (flags, operands) := splitFlags args
  let style : ListingStyle :=
    ⟨flags.contains 'a', flags.contains 'l', flags.contains 'h', piped⟩
  let targets := if operands.isEmpty then [s.path] else operands
  Text.unlines (targets.filterMap (s.listTarget now style))

def changeDirectory (s : Session) (target : Text) : Text × Session :=
  let path := s.resolve target
  match s.nodeAt path with
  | none => ("cd: " ++ target ++ ": No such file or directory", s)
  | some (.file _) => ("cd: " ++ target ++ ": Not a directory", s)
  | some (.dir _) => ([], s.moveTo path)

def concatenate (s : Session) (target : Text) : Text :=
  match s.node? target with
  | none => "cat: " ++ target ++ ": No such file or directory"
  | some (.dir _) => "cat: " ++ target ++ ": Is a directory"
  | some (.file content) => content

/-- Output and session of a creation. -/
def created (s : Session) (tool action target : Text) (result : Except CreateFault Session) :
    Text × Session :=
  match result with
  | .error fault => (complaint tool action target fault.reason, s)
  | .ok s => ([], s)

def removeOne (options : RemoveOptions) (run : RemoveRun) (target : Text) : RemoveRun :=
  let fail (reason : Text) : RemoveRun :=
    { run with errors := run.errors ++ [complaint "rm" "cannot remove" target reason] }
  match run.session.removal options.recursive target with
  | .denied => fail "Permission denied"
  | .missing => if options.force then run else fail "No such file or directory"
  | .isADirectory => if options.force then run else fail "Is a directory"
  | .allowed place name =>
      { run with
        session := run.session.change place (·.erase name),
        removed := if options.verbose then run.removed ++ ["removed '" ++ target ++ "'"]
          else run.removed }

def remove (s : Session) (args : List Text) : Text × Session :=
  let (flags, targets) := splitFlags args
  if targets.isEmpty then ("rm: missing operand", s)
  else
    let start : RemoveRun := { session := s }
    let run := targets.foldl (removeOne (.ofFlags flags)) start
    (Text.unlines (run.removed ++ run.errors), run.session)

def drawTree (s : Session) : Text :=
  match s.nodeAt s.path with
  | some (.dir d) => Drawing.text s.path d
  | _ => "tree: " ++ s.path ++ ": No such file or directory"

def leaveUser (s : Session) : Text × Session :=
  match s.restoreUser with
  | (none, s) => ("exit: no other user session to return to", s)
  | (some mark, s) => (mark, s)

def use (s : Session) (now : Moment) (tool : Tool) (args : List Text) (piped : Bool) :
    Text × Session :=
  match tool, args with
  | .help, [] => (s.helpIndex, s)
  | .help, topic :: _ => (s.helpTopic topic, s)
  | .clear, _ => (clearMark, s)
  | .echo, _ => (Text.unquote (Text.join [' '] args), s)
  | .whoami, _ => (s.environment.user, s)
  | .date, _ => (now.dateStamp, s)
  | .uname, _ =>
      (if args.contains ['-', 'a'] then
        systemName ++ " " ++ systemRelease ++ " " ++ systemName ++ " Terminal x86_64 GNU/Python"
      else systemName, s)
  | .env, _ => (s.environmentText, s)
  | .history, _ => (s.historyText, s)
  | .ps, _ => (processTable, s)
  | .ls, _ => (s.list now args piped, s)
  | .cd, [] => ([], s.moveTo s.environment.home)
  | .cd, target :: _ => s.changeDirectory target
  | .pwd, _ => (s.path, s)
  | .cat, [] => ("cat: missing file operand", s)
  | .cat, target :: _ => (s.concatenate target, s)
  | .mkdir, [] => ("mkdir: missing operand", s)
  | .mkdir, target :: _ =>
      s.created "mkdir" "cannot create directory" target (s.makeDirectory target)
  | .touch, [] => ("touch: missing file operand", s)
  | .touch, target :: _ => s.created "touch" "cannot touch" target (s.touch target)
  | .rm, _ => s.remove args
  | .tree, _ => (s.drawTree, s)
  | .su, [] => s.switchUser rootUser
  | .su, user :: _ => s.switchUser user
  | .exit, _ => s.leaveUser

end Session
end PocketShell
