import PocketShell.OrderedMap
import PocketShell.Text.Basic

/-!
The commands of a session by name. A command is built in or is given by the host; registering a
name again replaces its command and keeps its place.
-/

namespace PocketShell

/-- Built-in commands that concern the session alone. -/
inductive Tool
  | help
  | clear
  | echo
  | whoami
  | date
  | uname
  | env
  | history
  | ps
  | ls
  | cd
  | pwd
  | cat
  | mkdir
  | touch
  | rm
  | tree
  | su
  | exit
  deriving DecidableEq, Repr

/-- What a command given by the host does with its text: report it with the invocation, return it,
fail with it, write a file and fail with it, or run it as a command line with the arguments. -/
inductive HostCommand
  | report (text : Text)
  | text (text : Text)
  | fail (text : Text)
  | writeAndFail (text : Text)
  | alias (line : Text)
  deriving DecidableEq, Repr

/-- What a command does once its name and arguments are known. -/
inductive Job
  | tool (t : Tool)
  | edit
  | host (h : HostCommand)
  deriving DecidableEq, Repr

inductive Handler
  | job (j : Job)
  | sudo
  deriving DecidableEq, Repr

structure Command where
  handler : Handler
  summary : Text := []
  usage : Text := []
  deriving DecidableEq, Repr

structure Invocation where
  name : Text
  args : List Text
  piped : Bool
  deriving DecidableEq, Repr

abbrev Registry := OrderedMap Text Command

namespace Registry

def tool (name : Text) (t : Tool) (summary usage : Text) : Text × Command :=
  (name, ⟨.job (.tool t), summary, usage⟩)

def builtins : Registry := .ofList
  [tool "help" .help "List available commands" "help [command]",
   tool "clear" .clear "Clear the terminal screen" "clear",
   tool "echo" .echo "Print arguments" "echo [text...]",
   tool "whoami" .whoami "Show current user" "whoami",
   tool "date" .date "Show current time" "date",
   tool "uname" .uname "Display system information" "uname [-a]",
   tool "env" .env "List environment variables" "env",
   tool "history" .history "Show command history" "history",
   tool "ps" .ps "List running processes" "ps",
   tool "ls" .ls "List directory contents" "ls [-alh] [path...]",
   tool "cd" .cd "Change directory" "cd [path]",
   tool "pwd" .pwd "Print working directory" "pwd",
   tool "cat" .cat "Print file contents" "cat <path>",
   tool "mkdir" .mkdir "Create directory" "mkdir <path>",
   tool "touch" .touch "Create empty file" "touch <path>",
   tool "rm" .rm "Remove files or directories" "rm [-rfv] <path...>",
   tool "tree" .tree "Display the current directory as a tree" "tree",
   ("vi", ⟨.job .edit, "Edit a file with the vi editor", "vi [path]"⟩),
   ("vim", ⟨.job .edit, "Edit a file with the vi editor", "vim [path]"⟩),
   tool "su" .su "Switch user" "su [user]",
   ("sudo", ⟨.sudo, "Run a command as another user", "sudo <command> [args...]"⟩),
   tool "exit" .exit "Return to the previous user session" "exit"]

/-- The job that the words behind `sudo` name in the end, with its name and arguments, or what is
said when they name none. The word `su` always means the built-in command. -/
def behindSudo (r : Registry) : List Text → Text ⊕ (Job × Text × List Text)
  | [] => .inl "usage: sudo command"
  | name :: args =>
      if name = (['s', 'u'] : Text) then .inr (.tool .su, name, args)
      else match (r.get? name).map Command.handler with
        | none => .inl ("sudo: " ++ name ++ ": command not found")
        | some .sudo => behindSudo r args
        | some (.job job) => .inr (job, name, args)

end Registry
end PocketShell
