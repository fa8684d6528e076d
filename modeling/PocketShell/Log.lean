import PocketShell.Text.Basic

/-!
Log entries: what went wrong without stopping the program, by the part that noticed it.
-/

namespace PocketShell

inductive Severity
  | warning
  | error
  deriving DecidableEq, Repr

inductive Component
  | shell
  | persistence
  | editor
  deriving DecidableEq, Repr

structure LogEntry where
  severity : Severity
  component : Component
  message : Text
  deriving DecidableEq, Repr

namespace Severity

def name : Severity → Text
  | .warning => "WARNING"
  | .error => "ERROR"

/-- The level of a severity on the scale of `levels`. -/
def level : Severity → Nat
  | .warning => 30
  | .error => 40

end Severity

namespace Component

def name : Component → Text
  | .shell => "unixshell.shell"
  | .persistence => "unixshell.persistence"
  | .editor => "unixshell.editor"

end Component

/-- The names of the levels below which entries may be left out. -/
def logLevels : List (Text × Nat) :=
  [("CRITICAL", 50), ("FATAL", 50), ("ERROR", 40), ("WARN", 30), ("WARNING", 30), ("INFO", 20),
   ("DEBUG", 10), ("NOTSET", 0)]

namespace LogEntry

def couldNotWrite (file : Text) : LogEntry := ⟨.warning, .editor, "Could not write " ++ file⟩

end LogEntry
end PocketShell
