import PocketShell.FullScreen
import PocketShell.Shell.Execute

/-!
A console: a shell with the text written so far and the keyboard of its full-screen editor. What
a command puts out is written without line feeds at its end and with one behind it, but for
three marks: one clears the terminal, one hands the screen to the open editors, and one tells
of another user and is not shown.
-/

namespace PocketShell

structure Console (σ : Type) where
  shell : Shell σ
  output : Text := []
  screens : List (List Span) := []
  size : ScreenSize
  /-- The codes that the keyboard delivers. -/
  codes : List Int := []
  /-- The codes that it delivers when those are used up. -/
  closing : List Int := []

namespace Console

variable {σ : Type}

def print (c : Console σ) (t : Text) : Console σ := { c with output := c.output ++ t }

/-- The directory of a prompt: a tilde stands for the home directory at its head. -/
def shownPath (path home : Text) : Text :=
  if path = home ∨ (home ++ (['/'] : Text)).isPrefixOf path then '~' :: path.drop home.length
  else path

def prompt (sh : Shell σ) : Text :=
  let s := sh.session
  s.user ++ "@unixshell:" ++ shownPath s.path s.environment.home
    ++ (if s.user = rootUser then "# " else "$ ")

variable [KeyValueStore σ]

/-- Lets the keyboard work on the open editors until all are closed. -/
def runEditors (c : Console σ) : Console σ :=
  let surface (sh : Shell σ) : Surface Nat := sh.desk.surfaceD
  let send (k : Key) (sh : Shell σ) : Shell σ := sh.send k
  let (shell, screens, codes) := FullScreen.pump c.size surface send c.shell c.codes
  let (shell, more, _) := FullScreen.pump c.size surface send shell c.closing
  { c with shell := shell, screens := c.screens ++ screens ++ more, codes := codes }

inductive Display
  | clear
  | editors
  | silent
  | text (t : Text)
  deriving DecidableEq, Repr

/-- What is to be done with the output of a command. -/
def display (output : Text) : Display :=
  if output = clearMark then .clear
  else if output = Shell.editorOpenedMark then .editors
  else if Session.userSwitchedMark.isPrefixOf output || output.isEmpty then .silent
  else .text (Text.trimEndWhen (· = '\n') output ++ (['\n'] : Text))

def clearSequence : Text := "\x1b[2J\x1b[H"

def present (c : Console σ) (output : Text) : Console σ :=
  match display output with
  | .clear => c.print clearSequence
  | .editors => c.runEditors
  | .silent => c
  | .text t => c.print t

def execute (c : Console σ) (line : Text) : Console σ :=
  let (output, shell) := c.shell.execute line
  { c with shell := shell }.present output

/-- One line behind a prompt; an interrupt takes the place of a line. -/
def enter (c : Console σ) (line : Option Text) : Console σ :=
  let c := c.print (prompt c.shell)
  match line with
  | some line => c.execute line
  | none => c.print ['\n']

/-- All lines up to the end of the input. -/
def converse (c : Console σ) (lines : List (Option Text)) : Console σ :=
  let c := lines.foldl enter c
  (c.print (prompt c.shell)).print ['\n']

end Console
end PocketShell
